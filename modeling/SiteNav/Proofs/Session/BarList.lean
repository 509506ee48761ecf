import Mathlib.Data.List.Induction
import Mathlib.Data.List.Nodup
import SiteNav.Proofs.Session.Registration

/-!
# Bars side by side

Bars that stand side by side are numbered in the order in which they come, and no number is used
twice. Clicks and moves through the history leave them alone; a bar changes its links only when it
runs. So every bar can be traced back to the step at which it last ran, and it shows what was
registered then.
-/

namespace SiteNav

/-! ### What the links of a bar were made by -/

/-- The builder by which the links of a bar were made, if there was one when the bar last ran. -/
def BarLinks.builder? : BarLinks → Option Builder
  | .offering _ => none
  | .built b => some b

@[simp] lemma BarLinks.builder?_offering (navigator : Option String) :
    (BarLinks.offering navigator).builder? = none := rfl

@[simp] lemma BarLinks.builder?_built (b : Builder) : (BarLinks.built b).builder? = some b := rfl

/-- A bar that is mounted finds the registered builder. -/
@[simp] lemma BarLinks.builder?_mount (registry : Registry) (navigator : Option String) :
    (BarLinks.mount registry navigator).builder? = registry.builder := by
  obtain ⟨_ | b⟩ := registry <;> rfl

/-- A bar that runs again keeps its builder only where none is registered. -/
@[simp] lemma BarLinks.builder?_rerun (registry : Registry) (links : BarLinks) :
    (links.rerun registry).builder? = registry.builder.or links.builder? := by
  obtain ⟨_ | b⟩ := registry <;> rfl

/-! ### Steps among bars -/

/-- A step runs the bar with a given number again, if there is one. -/
def Step.Reruns (id : Nat) : Step → Prop
  | .rerun none => True
  | .rerun (some other) => other = id
  | .router _ | .click _ | .register _ | .addBar _ | .removeBar _ | .setNavigator _ _ => False

/-- A step puts no other navigator in the place of one that is provided. -/
def Step.KeepsNavigators : Step → Prop
  | .setNavigator _ _ => False
  | .router _ | .click _ | .register _ | .rerun _ | .addBar _ | .removeBar _ => True

def addedBars (steps : List Step) : Nat :=
  steps.countP fun
    | .addBar _ => true
    | .router _ | .click _ | .register _ | .rerun _ | .removeBar _ | .setNavigator _ _ => false

@[simp] lemma addedBars_append (p q : List Step) : addedBars (p ++ q) = addedBars p + addedBars q :=
  List.countP_append

def Session.barsAfter (s : Session) (bars : List Bar) (nextId : Nat) : Step → List Bar
  | .rerun none => bars.map (·.rerun s.registry)
  | .rerun (some id) => bars.map fun b => if b.id = id then b.rerun s.registry else b
  | .addBar navigator =>
    bars ++ [⟨nextId, navigator, BarLinks.mount s.registry (navigator.or s.navigator)⟩]
  | .removeBar id => bars.filter (·.id ≠ id)
  | .setNavigator navigator (some id) =>
    bars.map fun b => if b.id = id then { b with navigator := some navigator } else b
  | .router _ | .click _ | .register _ | .setNavigator _ none => bars

/-- A session whose root is a number of bars, all numbered differently. -/
structure Session.HasBars (s : Session) (routed : Bool) (bars : List Bar) (nextId : Nat) :
    Prop where
  root_eq : s.root = .barList routed bars nextId
  nodup : (bars.map (·.id)).Nodup
  id_lt : ∀ b ∈ bars, b.id < nextId

section

variable {s t : Session} {routed : Bool} {bars : List Bar} {nextId : Nat}

lemma Session.HasBars.bars_eq (h : s.HasBars routed bars nextId) : s.root.bars = bars := by
  rw [h.root_eq]
  rfl

lemma Session.HasBars.isCrashed (h : s.HasBars routed bars nextId) : s.isCrashed = false := by
  rw [Session.isCrashed, h.root_eq]
  rfl

/-- Numbers tell bars apart. -/
lemma Session.HasBars.eq_of_id_eq (h : s.HasBars routed bars nextId) {b c : Bar} (hb : b ∈ bars)
    (hc : c ∈ bars) (hid : b.id = c.id) : b = c :=
  List.inj_on_of_nodup_map h.nodup hb hc hid

/-- Every bar is found by its number, since no other one has it. -/
lemma Session.HasBars.bar?_eq (h : s.HasBars routed bars nextId) {b : Bar} (hb : b ∈ bars) :
    s.root.bar? b.id = some b := by
  rw [Root.bar?, h.bars_eq]
  cases hfind : bars.find? (·.id = b.id) with
  | none =>
    rw [List.find?_eq_none] at hfind
    exact absurd (decide_eq_true rfl) (hfind b hb)
  | some c =>
    have hid := List.find?_some hfind
    rw [h.eq_of_id_eq (List.mem_of_find?_eq_some hfind) hb (of_decide_eq_true hid)]

/-! ### What a step does to bars -/

/-- A change of a bar that does not exist changes nothing. -/
lemma map_ite_id_eq_self {id : Nat} {f : Bar → Bar} {bars : List Bar}
    (h : ∀ b ∈ bars, b.id ≠ id) : (bars.map fun b => if b.id = id then f b else b) = bars := by
  conv_rhs => rw [← List.map_id bars]
  exact List.map_congr_left fun b hb => if_neg (h b hb)

/-- No click reaches the bars themselves. -/
lemma Session.ClickEffect.root_of_barList {trace : Trace} (h : s.ClickEffect t trace)
    (hroot : s.root = .barList routed bars nextId) : t.root = .barList routed bars nextId := by
  cases h with
  | keep => exact hroot
  | activate _ => exact hroot
  | visit _ =>
    rw [Session.go, hroot]
    rfl
  | recover hfail =>
    rw [hroot] at hfail
    cases hfail

/-- A step about a bar that is not there leaves all bars alone. -/
lemma Session.barsAfter_of_bar? {step : Step} {id : Nat} (hstep : step.bar? = some id)
    (h : ∀ b ∈ bars, b.id ≠ id) :
    s.barsAfter bars nextId step = bars ∧ addedBars [step] = 0 := by
  cases step with
  | rerun bar =>
    cases hstep
    exact ⟨map_ite_id_eq_self h, rfl⟩
  | removeBar other =>
    cases hstep
    exact ⟨List.filter_eq_self.mpr fun b hb => decide_eq_true (h b hb), rfl⟩
  | setNavigator navigator bar =>
    cases hstep
    exact ⟨map_ite_id_eq_self h, rfl⟩
  | router _ => cases hstep
  | click _ => cases hstep
  | register _ => cases hstep
  | addBar _ => cases hstep

/-- What every step makes of the bars, in one equation. -/
lemma Session.StepEffect.root_of_barList {step : Step} {trace : Trace}
    (h : s.StepEffect step t trace) (hroot : s.root = .barList routed bars nextId) :
    t.root = .barList routed (s.barsAfter bars nextId step) (nextId + addedBars [step]) := by
  cases h with
  | noRouter _ _ => exact hroot
  | go _ m =>
    rw [Session.go, hroot]
    rfl
  | leave _ url =>
    rw [Session.leave]
    split
    · exact hroot
    · rw [hroot]
      rfl
  | recover h => exact h.root_of_barList hroot
  | click h _ => exact h.root_of_barList hroot
  | register _ => exact hroot
  | rerunRoot =>
    rw [Session.rerunRoot, hroot]
    rfl
  | addBar navigator =>
    rw [Session.addBar, hroot]
    rfl
  | setNavigator _ => exact hroot
  | noSuchBar hbar hstep =>
    -- `barsAfter` goes through all bars, and finds none with the number either
    rw [Root.bar?, hroot, Root.bars, List.find?_eq_none] at hbar
    obtain ⟨hbars, hadded⟩ := Session.barsAfter_of_bar? hstep fun b hb => by simpa using hbar b hb
    rw [hbars, hadded]
    exact hroot
  | rerunBar _ =>
    rw [hroot]
    rfl
  | removeBar _ =>
    rw [hroot]
    rfl
  | setBarNavigator _ _ =>
    rw [hroot]
    rfl

/-- Every bar after a step has just run, or it has just come, or it was there before with the same
links. -/
lemma Session.mem_barsAfter {step : Step} {b : Bar} (hb : b ∈ s.barsAfter bars nextId step) :
    (step.Reruns b.id ∧ ∃ c ∈ bars, b = c.rerun s.registry) ∨
    (∃ navigator, step = .addBar navigator ∧
      b = ⟨nextId, navigator, BarLinks.mount s.registry (navigator.or s.navigator)⟩) ∨
    (¬ step.Reruns b.id ∧ ∃ c ∈ bars, c.id = b.id ∧ c.links = b.links ∧
      (step.KeepsNavigators → c.navigator = b.navigator)) := by
  cases step with
  | router r => exact .inr (.inr ⟨id, b, hb, rfl, rfl, fun _ => rfl⟩)
  | click c => exact .inr (.inr ⟨id, b, hb, rfl, rfl, fun _ => rfl⟩)
  | register c => exact .inr (.inr ⟨id, b, hb, rfl, rfl, fun _ => rfl⟩)
  | rerun bar =>
    cases bar with
    | none =>
      obtain ⟨c, hc, rfl⟩ := List.mem_map.mp hb
      exact .inl ⟨trivial, c, hc, rfl⟩
    | some other =>
      obtain ⟨c, hc, rfl⟩ := List.mem_map.mp hb
      by_cases hid : c.id = other
      · simp only [if_pos hid]
        exact .inl ⟨hid.symm, c, hc, rfl⟩
      · simp only [if_neg hid]
        exact .inr (.inr ⟨Ne.symm hid, c, hc, rfl, rfl, fun _ => rfl⟩)
  | addBar navigator =>
    rcases List.mem_append.mp hb with hb | hb
    · exact .inr (.inr ⟨id, b, hb, rfl, rfl, fun _ => rfl⟩)
    · exact .inr (.inl ⟨navigator, rfl, List.mem_singleton.mp hb⟩)
  | removeBar other =>
    exact .inr (.inr ⟨id, b, List.mem_of_mem_filter hb, rfl, rfl, fun _ => rfl⟩)
  | setNavigator navigator bar =>
    cases bar with
    | none => exact .inr (.inr ⟨id, b, hb, rfl, rfl, fun _ => rfl⟩)
    | some other =>
      obtain ⟨c, hc, rfl⟩ := List.mem_map.mp hb
      refine .inr (.inr ⟨id, c, hc, ?_, ?_, False.elim⟩)
      · split <;> rfl
      · split <;> rfl

/-- A bar that a step runs again is among the bars after it, with the links of that run. -/
lemma Session.rerun_mem_barsAfter {step : Step} {b : Bar} (hb : b ∈ bars)
    (h : step.Reruns b.id) : b.rerun s.registry ∈ s.barsAfter bars nextId step := by
  cases step with
  | rerun bar =>
    cases bar with
    | none => exact List.mem_map_of_mem hb
    | some id => exact List.mem_map.mpr ⟨b, hb, if_pos h.symm⟩
  | router _ => cases h
  | click _ => cases h
  | register _ => cases h
  | addBar _ => cases h
  | removeBar _ => cases h
  | setNavigator _ _ => cases h

/-- A step gives out no number but the next one. -/
lemma Session.map_id_barsAfter (s : Session) (bars : List Bar) (nextId : Nat) (step : Step) :
    ((s.barsAfter bars nextId step).map (·.id)).Sublist (bars.map (·.id)) ∨
      (s.barsAfter bars nextId step).map (·.id) = bars.map (·.id) ++ [nextId] := by
  have hmap : ∀ f : Bar → Bar, (∀ b, (f b).id = b.id) →
      ((bars.map f).map (·.id)).Sublist (bars.map (·.id)) := by
    intro f hf
    have hids : (bars.map f).map (·.id) = bars.map (·.id) := by
      rw [List.map_map]
      exact List.map_congr_left fun b _ => hf b
    rw [hids]
  cases step with
  | router r => exact .inl (List.Sublist.refl _)
  | click c => exact .inl (List.Sublist.refl _)
  | register c => exact .inl (List.Sublist.refl _)
  | rerun bar =>
    cases bar with
    | none => exact .inl (hmap _ fun b => rfl)
    | some other => exact .inl (hmap _ fun b => by split <;> rfl)
  | addBar navigator => exact .inr (by simp [Session.barsAfter])
  | removeBar other => exact .inl (List.filter_sublist.map _)
  | setNavigator navigator bar =>
    cases bar with
    | none => exact .inl (List.Sublist.refl _)
    | some other => exact .inl (hmap _ fun b => by split <;> rfl)

/-- Every step keeps the numbers of the bars distinct, and below the next one. -/
lemma Session.HasBars.step (h : s.HasBars routed bars nextId) (step : Step) :
    (s.step step).session.HasBars routed (s.barsAfter bars nextId step)
      (nextId + addedBars [step]) where
  root_eq := (s.stepEffect step).root_of_barList h.root_eq
  nodup := by
    obtain hids | hids := s.map_id_barsAfter bars nextId step
    · exact h.nodup.sublist hids
    · rw [hids, List.nodup_append]
      refine ⟨h.nodup, List.nodup_singleton _, ?_⟩
      intro id hid other hother
      obtain ⟨b, hb, rfl⟩ := List.mem_map.mp hid
      rw [List.mem_singleton.mp hother]
      exact Nat.ne_of_lt (h.id_lt b hb)
  id_lt b hb := by
    obtain ⟨-, c, hc, rfl⟩ | ⟨navigator, rfl, rfl⟩ | ⟨-, c, hc, hid, -⟩ := Session.mem_barsAfter hb
    · exact Nat.lt_add_right _ (h.id_lt c hc)
    · exact Nat.lt_succ_self nextId
    · exact Nat.lt_add_right _ (hid ▸ h.id_lt c hc)

/-! ### Runs of bars -/

/-- Bars stay bars in every run, and numbers are given out only to bars that are added. -/
lemma Session.HasBars.after (h : s.HasBars routed bars nextId) (steps : List Step) :
    ∃ bars', (s.after steps).HasBars routed bars' (nextId + addedBars steps) := by
  induction steps generalizing s bars nextId with
  | nil => exact ⟨bars, h⟩
  | cons step steps ih =>
    obtain ⟨bars', h'⟩ := ih (h.step step)
    rw [Nat.add_assoc, ← addedBars_append, List.singleton_append] at h'
    rw [s.after_cons h.isCrashed]
    exact ⟨bars', h'⟩

/-- Bars that are added come with links made from the registry, for the nearest navigator. -/
lemma Session.HasBars.addBars (h : s.HasBars routed bars nextId)
    (navigators : List (Option String)) :
    ∃ added, (s.addBars navigators).1.HasBars routed (bars ++ added)
        (nextId + navigators.length) ∧
      (s.addBars navigators).1.navigator = s.navigator ∧
      added.map (fun b => (b.navigator, b.links)) =
        navigators.map fun m => (m, BarLinks.mount s.registry (m.or s.navigator)) := by
  induction navigators generalizing s bars nextId with
  | nil => exact ⟨[], by simpa [Session.addBars] using h, rfl, rfl⟩
  | cons navigator navigators ih =>
    obtain ⟨added, hadded, hnavigator, hmap⟩ := ih (h.step (.addBar navigator))
    have hstep : ((s.step (.addBar navigator)).session.registry = s.registry) ∧
        (s.step (.addBar navigator)).session.navigator = s.navigator := by
      change (s.addBar navigator).1.registry = _ ∧ (s.addBar navigator).1.navigator = _
      rw [Session.addBar, h.root_eq]
      exact ⟨rfl, rfl⟩
    rw [hstep.1, hstep.2] at hmap
    refine ⟨⟨nextId, navigator, BarLinks.mount s.registry (navigator.or s.navigator)⟩ :: added,
      ?_, hnavigator.trans hstep.2, ?_⟩
    · have hcount : nextId + addedBars [.addBar navigator] + navigators.length =
          nextId + (navigator :: navigators).length := by
        change nextId + 1 + _ = nextId + (_ + 1)
        omega
      rw [hcount, Session.barsAfter, List.append_assoc] at hadded
      exact hadded
    · rw [List.map_cons, List.map_cons, hmap]

end

/-- Where bars were mounted with links made for their navigators, each has those of its own. -/
lemma links_eq_of_map_eq {bars : List Bar} {navigators : List (Option String)}
    {mounted : Option String → BarLinks}
    (hmap : bars.map (fun b => (b.navigator, b.links)) =
      navigators.map fun own => (own, mounted own)) {b : Bar} (hb : b ∈ bars) :
    b.links = mounted b.navigator := by
  have hpair := List.mem_map_of_mem (f := fun b : Bar => (b.navigator, b.links)) hb
  rw [hmap, List.mem_map] at hpair
  obtain ⟨own, -, hown⟩ := hpair
  obtain ⟨rfl, hlinks⟩ := Prod.mk.inj hown
  exact hlinks.symm

lemma Setup.registry_blank (setup : Setup) :
    (setup.blank.register setup.builders).1.registry = ⟨setup.builders.head?⟩ := by
  change (Registry.empty.registerAll setup.builders).1 = _
  rw [Registry.registerAll_empty]

section

variable {setup : Setup} {routed : Bool} {navigators : List (Option String)}
  (hscene : setup.scene = .barList routed navigators)

include hscene

lemma Setup.hasBars_blank : (setup.blank.register setup.builders).1.HasBars routed [] 0 := by
  refine ⟨?_, List.nodup_nil, fun b hb => absurd hb List.not_mem_nil⟩
  change setup.scene.root = _
  rw [hscene]
  rfl

/-- The bars that a session begins with, each with its navigator and its links. -/
lemma Setup.hasBars_mount :
    ∃ bars, setup.mount.1.HasBars routed bars navigators.length ∧
      setup.mount.1.navigator = setup.navigator ∧
      bars.map (fun b => (b.navigator, b.links)) = navigators.map fun m =>
        (m, BarLinks.mount ⟨setup.builders.head?⟩ (m.or setup.navigator)) := by
  obtain ⟨bars, hbars, hnavigator, hmap⟩ := (setup.hasBars_blank hscene).addBars navigators
  rw [setup.registry_blank] at hmap
  rw [List.nil_append, Nat.zero_add] at hbars
  rw [Setup.mount, hscene]
  exact ⟨bars, hbars, hnavigator, hmap⟩

lemma Setup.hasBars_after (steps : List Step) :
    ∃ bars, (setup.after steps).HasBars routed bars (navigators.length + addedBars steps) := by
  obtain ⟨bars, hbars, -⟩ := setup.hasBars_mount hscene
  exact hbars.after steps

lemma Setup.isCrashed_after_of_barList (steps : List Step) :
    (setup.after steps).isCrashed = false := by
  obtain ⟨bars, hbars⟩ := setup.hasBars_after hscene steps
  exact hbars.isCrashed

/-- Bars never crash, so that every step is taken. -/
lemma Setup.taken_eq_self (steps : List Step) : setup.taken steps = steps := by
  have hlength : (setup.mount.1.run steps).length = steps.length :=
    Session.length_run fun p _ => setup.isCrashed_after_of_barList hscene p
  rw [Setup.taken, Setup.record, List.length_cons, hlength, Nat.add_sub_cancel, List.take_length]

/-- Among bars, a builder is registered only before the mount or by a step of its own. -/
lemma Setup.registrations_of_barList (steps : List Step) :
    setup.registrations steps = setup.builders ++ steps.flatMap (Step.registrations []) := by
  rw [Setup.registrations, hscene]
  change setup.builders ++ [] ++ _ = _
  rw [List.append_nil]
  rfl

/-- Among bars, the first of all registrations is the one that counts. -/
lemma Setup.builder_after_of_barList (steps : List Step) :
    (setup.after steps).registry.builder = (setup.registrations steps).head? := by
  rw [setup.builder_after, setup.taken_eq_self hscene]

end

/-! ### The last run of a bar -/

/-- A bar with a given number runs in the last one of some steps, or at the mount if there are none:
the last step runs it again, or adds it. -/
inductive RunsAtEnd (mounted : Nat) : List Step → Nat → Prop where
  | mount {id : Nat} (h : id < mounted) : RunsAtEnd mounted [] id
  | rerun {steps : List Step} {step : Step} {id : Nat} (h : id < mounted + addedBars steps)
      (hstep : step.Reruns id) : RunsAtEnd mounted (steps ++ [step]) id
  | add (steps : List Step) (navigator : Option String) :
      RunsAtEnd mounted (steps ++ [.addBar navigator]) (mounted + addedBars steps)

/-- A bar that runs has been given its number before. -/
lemma RunsAtEnd.id_lt {mounted : Nat} {steps : List Step} {id : Nat}
    (h : RunsAtEnd mounted steps id) : id < mounted + addedBars steps := by
  cases h with
  | mount h => exact h
  | rerun h _ =>
    rw [addedBars_append]
    omega
  | add steps navigator =>
    rw [addedBars_append, ← Nat.add_assoc]
    exact Nat.lt_succ_self _

/-- A bar that does not run again in some steps does not run in the last one of them. -/
lemma RunsAtEnd.eq_nil_of_append {mounted : Nat} {p q : List Step} {id : Nat}
    (h : RunsAtEnd mounted p id) (hq : ∀ step ∈ q, ¬ step.Reruns id)
    (hruns : RunsAtEnd mounted (p ++ q) id) : q = [] := by
  obtain rfl | ⟨r, last, rfl⟩ := q.eq_nil_or_concat'
  · rfl
  · generalize hsteps : p ++ (r ++ [last]) = steps at hruns
    rw [← List.append_assoc] at hsteps
    cases hruns with
    | mount _ => simp at hsteps
    | rerun _ hstep =>
      have hlast := (List.append_inj' hsteps rfl).2
      rw [← List.singleton_inj.mp hlast] at hstep
      exact absurd hstep (hq last (by simp))
    | add steps navigator =>
      -- the bar would have been given its number twice
      have hinit := (List.append_inj' hsteps rfl).1
      have hlt := h.id_lt
      rw [← hinit, addedBars_append] at hlt
      omega

/-- The first registration stays the first when others follow. -/
lemma Setup.head?_registrations_or (setup : Setup) (p q : List Step) :
    (setup.registrations (p ++ q)).head?.or (setup.registrations p).head? =
      (setup.registrations (p ++ q)).head? := by
  have hmore : setup.registrations (p ++ q) = setup.registrations p ++
      q.flatMap (Step.registrations setup.scene.root.registrations) := by
    simp [Setup.registrations]
  rw [hmore]
  cases setup.registrations p <;> simp

/-- A bar that runs registers nothing. -/
lemma Step.registrations_of_reruns {step : Step} {id : Nat} (h : step.Reruns id) :
    step.registrations [] = [] := by
  cases step with
  | rerun bar => cases bar <;> rfl
  | router _ => cases h
  | click _ => cases h
  | register _ => cases h
  | addBar _ => cases h
  | removeBar _ => cases h
  | setNavigator _ _ => cases h

lemma Setup.registrations_concat_of_reruns {setup : Setup} {routed : Bool}
    {navigators : List (Option String)} (hscene : setup.scene = .barList routed navigators)
    (steps : List Step) {step : Step} {id : Nat} (hstep : step.Reruns id) :
    setup.registrations (steps ++ [step]) = setup.registrations steps := by
  rw [setup.registrations_of_barList hscene, setup.registrations_of_barList hscene]
  simp [Step.registrations_of_reruns hstep]

/-- Every bar goes back to a step at which it ran for the last time, and it shows the builder that
was registered first among those that had been registered by then. -/
lemma Setup.exists_lastRun {setup : Setup} {routed : Bool} {navigators : List (Option String)}
    (hscene : setup.scene = .barList routed navigators) {steps : List Step} {b : Bar}
    (hb : b ∈ (setup.after steps).root.bars) :
    ∃ p q, steps = p ++ q ∧ RunsAtEnd navigators.length p b.id ∧
      (∀ step ∈ q, ¬ step.Reruns b.id) ∧
      b.links.builder? = (setup.registrations p).head? := by
  induction steps using List.reverseRecOn generalizing b with
  | nil =>
    obtain ⟨bars, hbars, -, hmap⟩ := setup.hasBars_mount hscene
    rw [Setup.after_nil, hbars.bars_eq] at hb
    refine ⟨[], [], rfl, .mount (hbars.id_lt b hb), by simp, ?_⟩
    rw [setup.registrations_of_barList hscene, links_eq_of_map_eq hmap hb]
    simp
  | append_singleton steps step ih =>
    obtain ⟨bars, hbars⟩ := setup.hasBars_after hscene steps
    rw [Setup.after_concat hbars.isCrashed, (hbars.step step).bars_eq] at hb
    rw [hbars.bars_eq] at ih
    have hbuilder := setup.builder_after_of_barList hscene steps
    obtain ⟨hstep, c, hc, rfl⟩ | ⟨navigator, rfl, rfl⟩ | ⟨hstep, c, hc, hid, hlinks, -⟩ :=
      Session.mem_barsAfter hb
    · -- the bar runs in this step, and keeps its own anchors only if nothing was ever registered
      obtain ⟨p, q, rfl, -, -, hold⟩ := ih hc
      refine ⟨p ++ q ++ [step], [], (List.append_nil _).symm, .rerun (hbars.id_lt c hc) hstep,
        by simp, ?_⟩
      rw [setup.registrations_concat_of_reruns hscene _ hstep, Bar.rerun,
        BarLinks.builder?_rerun, hbuilder, hold, setup.head?_registrations_or]
    · -- the bar has just come, and has found what is registered
      refine ⟨steps ++ [.addBar navigator], [], (List.append_nil _).symm, .add _ _, by simp, ?_⟩
      rw [BarLinks.builder?_mount, hbuilder, setup.registrations_of_barList hscene,
        setup.registrations_of_barList hscene]
      simp [Step.registrations]
    · -- the bar is as it was, so that its last run is the one that it had before
      obtain ⟨p, q, rfl, hp, hq, hold⟩ := ih hc
      refine ⟨p, q ++ [step], List.append_assoc _ _ _, hid ▸ hp, ?_, hlinks ▸ hold⟩
      intro x hx
      rcases List.mem_append.mp hx with hx | hx
      · exact hid ▸ hq x hx
      · rwa [List.mem_singleton.mp hx]

end SiteNav
