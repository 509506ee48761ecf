import Mathlib.Data.List.Forall2
import SiteNav.Proofs.Session.BarList
import SiteNav.Proofs.Session.Listener

/-!
# Whom clicks reach

The anchors of bars side by side follow one another, and each listens for its own link of its own
bar. A click hands that link over to the navigator that the bar found when its links were mounted:
the one provided around the bar, or else the one at the root. Nothing that happens in between comes
between an anchor and its navigator, so that the intents of a run can be read off its clicks.
-/

namespace SiteNav

/-! ### Clicks among bars -/

section

variable {s : Session} {routed : Bool} {nextId : Nat}

lemma BarLinks.anchors_offering (location : Option Location) (navigator : Option String) :
    ((BarLinks.offering navigator).html location).anchors =
      navLinks.map fun link => some (.offer link navigator) := by
  rw [BarLinks.anchors_html, List.map_eq_flatMap]
  simp [BarLinks.link]

lemma BarLinks.anchors_active (location : Option Location) :
    ((BarLinks.built .active).html location).anchors =
      navLinks.map fun link => some (.announce link builderNavigator) := by
  rw [BarLinks.anchors_html, List.map_eq_flatMap]
  simp [BarLinks.link, Builder.link]

/-- The anchors of the document are those of the bars, one bar after another. -/
lemma Session.anchors_of_barList {bars : List Bar} (hroot : s.root = .barList routed bars nextId) :
    Html.anchorsAll s.document = bars.flatMap fun b => (b.links.html s.location).anchors := by
  rw [Session.document, hroot, Root.document, Html.anchorsAll_eq_flatMap, List.flatMap_map]

/-- Any click on the anchor of a bar for one of its links, counted from the anchors of the bars
before it, has the same answer for that link, and changes nothing else. -/
def Session.AnswersClicks (s : Session) (b : Bar) (answer : NavLink → Trace × Outcome) : Prop :=
  ∀ before behind, s.root.bars = before ++ b :: behind →
    ∀ (c : Click) (j : Nat) (link : NavLink), navLinks[j]? = some link → c.event = clickEvent →
      c.anchor = (Html.anchorsAll (before.map (·.links.html s.location))).length + j →
      s.step (.click c) = ⟨s, (answer link).1, (answer link).2⟩

/-- Counted from the anchors before the bar, a click is on the anchor of its link. -/
lemma Session.answersClicks_of_anchors {bars : List Bar}
    (hroot : s.root = .barList routed bars nextId) {b : Bar} {action : NavLink → Action}
    (hb : (b.links.html s.location).anchors = navLinks.map fun link => some (action link))
    {answer : NavLink → Trace × Outcome}
    (hanswer : ∀ c link, Answer.ofRun (s.act c (action link))
      (.clicked true ((action link).prevents c)) = ⟨s, (answer link).1, (answer link).2⟩) :
    s.AnswersClicks b answer := by
  intro before behind hbars c j link hlink hevent hanchor
  have hlistener : (Html.anchorsAll s.document)[c.anchor]? = some (some (action link)) := by
    rw [hroot, Root.bars] at hbars
    rw [Session.anchors_of_barList hroot, hbars, List.flatMap_append, hanchor,
      Html.anchorsAll_eq_flatMap, List.flatMap_map,
      List.getElem?_append_right (Nat.le_add_right _ _), Nat.add_sub_cancel_left,
      List.flatMap_cons, hb, List.getElem?_append_left, List.getElem?_map, hlink]
    · rfl
    · rw [List.length_map]
      exact (List.getElem?_eq_some_iff.mp hlink).1
  rw [Session.step, ← hanswer c link]
  simp only [Session.click, hlistener, if_pos hevent]

/-- The answer to a click on an anchor that offers its link to a navigator: the link is handed over
and the browser is kept from following it, unless there is no navigator. -/
def offerAnswer (navigator : Option String) (link : NavLink) : Trace × Outcome :=
  match navigator with
  | none => (⟨[], [], [], []⟩, .clicked true false)
  | some name => (⟨[], [], [⟨name, link.target⟩], [.intent link]⟩, .clicked true true)

def announceAnswer (link : NavLink) : Trace × Outcome :=
  (⟨[], [], [⟨builderNavigator, link.target⟩], [.intent link]⟩, .clicked true false)

/-- A bar that shows its own anchors offers them to the navigator that it holds. -/
lemma Session.answersClicks_of_offering {bars : List Bar}
    (hroot : s.root = .barList routed bars nextId) {b : Bar} {navigator : Option String}
    (hb : b.links = .offering navigator) : s.AnswersClicks b (offerAnswer navigator) := by
  refine Session.answersClicks_of_anchors hroot (hb ▸ BarLinks.anchors_offering _ _) ?_
  intro c link
  cases navigator <;> rfl

lemma Session.answersClicks_of_active {bars : List Bar}
    (hroot : s.root = .barList routed bars nextId) {b : Bar} (hb : b.links = .built .active) :
    s.AnswersClicks b announceAnswer :=
  Session.answersClicks_of_anchors hroot (hb ▸ BarLinks.anchors_active _) fun _ _ => rfl

end

/-! ### The nearest navigator -/

section

variable {s : Session}

lemma Session.ClickEffect.navigator {t : Session} {trace : Trace} (h : s.ClickEffect t trace) :
    t.navigator = s.navigator := by
  cases h with
  | keep => rfl
  | activate _ => rfl
  | visit _ => rfl
  | recover _ =>
    rw [Session.openPage]
    split <;> rfl

/-- The navigator at the root is exchanged by no step but the one that names another. -/
lemma Session.StepEffect.navigator {t : Session} {trace : Trace} {step : Step}
    (h : s.StepEffect step t trace) (hstep : step.KeepsNavigators) :
    t.navigator = s.navigator := by
  cases h with
  | noRouter _ _ => rfl
  | go _ _ => rfl
  | leave _ url =>
    rw [Session.leave]
    split <;> rfl
  | recover h => exact h.navigator
  | click h _ => exact h.navigator
  | register _ => rfl
  | rerunRoot =>
    rw [Session.rerunRoot]
    split <;> rfl
  | addBar navigator =>
    rw [Session.addBar]
    split <;> rfl
  | setNavigator _ => cases hstep
  | noSuchBar _ _ => rfl
  | rerunBar _ => rfl
  | removeBar _ => rfl
  | setBarNavigator _ _ => rfl

end

/-- The bar's own anchors, if it shows them, offer themselves to the navigator provided around the
bar, or else to the one at the root. -/
def Bar.OffersToNearest (root : Option String) (b : Bar) : Prop :=
  ∀ m, b.links = .offering m → m = b.navigator.or root

/-- A bar that is mounted takes the navigator around it before the one at the root. -/
lemma Bar.offersToNearest_mount {b : Bar} {registry : Registry} {root : Option String}
    (h : b.links = BarLinks.mount registry (b.navigator.or root)) : b.OffersToNearest root := by
  intro m hm
  rw [h] at hm
  obtain ⟨_ | c⟩ := registry
  · exact (BarLinks.offering.inj hm).symm
  · cases hm

/-- A bar that runs again either keeps its navigator or shows no anchors of its own. -/
lemma Bar.OffersToNearest.rerun {root : Option String} {b : Bar} (h : b.OffersToNearest root)
    (registry : Registry) : (b.rerun registry).OffersToNearest root := by
  intro m hm
  obtain ⟨_ | c⟩ := registry
  · exact h m hm
  · cases hm

section

variable {setup : Setup} {routed : Bool} {navigators : List (Option String)}
  (hscene : setup.scene = .barList routed navigators)

include hscene

/-- As long as no navigator is exchanged, every bar offers to the nearest one. -/
lemma Setup.offersToNearest_after {steps : List Step}
    (hsteps : ∀ step ∈ steps, step.KeepsNavigators) :
    (setup.after steps).navigator = setup.navigator ∧
      ∀ b ∈ (setup.after steps).root.bars, b.OffersToNearest setup.navigator := by
  induction steps using List.reverseRecOn with
  | nil =>
    obtain ⟨bars, hbars, hnavigator, hmap⟩ := setup.hasBars_mount hscene
    refine ⟨hnavigator, fun b hb => ?_⟩
    rw [Setup.after_nil, hbars.bars_eq] at hb
    exact Bar.offersToNearest_mount (links_eq_of_map_eq hmap hb)
  | append_singleton steps step ih =>
    -- a bar has run in the step, or has come in it, or is as it was
    obtain ⟨hroot, hold⟩ := ih fun x hx => hsteps x (List.mem_append_left _ hx)
    have hstep := hsteps step (by simp)
    obtain ⟨bars, hbars⟩ := setup.hasBars_after hscene steps
    rw [hbars.bars_eq] at hold
    rw [Setup.after_concat hbars.isCrashed, (hbars.step step).bars_eq]
    refine ⟨((Session.stepEffect _ step).navigator hstep).trans hroot, fun b hb => ?_⟩
    obtain ⟨-, c, hc, rfl⟩ | ⟨own, -, rfl⟩ | ⟨-, c, hc, -, hlinks, hnavigator⟩ :=
      Session.mem_barsAfter hb
    · exact (hold c hc).rerun _
    · rw [hroot]
      exact Bar.offersToNearest_mount rfl
    · intro m hm
      rw [← hlinks] at hm
      rw [← hnavigator hstep]
      exact hold c hc m hm

end

/-! ### The intents of a click -/

def Action.intents : Action → List Intent
  | .offer link navigator => navigator.toList.map (⟨·, link.target⟩)
  | .announce link navigator => [⟨navigator, link.target⟩]
  | .visit _ | .dismissFailure => []

/-- What an action hands over depends on nothing but the action. -/
lemma Session.intents_act (s : Session) (c : Click) (action : Action) :
    (s.act c action).2.intents = action.intents := by
  cases action with
  | offer link navigator => cases navigator <;> rfl
  | announce link navigator => rfl
  | visit path => rfl
  | dismissFailure =>
    rw [Session.act, Session.recover]
    split
    · exact s.silent_openPage.intents_eq
    · rfl
    · rfl
    · rfl
    · rfl

lemma Session.intents_click (s : Session) (c : Click) :
    (s.click c).trace.intents = if c.event = clickEvent then
      (Html.anchorsAll s.document)[c.anchor]?.join.toList.flatMap Action.intents else [] := by
  rw [Session.click]
  cases (Html.anchorsAll s.document)[c.anchor]? with
  | none => simp [Answer.refuse, Trace.empty]
  | some listener =>
    cases listener with
    | none => simp [Answer.refuse, Trace.empty]
    | some action =>
      by_cases hevent : c.event = clickEvent
      · simp [hevent, Answer.ofRun, s.intents_act]
      · simp [hevent, Answer.refuse, Trace.empty]

/-- Whom the anchors of a bar reach: their builder's navigator if an active builder is registered,
nobody with any other builder, and without a builder the nearest navigator, if there is one. -/
def recipient (builder : Option Builder) (nearest : Option String) : Option String :=
  match builder with
  | none => nearest
  | some .active => some builderNavigator
  | some .routed | some .span | some .empty => none

/-- The intents that a step brings about among bars that provide some navigators: a click is on one
link of one bar, if the bars are gone through in order and their links one after another. -/
def Setup.delivered (setup : Setup) (navigators : List (Option String)) : Step → List Intent
  | .click c =>
    if c.event = clickEvent then
      match (navigators.product navLinks)[c.anchor]? with
      | some (own, link) =>
        (recipient setup.builders.head? (own.or setup.navigator)).toList.map (⟨·, link.target⟩)
      | none => []
    else []
  | .router _ | .register _ | .rerun _ | .addBar _ | .removeBar _ | .setNavigator _ _ => []

/-- A step is a click or runs bars again. -/
inductive Step.IsClickOrRerun : Step → Prop where
  | click (c : Click) : IsClickOrRerun (.click c)
  | rerun (bar : Option Nat) : IsClickOrRerun (.rerun bar)

lemma Step.IsClickOrRerun.registrations {step : Step} (h : step.IsClickOrRerun) :
    step.registrations [] = [] := by
  cases h with
  | click c => rfl
  | rerun bar => cases bar <;> rfl

/-- Such a step leaves bars alone that would not change if they ran again. -/
lemma Step.IsClickOrRerun.barsAfter {step : Step} (h : step.IsClickOrRerun) {s : Session}
    {bars : List Bar} (hbars : ∀ b ∈ bars, b.rerun s.registry = b) (nextId : Nat) :
    s.barsAfter bars nextId step = bars ∧ addedBars [step] = 0 := by
  cases h with
  | click c => exact ⟨rfl, rfl⟩
  | rerun bar =>
    cases bar with
    | none => exact ⟨(List.map_congr_left hbars).trans (List.map_id' bars), rfl⟩
    | some id =>
      have hsame : ∀ b ∈ bars, (if b.id = id then b.rerun s.registry else b) = b := by
        intro b hb
        rw [hbars b hb, ite_self]
      exact ⟨(List.map_congr_left hsame).trans (List.map_id' bars), rfl⟩

/-! ### The intents of a run -/

/-- The intents at a position of anchors that stand for the elements of a list. -/
lemma intents_of_listeners {α : Type} (xs : List α) (action : α → Action) (k : Nat) :
    (xs.map fun x => some (action x))[k]?.join.toList.flatMap Action.intents =
      xs[k]?.toList.flatMap fun x => (action x).intents := by
  rw [List.getElem?_map]
  cases xs[k]? <;> simp

/-- Nothing is handed over at any position if no listener hands anything over. -/
lemma intents_eq_nil_of_forall {listeners : List (Option Action)}
    (h : ∀ action, some action ∈ listeners → action.intents = []) (k : Nat) :
    listeners[k]?.join.toList.flatMap Action.intents = [] := by
  rw [List.flatMap_eq_nil_iff]
  intro action haction
  have hk : listeners[k]? = some (some action) :=
    Option.join_eq_some_iff.mp (Option.mem_toList.mp haction)
  exact h action (List.mem_of_getElem? hk)

/-- Only an active builder makes anchors that hand anything over. -/
lemma BarLinks.intents_of_built {b : Builder} (hb : b ≠ .active) {location : Option Location}
    {action : Action} (h : some action ∈ ((BarLinks.built b).html location).anchors) :
    action.intents = [] := by
  cases BarLinks.listens_of_mem_anchors (List.mem_singleton_self _) h with
  | offer hshown _ => simp at hshown
  | announce hshown _ => simp [Ne.symm hb] at hshown
  | visit _ => rfl
  | dismissFailure => rfl

/-- Bars that have run with the same registry show anchors whose intents are those of the recipient,
one anchor for each link of each bar. -/
lemma intents_of_mounted (builder : Option Builder) (root : Option String)
    (navigators : List (Option String)) (location : Option Location) (k : Nat) :
    (navigators.flatMap fun own =>
      ((BarLinks.mount ⟨builder⟩ (own.or root)).html location).anchors)[k]?.join.toList.flatMap
        Action.intents =
      match (navigators.product navLinks)[k]? with
      | some (own, link) => (recipient builder (own.or root)).toList.map (⟨·, link.target⟩)
      | none => [] := by
  have hproduct : ∀ action : Option String → NavLink → Action,
      (navigators.flatMap fun own => navLinks.map fun link => some (action own link)) =
        (navigators.product navLinks).map fun x => some (action x.1 x.2) := by
    intro action
    simp [List.product, List.map_flatMap, Function.comp_def]
  have hsilent : ∀ b : Builder, b ≠ .active →
      (navigators.flatMap fun _ => ((BarLinks.built b).html
        location).anchors)[k]?.join.toList.flatMap Action.intents = [] := by
    intro b hb
    refine intents_eq_nil_of_forall (fun action haction => ?_) k
    obtain ⟨_, -, h⟩ := List.mem_flatMap.mp haction
    exact BarLinks.intents_of_built hb h
  cases builder with
  | none =>
    simp only [BarLinks.mount_none, BarLinks.anchors_offering]
    rw [hproduct fun own link => .offer link (own.or root), intents_of_listeners]
    cases (navigators.product navLinks)[k]? <;> simp [Action.intents, recipient]
  | some b =>
    simp only [BarLinks.mount_some]
    cases b with
    | active =>
      simp only [BarLinks.anchors_active]
      rw [hproduct fun _ link => .announce link builderNavigator, intents_of_listeners]
      cases (navigators.product navLinks)[k]? <;> simp [Action.intents, recipient]
    | routed =>
      rw [hsilent .routed (by decide)]
      cases (navigators.product navLinks)[k]? <;> rfl
    | span =>
      rw [hsilent .span (by decide)]
      cases (navigators.product navLinks)[k]? <;> rfl
    | empty =>
      rw [hsilent .empty (by decide)]
      cases (navigators.product navLinks)[k]? <;> rfl

/-- Nothing changes for a bar that runs again before anything else is registered. -/
lemma BarLinks.rerun_mount (registry : Registry) (navigator : Option String) :
    (BarLinks.mount registry navigator).rerun registry = BarLinks.mount registry navigator := by
  obtain ⟨_ | b⟩ := registry <;> rfl

section

variable {setup : Setup} {routed : Bool} {navigators : List (Option String)}
  (hscene : setup.scene = .barList routed navigators)

include hscene

/-- Clicks and runs register nothing among bars. -/
lemma Setup.registry_after_clicks {steps : List Step}
    (hsteps : ∀ step ∈ steps, step.IsClickOrRerun) :
    (setup.after steps).registry = ⟨setup.builders.head?⟩ := by
  have hnothing : steps.flatMap (Step.registrations []) = [] :=
    List.flatMap_eq_nil_iff.mpr fun step hstep => (hsteps step hstep).registrations
  have hbuilder := setup.builder_after_of_barList hscene steps
  rw [setup.registrations_of_barList hscene, hnothing, List.append_nil] at hbuilder
  rw [← hbuilder]

/-- Since the registry stays the same, the bars stay as they were mounted. -/
lemma Setup.hasBars_after_clicks {steps : List Step}
    (hsteps : ∀ step ∈ steps, step.IsClickOrRerun) :
    ∃ bars, (setup.after steps).HasBars routed bars navigators.length ∧
      bars.map (fun b => (b.navigator, b.links)) = navigators.map fun own =>
        (own, BarLinks.mount ⟨setup.builders.head?⟩ (own.or setup.navigator)) := by
  induction steps using List.reverseRecOn with
  | nil =>
    obtain ⟨bars, hbars, -, hmap⟩ := setup.hasBars_mount hscene
    exact ⟨bars, hbars, hmap⟩
  | append_singleton steps step ih =>
    have hclicks : ∀ x ∈ steps, x.IsClickOrRerun := fun x hx => hsteps x (List.mem_append_left _ hx)
    obtain ⟨bars, hbars, hmap⟩ := ih hclicks
    have hrerun : ∀ b ∈ bars, b.rerun (setup.after steps).registry = b := by
      intro b hb
      have hlinks := links_eq_of_map_eq hmap hb
      rw [setup.registry_after_clicks hscene hclicks, Bar.rerun, hlinks, BarLinks.rerun_mount,
        ← hlinks]
    have hnext := hbars.step step
    obtain ⟨hsame, hadded⟩ := (hsteps step (by simp)).barsAfter hrerun navigators.length
    rw [hsame, hadded] at hnext
    rw [Setup.after_concat hbars.isCrashed]
    exact ⟨bars, hnext, hmap⟩

/-- A step of such a run hands over what the bars and their links, gone through in order, say. -/
lemma Setup.intents_step {steps : List Step} (hsteps : ∀ step ∈ steps, step.IsClickOrRerun)
    {step : Step} (hstep : step.IsClickOrRerun) :
    ((setup.after steps).step step).trace.intents = setup.delivered navigators step := by
  cases hstep with
  | click c =>
    obtain ⟨bars, hbars, hmap⟩ := setup.hasBars_after_clicks hscene hsteps
    have hanchors : Html.anchorsAll (setup.after steps).document = navigators.flatMap fun own =>
        ((BarLinks.mount ⟨setup.builders.head?⟩ (own.or setup.navigator)).html
          (setup.after steps).location).anchors := by
      have h := congrArg (List.flatMap fun x : Option String × BarLinks =>
        (x.2.html (setup.after steps).location).anchors) hmap
      rw [List.flatMap_map, List.flatMap_map] at h
      rw [Session.anchors_of_barList hbars.root_eq, h]
    rw [Session.step, Session.intents_click, hanchors, intents_of_mounted, Setup.delivered]
  | rerun bar => exact ((setup.after steps).stepEffect (.rerun bar)).silent_of_rerun.intents_eq

/-- The intents of a run are those of its clicks, in order. -/
lemma Setup.intents_record {steps : List Step} (hsteps : ∀ step ∈ steps, step.IsClickOrRerun) :
    (setup.record steps).flatMap (·.trace.intents) =
      steps.flatMap (setup.delivered navigators) := by
  induction steps using List.reverseRecOn with
  | nil =>
    rw [Setup.record, Session.run_nil, List.flatMap_singleton]
    exact setup.silent_mount.intents_eq
  | append_singleton steps step ih =>
    have hclicks : ∀ x ∈ steps, x.IsClickOrRerun := fun x hx => hsteps x (List.mem_append_left _ hx)
    rw [Setup.record_concat (setup.isCrashed_after_of_barList hscene steps), List.flatMap_append,
      List.flatMap_append, ih hclicks, List.flatMap_singleton, List.flatMap_singleton]
    exact congrArg _ (setup.intents_step hscene hclicks (hsteps step (by simp)))

end

/-! ### Intents in the log -/

/-- An entry of the log tells of an intent, with the path that was handed over and the label of a
link of the bar that leads there. -/
def Intent.LoggedAs (intent : Intent) (entry : LogEntry) : Prop :=
  ∃ link ∈ navLinks, intent.path = link.target ∧ entry.message = "nav intent" ∧
    entry.fields = [("label", link.label), ("path", intent.path)]

/-- Where nothing is handed over, the log tells of nothing. -/
lemma Trace.Silent.forall₂_loggedAs {t : Trace} (h : t.Silent) :
    List.Forall₂ Intent.LoggedAs t.intents (t.logs.filter (·.level = .debug)) := by
  have hlogs : t.logs.filter (·.level = .debug) = [] := by
    rw [List.filter_eq_nil_iff]
    intro entry hentry
    simpa using h.level_ne entry hentry
  rw [h.intents_eq, hlogs]
  exact .nil

/-- What is handed over is told of once. -/
lemma Trace.HandsOver.forall₂_loggedAs {t : Trace} {shown : List BarLinks}
    (h : t.HandsOver shown) :
    List.Forall₂ Intent.LoggedAs t.intents (t.logs.filter (·.level = .debug)) := by
  cases h with
  | offer _ hlink => exact .cons ⟨_, hlink, rfl, rfl, rfl⟩ .nil
  | announce _ hlink => exact .cons ⟨_, hlink, rfl, rfl, rfl⟩ .nil

/-- In every record the log and the intents tell the same. -/
lemma Setup.forall₂_loggedAs {setup : Setup} {steps : List Step} {snap : Snapshot}
    (h : snap ∈ setup.record steps) : List.Forall₂ Intent.LoggedAs snap.trace.intents
      (snap.trace.logs.filter (·.level = .debug)) := by
  rcases Setup.exists_step_of_mem_record h with rfl | ⟨p, step, -, -, rfl⟩
  · exact setup.silent_mount.forall₂_loggedAs
  · rcases (setup.after p).silent_step_or step with hstep | hstep
    · exact hstep.forall₂_loggedAs
    · exact hstep.forall₂_loggedAs

/-! ### Clicks reach the right navigator, once -/

/-- Among bars side by side, as long as no navigator is exchanged, a click on an anchor that the bar
made itself hands its link over to the navigator around the bar, or else to that at the root, once,
and keeps the browser from following it; with neither it does nothing. A click on an anchor of the
active builder hands its link over to the builder's navigator, once. In a run of clicks and renewed
runs of bars the intents are those of the clicks, in order, and in every record the log tells of the
intents one by one. -/
theorem Setup.clicks_reach_nearest_navigator {setup : Setup} {routed : Bool}
    {navigators : List (Option String)} (hscene : setup.scene = .barList routed navigators)
    (steps : List Step) :
    ((∀ step ∈ steps, step.KeepsNavigators) → ∀ b ∈ (setup.after steps).root.bars,
      (∀ m, b.links = .offering m → (setup.after steps).AnswersClicks b
        (offerAnswer (b.navigator.or setup.navigator))) ∧
      (b.links = .built .active → (setup.after steps).AnswersClicks b announceAnswer)) ∧
    ((∀ step ∈ steps, step.IsClickOrRerun) →
      (setup.record steps).flatMap (·.trace.intents) =
        steps.flatMap (setup.delivered navigators)) ∧
    ∀ snap ∈ setup.record steps, List.Forall₂ Intent.LoggedAs snap.trace.intents
      (snap.trace.logs.filter (·.level = .debug)) := by
  refine ⟨fun hsteps b hb => ?_, setup.intents_record hscene,
    fun snap hsnap => Setup.forall₂_loggedAs hsnap⟩
  obtain ⟨bars, hbars⟩ := setup.hasBars_after hscene steps
  refine ⟨fun m hm => ?_, Session.answersClicks_of_active hbars.root_eq⟩
  rw [← (setup.offersToNearest_after hscene hsteps).2 b hb m hm]
  exact Session.answersClicks_of_offering hbars.root_eq hm

/-- The second bar has a navigator of its own, and the one at the root answers for the first. -/
theorem Setup.clicks_reach_nearest_navigator_of_two_bars :
    ∃ setup : Setup, setup.scene = .barList false [none, some "own"] ∧
      setup.navigator = some "root" ∧ setup.builders = [] ∧
      (setup.record [.click ⟨3, .auxiliary, [.shift], "click"⟩, .rerun none,
        .click ⟨0, .primary, [], "click"⟩, .click ⟨0, .primary, [], "keydown"⟩,
        .rerun (some 1), .click ⟨4, .primary, [], "click"⟩]).flatMap (·.trace.intents) =
          [⟨"own", "/chat"⟩, ⟨"root", "/"⟩] := by
  let setup : Setup :=
    ⟨"/", "", false, some "root", [], .barList false [none, some "own"]⟩
  let steps : List Step := [.click ⟨3, .auxiliary, [.shift], "click"⟩, .rerun none,
    .click ⟨0, .primary, [], "click"⟩, .click ⟨0, .primary, [], "keydown"⟩,
    .rerun (some 1), .click ⟨4, .primary, [], "click"⟩]
  have hsteps : ∀ step ∈ steps, step.IsClickOrRerun := by
    intro step hstep
    simp only [steps, List.mem_cons, List.not_mem_nil, or_false] at hstep
    rcases hstep with rfl | rfl | rfl | rfl | rfl | rfl
    · exact .click _
    · exact .rerun _
    · exact .click _
    · exact .click _
    · exact .rerun _
    · exact .click _
  have hscene : setup.scene = .barList false [none, some "own"] := rfl
  obtain ⟨-, hintents, -⟩ := Setup.clicks_reach_nearest_navigator hscene steps
  refine ⟨setup, rfl, rfl, rfl, (hintents hsteps).trans ?_⟩
  decide

end SiteNav
