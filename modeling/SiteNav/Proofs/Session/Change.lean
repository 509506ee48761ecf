import Mathlib.Tactic.Lemma
import SiteNav.Session.Run

/-!
# Runs of a session

A run reaches sessions from the mount on, each by a step from the one before it, and it records the
sessions that it reaches. What holds after the mount and is kept by every step holds of all of them.

What a step can do is said once, with the trace that it leaves, and again for an app or a row of
links, where less can happen. A click is resolved there into the action of the anchor that was
clicked, so that only what the document offers is ever done.
-/

namespace SiteNav

/-! ### The sessions of a run -/

/-- A session that a run comes to; a crashed one is not led any further. -/
inductive Setup.Reaches (setup : Setup) : Session → Prop where
  | mount : setup.Reaches setup.mount.1
  | step {s : Session} (h : setup.Reaches s) (hs : s.isCrashed = false) (step : Step) :
      setup.Reaches (s.step step).session

/-- Every record of a run is one of a session that the run comes to. -/
lemma Setup.exists_reaches_of_mem_run {setup : Setup} {s : Session} (h : setup.Reaches s)
    {steps : List Step} {snap : Snapshot} (hsnap : snap ∈ s.run steps) :
    ∃ s trace outcome, setup.Reaches s ∧ snap = s.snapshot trace outcome := by
  induction steps generalizing s with
  | nil => simp at hsnap
  | cons step steps ih =>
    cases hs : s.isCrashed with
    | true => simp [Session.run_of_isCrashed hs] at hsnap
    | false =>
      rw [Session.run_cons hs, List.mem_cons] at hsnap
      rcases hsnap with rfl | hsnap
      · exact ⟨_, _, _, h.step hs step, rfl⟩
      · exact ih (h.step hs step) hsnap

/-- Every record is one of a session that the run comes to. -/
lemma Setup.exists_reaches_of_mem_record {setup : Setup} {steps : List Step} {snap : Snapshot}
    (hsnap : snap ∈ setup.record steps) :
    ∃ s trace outcome, setup.Reaches s ∧ snap = s.snapshot trace outcome := by
  rw [Setup.record, List.mem_cons] at hsnap
  rcases hsnap with rfl | hsnap
  · exact ⟨_, _, _, .mount, rfl⟩
  · exact Setup.exists_reaches_of_mem_run .mount hsnap

/-! ### What a step can do -/

/-- Whether bars stand side by side at the root. -/
def Root.isBarList : Root → Bool
  | .barList _ _ _ => true
  | .app _ | .linkList _ _ => false

def Session.anchors (s : Session) : List (Option Action) :=
  Html.anchorsAll s.document

/-- What a click can do, and the trace that it leaves. -/
inductive Session.ClickEffect (s : Session) : Session → Trace → Prop where
  | keep : ClickEffect s s .empty
  | activate {link : NavLink} {navigator : String}
      (h : some (.offer link (some navigator)) ∈ s.anchors ∨
        some (.announce link navigator) ∈ s.anchors) : ClickEffect s s (link.activate navigator)
  | visit {path : String} (h : some (.visit path) ∈ s.anchors) :
      ClickEffect s (s.go (.push path)) .empty
  | recover (h : s.root = .app .failure) : ClickEffect s s.openPage.1 s.openPage.2

/-- The number of the bar that a step is about, if it is about a single one. -/
def Step.bar? : Step → Option Nat
  | .rerun bar => bar
  | .removeBar id => some id
  | .setNavigator _ bar => bar
  | .router _ | .click _ | .register _ | .addBar _ => none

/-- What a step can do, and the trace that it leaves. -/
inductive Session.StepEffect (s : Session) : Step → Session → Trace → Prop where
  | noRouter (h : s.root.hasRouter = false) (r : RouterStep) : StepEffect s (.router r) s .empty
  | go (h : s.root.hasRouter = true) (m : Move) : StepEffect s (.router (.go m)) (s.go m) .empty
  | leave (h : s.root.hasRouter = true) (url : String) :
      StepEffect s (.router (.leave url)) (s.leave url).1 (s.leave url).2
  | recover {t : Session} {trace : Trace} (h : s.ClickEffect t trace) :
      StepEffect s (.router .recover) t trace
  | click {t : Session} {trace : Trace} (h : s.ClickEffect t trace) (c : Click) :
      StepEffect s (.click c) t trace
  | register (b : Builder) : StepEffect s (.register b) (s.register [b]).1 (s.register [b]).2
  | rerunRoot : StepEffect s (.rerun none) s.rerunRoot.1 s.rerunRoot.2
  | addBar (navigator : Option String) :
      StepEffect s (.addBar navigator) (s.addBar navigator).1 (s.addBar navigator).2
  | setNavigator (navigator : String) :
      StepEffect s (.setNavigator navigator none) { s with navigator := some navigator } .empty
  | noSuchBar {id : Nat} (h : s.root.bar? id = none) {step : Step} (hstep : step.bar? = some id) :
      StepEffect s step s .empty
  | rerunBar {id : Nat} {b : Bar} (h : s.root.bar? id = some b) :
      StepEffect s (.rerun (some id)) { s with root := s.root.mapBars (·.map fun c =>
        if c.id = id then c.rerun s.registry else c) }
        { Trace.empty with logs := (b.rerun s.registry).links.logs }
  | removeBar {id : Nat} {b : Bar} (h : s.root.bar? id = some b) :
      StepEffect s (.removeBar id) { s with root := s.root.mapBars (·.filter (·.id ≠ id)) } .empty
  | setBarNavigator {id : Nat} {b : Bar} (h : s.root.bar? id = some b) (navigator : String) :
      StepEffect s (.setNavigator navigator (some id)) { s with root := s.root.mapBars (·.map
        fun c => if c.id = id then { c with navigator := some navigator } else c) } .empty

/-- What a step can do to a session without bars side by side, and the trace that it leaves. -/
inductive Session.Change (s : Session) : Session → Trace → Prop where
  | keep : Change s s .empty
  | activate {link : NavLink} {navigator : String}
      (h : some (.offer link (some navigator)) ∈ s.anchors ∨
        some (.announce link navigator) ∈ s.anchors) : Change s s (link.activate navigator)
  | visit {path : String} (h : some (.visit path) ∈ s.anchors) :
      Change s (s.go (.push path)) .empty
  | go (m : Move) (h : s.root.hasRouter = true) : Change s (s.go m) .empty
  | leave (url : String) (h : s.root.hasRouter = true) :
      Change s (s.leave url).1 (s.leave url).2
  | recover (h : s.root = .app .failure) : Change s s.openPage.1 s.openPage.2
  | register (b : Builder) : Change s (s.register [b]).1 (s.register [b]).2
  | rerun : Change s s.rerunRoot.1 s.rerunRoot.2
  | setNavigator (navigator : String) : Change s { s with navigator := some navigator } .empty

lemma Session.ClickEffect.change {s t : Session} {trace : Trace} (h : s.ClickEffect t trace) :
    s.Change t trace := by
  cases h with
  | keep => exact .keep
  | activate h => exact .activate h
  | visit h => exact .visit h
  | recover h => exact .recover h

/-- Recovering does what a click on the anchor of the failure page does. -/
lemma Session.clickEffect_recover (s : Session) : s.ClickEffect s.recover.1 s.recover.2 := by
  rw [Session.recover]
  split
  · exact .recover ‹_›
  · exact .keep
  · exact .keep
  · exact .keep
  · exact .keep

/-- Only the actions of anchors that are shown are taken. -/
lemma Session.clickEffect_act {s : Session} {action : Action} (h : some action ∈ s.anchors)
    (c : Click) : s.ClickEffect (s.act c action).1 (s.act c action).2 := by
  cases action with
  | offer link navigator =>
    cases navigator with
    | none => exact .keep
    | some navigator => exact .activate (.inl h)
  | announce link navigator => exact .activate (.inr h)
  | visit path =>
    rw [Session.act]
    split
    · exact .visit h
    · exact .keep
  | dismissFailure => exact s.clickEffect_recover

lemma Session.clickEffect_click (s : Session) (c : Click) :
    s.ClickEffect (s.click c).session (s.click c).trace := by
  rw [Session.click]
  split
  · exact .keep
  · exact .keep
  · rename_i action h
    split
    · exact Session.clickEffect_act (List.mem_of_getElem? h) c
    · exact .keep

/-- A step does one of these things. -/
lemma Session.stepEffect (s : Session) (step : Step) :
    s.StepEffect step (s.step step).session (s.step step).trace := by
  cases step with
  | router r =>
    rw [Session.step]
    split
    · rename_i h
      cases r with
      | go m => exact .go h m
      | leave url => exact .leave h url
      | recover => exact .recover s.clickEffect_recover
    · exact .noRouter (Bool.eq_false_iff.mpr ‹_›) r
  | click c => exact .click (s.clickEffect_click c) c
  | register b => exact .register b
  | rerun bar =>
    cases bar with
    | none => exact .rerunRoot
    | some id =>
      rw [Session.step, Session.rerunBar, Session.onBar]
      split
      · exact .noSuchBar ‹_› rfl
      · exact .rerunBar ‹_›
  | addBar navigator => exact .addBar navigator
  | removeBar id =>
    rw [Session.step, Session.removeBar, Session.onBar]
    split
    · exact .noSuchBar ‹_› rfl
    · exact .removeBar ‹_›
  | setNavigator navigator bar =>
    cases bar with
    | none => exact .setNavigator navigator
    | some id =>
      rw [Session.step, Session.setBarNavigator, Session.onBar]
      split
      · exact .noSuchBar ‹_› rfl
      · exact .setBarNavigator ‹_› navigator

/-! ### Without bars side by side -/

section

variable {s t : Session} {trace : Trace}

lemma Session.bar?_of_isBarList (h : s.root.isBarList = false) (id : Nat) :
    s.root.bar? id = none := by
  cases hroot : s.root with
  | barList _ _ _ => simp [hroot, Root.isBarList] at h
  | app _ => rfl
  | linkList _ _ => rfl

lemma Session.addBar_of_isBarList (h : s.root.isBarList = false) (navigator : Option String) :
    s.addBar navigator = (s, .empty) := by
  rw [Session.addBar]
  split
  · rename_i hroot
    simp [hroot, Root.isBarList] at h
  · rfl
  · rfl

/-- Where no bars stand side by side, the steps that are about bars do nothing. -/
lemma Session.StepEffect.change {step : Step} (h : s.StepEffect step t trace)
    (hroot : s.root.isBarList = false) : s.Change t trace := by
  cases h with
  | noRouter _ _ => exact .keep
  | go hrouter m => exact .go m hrouter
  | leave hrouter url => exact .leave url hrouter
  | recover h => exact h.change
  | click h _ => exact h.change
  | register b => exact .register b
  | rerunRoot => exact .rerun
  | addBar navigator =>
    rw [Session.addBar_of_isBarList hroot]
    exact .keep
  | setNavigator navigator => exact .setNavigator navigator
  | noSuchBar _ _ => exact .keep
  | rerunBar hbar => simp [Session.bar?_of_isBarList hroot] at hbar
  | removeBar hbar => simp [Session.bar?_of_isBarList hroot] at hbar
  | setBarNavigator hbar _ => simp [Session.bar?_of_isBarList hroot] at hbar

/-- A step does one of fewer things where no bars stand side by side. -/
lemma Session.change_step (h : s.root.isBarList = false) (step : Step) :
    s.Change (s.step step).session (s.step step).trace :=
  (s.stepEffect step).change h

end

end SiteNav
