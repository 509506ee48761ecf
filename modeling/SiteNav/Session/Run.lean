import SiteNav.Session.Step

/-!
# Recorded runs

A run is recorded as a list of snapshots, one after the mount and one after each step, each with the
traces that arose since the one before. The document of a crashed session is missing from its
snapshot, and nothing is recorded after it.
-/

namespace SiteNav

/-- What is recorded of a session at one moment. -/
structure Snapshot where
  html : Option String
  path : String
  canGoBack : Bool
  canGoForward : Bool
  trace : Trace
  outcome : Outcome
deriving DecidableEq, Repr

def Session.snapshot (s : Session) (trace : Trace) (outcome : Outcome) : Snapshot :=
  ⟨if s.isCrashed then none else some (Html.renderAll s.document), s.history.current,
    s.history.canGoBack, s.history.canGoForward, trace, outcome⟩

def Answer.snapshot (a : Answer) : Snapshot := a.session.snapshot a.trace a.outcome

/-- The records of steps, up to the first crash. -/
def Session.run (s : Session) : List Step → List Snapshot
  | [] => []
  | step :: steps =>
    if s.isCrashed then [] else (s.step step).snapshot :: (s.step step).session.run steps

/-- The records of a session from its mount on. -/
def Setup.record (setup : Setup) (steps : List Step) : List Snapshot :=
  setup.mount.1.snapshot setup.mount.2 .done :: setup.mount.1.run steps

@[simp] theorem Session.run_nil (s : Session) : s.run [] = [] := rfl

/-- Until the crash, every step is recorded. -/
theorem Session.run_cons {s : Session} (h : s.isCrashed = false) (step : Step)
    (steps : List Step) :
    s.run (step :: steps) = (s.step step).snapshot :: (s.step step).session.run steps := by
  simp [Session.run, h]

/-- Nothing is recorded after a crash. -/
theorem Session.run_of_isCrashed {s : Session} (h : s.isCrashed = true) (steps : List Step) :
    s.run steps = [] := by
  cases steps <;> simp [Session.run, h]

end SiteNav
