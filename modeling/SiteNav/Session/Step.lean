import SiteNav.Session.Mount

/-!
# Steps

A step moves the history through the router, clicks an anchor of the document, registers a builder,
or changes what is mounted. Its answer says what became of it, besides the traces that it left.
-/

namespace SiteNav

/-! ### The router -/

inductive Move where
  | push (path : String)
  | replace (path : String)
  | back
  | forward
deriving DecidableEq, Repr

def History.move (h : History) : Move → History
  | .push path => h.push path
  | .replace path => h.replace path
  | .back => h.back
  | .forward => h.forward

/-- Moves through the history and brings the root along. -/
def Session.go (s : Session) (m : Move) : Session :=
  { s with history := s.history.move m, root := s.root.arrive (s.history.move m).current }

/-- Asks the history to open an external address; if it does not, the router fails. -/
def Session.leave (s : Session) (url : String) : Session × Trace :=
  (if s.opensExternal then s else { s with root := s.root.fail },
    { Trace.empty with opened := [url] })

/-- Puts bar and page back in the place of the failure page. -/
def Session.recover (s : Session) : Session × Trace :=
  match s.root with
  | .app .failure => s.openPage
  | .app (.page _ _) | .app .crashed | .linkList _ _ | .barList _ _ _ => (s, .empty)

/-! ### Clicks -/

inductive Button where
  | primary
  | secondary
  | auxiliary
  | fourth
  | fifth
  | unknown
deriving DecidableEq, Repr

inductive Modifier where
  | ctrl
  | shift
  | alt
  | command
deriving DecidableEq, Repr

/-- An event on an anchor. -/
structure Click where
  anchor : Nat
  button : Button
  modifiers : List Modifier
  event : String
deriving DecidableEq, Repr

def clickEvent : String := "click"

/-- Whether a click is one with the primary button and no key held. -/
def Click.isPlain (c : Click) : Bool :=
  c.button = .primary && c.modifiers.isEmpty

/-- Whether an action keeps the browser from following the anchor. -/
def Action.prevents (c : Click) : Action → Bool
  | .offer _ navigator => navigator.isSome
  | .announce _ _ => false
  | .visit _ => c.isPlain
  | .dismissFailure => false

def Session.act (s : Session) (c : Click) : Action → Session × Trace
  | .offer _ none => (s, .empty)
  | .offer link (some navigator) => (s, link.activate navigator)
  | .announce link navigator => (s, link.activate navigator)
  | .visit path => (if c.isPlain then s.go (.push path) else s, .empty)
  | .dismissFailure => s.recover

/-! ### Steps and their answers -/

inductive RouterStep where
  | go (move : Move)
  | leave (url : String)
  | recover
deriving DecidableEq, Repr

inductive Step where
  | router (step : RouterStep)
  | click (click : Click)
  | register (builder : Builder)
  | rerun (bar : Option Nat)
  | addBar (navigator : Option String)
  | removeBar (bar : Nat)
  | setNavigator (navigator : String) (bar : Option Nat)
deriving DecidableEq, Repr

inductive Outcome where
  | done
  | noRouter
  | noSuchAnchor
  | noSuchBar
  | left (failed : Option String)
  | clicked (listener : Bool) (prevented : Bool)
deriving DecidableEq, Repr

/-- The session after a step, the trace of the step, and its outcome. -/
structure Answer where
  session : Session
  trace : Trace
  outcome : Outcome
deriving DecidableEq, Repr

def Answer.ofRun (x : Session × Trace) (outcome : Outcome) : Answer := ⟨x.1, x.2, outcome⟩

def Answer.refuse (s : Session) (outcome : Outcome) : Answer := ⟨s, .empty, outcome⟩

def Session.tellRouter (s : Session) : RouterStep → Answer
  | .go m => .ofRun (s.go m, .empty) .done
  | .leave url => .ofRun (s.leave url) (.left (if s.opensExternal then none else some url))
  | .recover => .ofRun s.recover .done

def Session.click (s : Session) (c : Click) : Answer :=
  match (Html.anchorsAll s.document)[c.anchor]? with
  | none => .refuse s .noSuchAnchor
  | some none => .refuse s (.clicked false false)
  | some (some action) =>
    if c.event = clickEvent then .ofRun (s.act c action) (.clicked true (action.prevents c))
    else .refuse s (.clicked true false)

/-! ### Changes of what is mounted -/

/-- Runs the root again, and with it all bars that stand side by side. -/
def Session.rerunRoot (s : Session) : Session × Trace :=
  match s.root with
  | .app _ => s.register [.routed]
  | .linkList _ links => s.runLinks links
  | .barList _ bars _ =>
    ({ s with root := s.root.mapBars (·.map (·.rerun s.registry)) },
      { Trace.empty with logs := bars.flatMap fun b => (b.rerun s.registry).links.logs })

/-- Does something to one bar and leaves the others alone. -/
def Session.onBar (s : Session) (id : Nat) (f : Bar → Session × Trace) : Answer :=
  match s.root.bar? id with
  | none => .refuse s .noSuchBar
  | some b => .ofRun (f b) .done

def Session.rerunBar (s : Session) (id : Nat) : Answer :=
  s.onBar id fun b =>
    ({ s with root := s.root.mapBars (·.map fun c => if c.id = id then c.rerun s.registry else c) },
      { Trace.empty with logs := (b.rerun s.registry).links.logs })

def Session.removeBar (s : Session) (id : Nat) : Answer :=
  s.onBar id fun _ => ({ s with root := s.root.mapBars (·.filter (·.id ≠ id)) }, .empty)

/-- Provides another navigator around a bar, for links that are still to be mounted. -/
def Session.setBarNavigator (s : Session) (id : Nat) (navigator : String) : Answer :=
  s.onBar id fun _ =>
    ({ s with root := s.root.mapBars (·.map fun c =>
      if c.id = id then { c with navigator := some navigator } else c) }, .empty)

def Session.step (s : Session) : Step → Answer
  | .router r => if s.root.hasRouter then s.tellRouter r else .refuse s .noRouter
  | .click c => s.click c
  | .register b => .ofRun (s.register [b]) .done
  | .rerun none => .ofRun s.rerunRoot .done
  | .rerun (some id) => s.rerunBar id
  | .addBar navigator => .ofRun (s.addBar navigator) .done
  | .removeBar id => s.removeBar id
  | .setNavigator navigator none => .ofRun ({ s with navigator := some navigator }, .empty) .done
  | .setNavigator navigator (some id) => s.setBarNavigator id navigator

end SiteNav
