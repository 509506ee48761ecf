import SiteNav.Link
import SiteNav.Route.Error
import SiteNav.Stylesheet

/-!
# What can be observed from outside

Besides its document, the site leaves traces: entries in the log, elements in the head of the page,
paths handed to navigators, and addresses that the history was asked to open. They are collected in
the order in which they arise.
-/

namespace SiteNav

/-! ### The log -/

inductive Level where
  | trace
  | debug
  | warn
deriving DecidableEq, Repr

inductive LogEntry where
  | barRun
  | lateRegistration
  | intent (link : NavLink)
  | unroutable (target : String) (error : RouteError)
deriving DecidableEq, Repr

def LogEntry.level : LogEntry → Level
  | .barRun | .lateRegistration => .trace
  | .intent _ => .debug
  | .unroutable _ _ => .warn

def LogEntry.message : LogEntry → String
  | .barRun => "NavigationBar render"
  | .lateRegistration => "nav builder already registered"
  | .intent _ => "nav intent"
  | .unroutable _ error => "unroutable nav target: " ++ error.message

def LogEntry.fields : LogEntry → List (String × String)
  | .barRun | .lateRegistration => []
  | .intent link => [("label", link.label), ("path", link.target)]
  | .unroutable target _ => [("path", target)]

/-! ### The head of the page -/

inductive HeadElement where
  | stylesheetLink (href : String)
  | style (contents : String)
deriving DecidableEq, Repr

def HeadElement.tag : HeadElement → String
  | .stylesheetLink _ => "link"
  | .style _ => "style"

def HeadElement.attributes : HeadElement → List (String × String)
  | .stylesheetLink href => [("rel", "stylesheet"), ("href", href)]
  | .style _ => []

/-- What an element of the head contains, if it can contain anything. -/
def HeadElement.contents? : HeadElement → Option String
  | .stylesheetLink _ => none
  | .style contents => some contents

/-! ### Traces -/

/-- A path that a navigator was asked to go to. -/
structure Intent where
  navigator : String
  path : String
deriving DecidableEq, Repr

/-- What was observed of a run, each kind in order. -/
structure Trace where
  head : List HeadElement := []
  opened : List String := []
  intents : List Intent := []
  logs : List LogEntry := []
deriving DecidableEq, Repr

def Trace.empty : Trace := ⟨[], [], [], []⟩

def Trace.append (t u : Trace) : Trace :=
  ⟨t.head ++ u.head, t.opened ++ u.opened, t.intents ++ u.intents, t.logs ++ u.logs⟩

instance : Append Trace := ⟨Trace.append⟩

@[simp] theorem Trace.head_append (t u : Trace) : (t ++ u).head = t.head ++ u.head := rfl

@[simp] theorem Trace.intents_append (t u : Trace) :
    (t ++ u).intents = t.intents ++ u.intents := rfl

@[simp] theorem Trace.logs_append (t u : Trace) : (t ++ u).logs = t.logs ++ u.logs := rfl

/-- Hands the target of a link to a navigator. -/
def NavLink.activate (link : NavLink) (navigator : String) : Trace :=
  ⟨[], [], [⟨navigator, link.target⟩], [.intent link]⟩

end SiteNav
