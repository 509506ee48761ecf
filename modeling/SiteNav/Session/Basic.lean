import SiteNav.History
import SiteNav.Page

/-!
# Sessions

A session is one life of the site: what is registered, where the history stands, and what is
mounted at the root. The root is the routed app, a row of links as the routed site shows them, or a
number of bars side by side. The app shows its bar and the page of a route, or the failure page; on
a path that is no route it crashes, and nothing is shown any more.

The document of a session is computed from it and kept nowhere.
-/

namespace SiteNav

/-! ### Roots -/

inductive Screen where
  | page (bar : BarLinks) (route : Route)
  | failure
  | crashed
deriving DecidableEq, Repr

/-- A bar with its number, the navigator provided around it, and its links. -/
structure Bar where
  id : Nat
  navigator : Option String
  links : BarLinks
deriving DecidableEq, Repr

def Bar.rerun (registry : Registry) (b : Bar) : Bar :=
  { b with links := b.links.rerun registry }

/-- What is mounted at the root; only the app always has a router. -/
inductive Root where
  | app (screen : Screen)
  | linkList (routed : Bool) (links : List NavLink)
  | barList (routed : Bool) (bars : List Bar) (nextId : Nat)
deriving DecidableEq, Repr

def Root.hasRouter : Root → Bool
  | .app _ => true
  | .linkList routed _ => routed
  | .barList routed _ _ => routed

def Root.isCrashed : Root → Bool
  | .app .crashed => true
  | .app _ | .linkList _ _ | .barList _ _ _ => false

def Screen.document (location : Option Location) : Screen → Document
  | .page bar route => [bar.html location, route.page]
  | .failure => failurePage
  | .crashed => []

def Root.document (location : Option Location) : Root → Document
  | .app screen => screen.document location
  | .linkList _ links => links.flatMap (routedLink location)
  | .barList _ bars _ => bars.map fun b => b.links.html location

/-- The app's screen after the history has come to a path. -/
def Screen.arrive (path : String) : Screen → Screen
  | .page bar _ =>
    match Route.parse path with
    | .ok r => .page bar r
    | .error _ => .crashed
  | .failure => .failure
  | .crashed => .crashed

def Root.arrive (path : String) : Root → Root
  | .app screen => .app (screen.arrive path)
  | .linkList routed links => .linkList routed links
  | .barList routed bars nextId => .barList routed bars nextId

/-- The root after the browser could not be sent to an external address. -/
def Root.fail : Root → Root
  | .app .crashed => .app .crashed
  | .app _ => .app .failure
  | .linkList routed links => .linkList routed links
  | .barList routed bars nextId => .barList routed bars nextId

/-- The bars that stand side by side. -/
def Root.bars : Root → List Bar
  | .barList _ bars _ => bars
  | .app _ | .linkList _ _ => []

def Root.mapBars (f : List Bar → List Bar) : Root → Root
  | .barList routed bars nextId => .barList routed (f bars) nextId
  | .app screen => .app screen
  | .linkList routed links => .linkList routed links

def Root.bar? (root : Root) (id : Nat) : Option Bar :=
  root.bars.find? (·.id = id)

@[simp] theorem Root.hasRouter_arrive (path : String) (root : Root) :
    (root.arrive path).hasRouter = root.hasRouter := by cases root <;> rfl

/-! ### Sessions -/

structure Session where
  registry : Registry
  history : History
  base : String
  opensExternal : Bool
  navigator : Option String
  linked : List String
  root : Root
deriving DecidableEq, Repr

/-- Where the router is, if there is one. -/
def Session.location (s : Session) : Option Location :=
  if s.root.hasRouter then some ⟨s.base, s.history.current⟩ else none

def Session.document (s : Session) : Document :=
  s.root.document s.location

def Session.isCrashed (s : Session) : Bool := s.root.isCrashed

/-- Does one thing after another and collects the traces. -/
def Session.andThen (x : Session × Trace) (f : Session → Session × Trace) : Session × Trace :=
  ((f x.1).1, x.2 ++ (f x.1).2)

@[simp] theorem Session.fst_andThen (x : Session × Trace) (f : Session → Session × Trace) :
    (Session.andThen x f).1 = (f x.1).1 := rfl

@[simp] theorem Session.snd_andThen (x : Session × Trace) (f : Session → Session × Trace) :
    (Session.andThen x f).2 = x.2 ++ (f x.1).2 := rfl

/-! ### The head of the page -/

/-- The elements that come into the head when some are wanted: a stylesheet is linked only once. -/
def newHead : List String → List HeadElement → List HeadElement
  | _, [] => []
  | linked, .stylesheetLink href :: es =>
    if href ∈ linked then newHead linked es
    else .stylesheetLink href :: newHead (href :: linked) es
  | linked, .style contents :: es => .style contents :: newHead linked es

/-- The stylesheets that are linked once some elements are wanted. -/
def linkedAfter : List String → List HeadElement → List String
  | linked, [] => linked
  | linked, .stylesheetLink href :: es =>
    if href ∈ linked then linkedAfter linked es else linkedAfter (href :: linked) es
  | linked, .style _ :: es => linkedAfter linked es

/-- Wants elements in the head of the page. -/
def Session.wantHead (s : Session) (es : List HeadElement) : Session × Trace :=
  ({ s with linked := linkedAfter s.linked es }, { Trace.empty with head := newHead s.linked es })

/-- A stylesheet that is wanted is linked, now or before. -/
theorem mem_linkedAfter {linked : List String} {es : List HeadElement} {href : String} :
    href ∈ linkedAfter linked es ↔ href ∈ linked ∨ .stylesheetLink href ∈ es := by
  induction es generalizing linked with
  | nil => simp [linkedAfter]
  | cons e es ih =>
    cases e with
    | style contents => simp [linkedAfter, ih]
    | stylesheetLink other =>
      by_cases h : other ∈ linked
      · rw [linkedAfter, if_pos h, ih]
        simp only [List.mem_cons, HeadElement.stylesheetLink.injEq]
        constructor
        · rintro (h₁ | h₁) <;> simp [h₁]
        · rintro (h₁ | rfl | h₁) <;> simp_all
      · rw [linkedAfter, if_neg h, ih]
        simp only [List.mem_cons, HeadElement.stylesheetLink.injEq]
        constructor
        · rintro ((rfl | h₁) | h₁) <;> simp_all
        · rintro (h₁ | rfl | h₁) <;> simp_all

end SiteNav
