import SiteNav.Builder

/-!
# The navigation bar

A bar reads the registry each time it runs, and keeps what it found until it runs again: links of
the registered builder, or anchors of its own that offer themselves to the navigator that was at
hand when they were first shown. A builder that is registered in between replaces those anchors at
the next run.
-/

namespace SiteNav

/-- What the links of a bar were made from when the bar last ran. -/
inductive BarLinks where
  | offering (navigator : Option String)
  | built (builder : Builder)
deriving DecidableEq, Repr

/-- The links of a bar that is shown for the first time. -/
def BarLinks.mount (registry : Registry) (navigator : Option String) : BarLinks :=
  match registry.builder with
  | none => .offering navigator
  | some b => .built b

/-- The links of a bar that runs again. -/
def BarLinks.rerun (registry : Registry) (links : BarLinks) : BarLinks :=
  match registry.builder with
  | none => links
  | some b => .built b

def BarLinks.link (location : Option Location) : BarLinks → NavLink → Document
  | .offering navigator, link => [offeringAnchor navigator link]
  | .built b, link => b.link location link

def BarLinks.html (location : Option Location) (links : BarLinks) : Html Action :=
  .element "nav" [("id", barId), classAttribute barClass] none
    (navLinks.flatMap (links.link location))

def BarLinks.warnings : BarLinks → List LogEntry
  | .offering _ => []
  | .built b => navLinks.flatMap b.warnings

def BarLinks.logs (links : BarLinks) : List LogEntry :=
  .barRun :: links.warnings

/-- The elements that a bar wants in the head when it is shown for the first time. -/
def barHead : List HeadElement :=
  [.stylesheetLink barStylesheetHref, .style stylesheet]

@[simp] theorem BarLinks.mount_some (b : Builder) (navigator : Option String) :
    BarLinks.mount ⟨some b⟩ navigator = .built b := rfl

@[simp] theorem BarLinks.mount_none (navigator : Option String) :
    BarLinks.mount ⟨none⟩ navigator = .offering navigator := rfl

/-- The links of the bar are routes, so that no builder has anything to say about them. -/
@[simp] theorem BarLinks.warnings_eq_nil (links : BarLinks) : links.warnings = [] := by
  have hh : routedWarnings .home = [] := routedWarnings_of_ok (Route.parse_path .home)
  have hc : routedWarnings .chat = [] := routedWarnings_of_ok (Route.parse_path .chat)
  cases links with
  | offering navigator => rfl
  | built b => cases b <;> simp [BarLinks.warnings, navLinks, Builder.warnings, hh, hc]

end SiteNav
