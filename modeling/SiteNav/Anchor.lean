import SiteNav.Html
import SiteNav.Link
import SiteNav.Route.Basic

/-!
# The markup of a link

A link is shown in one of several ways. A plain anchor leaves the target to the browser unless a
listener takes the click; the anchor of the router shows the path of a route, marks it if it is the
current one and visits it on a click.
-/

namespace SiteNav

/-- What a listener does with a click. -/
inductive Action where
  | offer (link : NavLink) (navigator : Option String)
  | announce (link : NavLink) (navigator : String)
  | visit (path : String)
  | dismissFailure
deriving DecidableEq, Repr

/-- A document that can be clicked. -/
abbrev Document := List (Html Action)

/-- Where the router is: its current path, and what the address of every path starts with. -/
structure Location where
  base : String
  path : String
deriving DecidableEq, Repr

def classAttribute (name : String) : String × String := ("class", name)

/-- An anchor to the target of a link as it is spelled. -/
def plainAnchor (link : NavLink) (listener : Option Action) : Html Action :=
  .element "a" [classAttribute linkClass, ("href", link.target)] listener [.text link.label]

def offeringAnchor (navigator : Option String) (link : NavLink) : Html Action :=
  plainAnchor link (some (.offer link navigator))

def currentMark (location : Location) (r : Route) : List (String × String) :=
  if r.path = location.path then [("aria-current", "page")] else []

/-- An anchor of the router to a route. -/
def routerAnchor (location : Location) (r : Route) (label : String) : Html Action :=
  .element "a" ([("href", location.base ++ r.path), classAttribute linkClass] ++
    currentMark location r) (some (.visit r.path)) [.text label]

/-- A link that can be read but not clicked. -/
def spanLink (link : NavLink) : Html Action :=
  .element "span" [classAttribute linkClass] none [.text (link.label ++ "=" ++ link.target)]

/-- An anchor into the page itself that announces its link to a navigator. -/
def announcingAnchor (navigator : String) (link : NavLink) : Html Action :=
  .element "a" [classAttribute (linkClass ++ " active"), ("href", "#" ++ link.target)]
    (some (.announce link navigator)) [.text link.label]

@[simp] theorem anchors_plainAnchor (link : NavLink) (listener : Option Action) :
    (plainAnchor link listener).anchors = [listener] := by simp [plainAnchor]

@[simp] theorem anchors_offeringAnchor (navigator : Option String) (link : NavLink) :
    (offeringAnchor navigator link).anchors = [some (.offer link navigator)] := by
  simp [offeringAnchor]

@[simp] theorem anchors_routerAnchor (location : Location) (r : Route) (label : String) :
    (routerAnchor location r label).anchors = [some (.visit r.path)] := by simp [routerAnchor]

@[simp] theorem anchors_spanLink (link : NavLink) : (spanLink link).anchors = [] := by
  simp [spanLink]

@[simp] theorem anchors_announcingAnchor (navigator : String) (link : NavLink) :
    (announcingAnchor navigator link).anchors = [some (.announce link navigator)] := by
  simp [announcingAnchor]

/-- Which navigator an anchor offers its link to does not show. -/
theorem render_offeringAnchor (navigator : Option String) (link : NavLink) :
    (offeringAnchor navigator link).render = (plainAnchor link none).render := by
  simp [offeringAnchor, plainAnchor]

end SiteNav
