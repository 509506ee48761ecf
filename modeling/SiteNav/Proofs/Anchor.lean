import Mathlib.Tactic.Lemma
import SiteNav.Bar

/-!
# The text of links

What the document of a link looks like when it is written out: an anchor of the router has its
address before its class, and a plain anchor has them the other way round. A bar puts the markup of
its two links into an element of its own.
-/

namespace SiteNav

/-! ### Pieces that follow one another -/

lemma Html.renderAll_eq_join {α : Type} (hs : List (Html α)) :
    Html.renderAll hs = String.join (hs.map Html.render) := by
  induction hs with
  | nil => simp
  | cons h hs ih => rw [Html.renderAll_cons, ih, List.map_cons, String.join_cons]

lemma Html.renderAll_flatMap {α β : Type} (xs : List β) (f : β → List (Html α)) :
    Html.renderAll (xs.flatMap f) = String.join (xs.map fun x => Html.renderAll (f x)) := by
  induction xs with
  | nil => simp
  | cons x xs ih =>
    rw [List.flatMap_cons, Html.renderAll_append, ih, List.map_cons, String.join_cons]

/-! ### Listeners -/

lemma Html.anchorsAll_eq_flatMap {α : Type} (hs : List (Html α)) :
    Html.anchorsAll hs = hs.flatMap Html.anchors := by
  induction hs with
  | nil => simp
  | cons h hs ih => rw [Html.anchorsAll_cons, ih, List.flatMap_cons]

/-! ### Anchors of the router -/

/-- The mark of an anchor to the current path, as text. -/
def markText (path : String) (r : Route) : String :=
  if path = r.path then " aria-current=\"page\"" else ""

def routerAnchorText (base path : String) (r : Route) (label : String) : String :=
  "<a href=\"" ++ base ++ r.path ++ "\" class=\"navbar__link\"" ++ markText path r ++ ">" ++
    escape label ++ "</a>"

lemma attributesText_currentMark (location : Location) (r : Route) :
    attributesText (currentMark location r) = markText location.path r := by
  rw [currentMark, markText]
  by_cases h : location.path = r.path
  · rw [if_pos h, if_pos h.symm]
    decide
  · rw [if_neg h, if_neg (Ne.symm h)]
    rfl

lemma attributesText_append (as bs : List (String × String)) :
    attributesText (as ++ bs) = attributesText as ++ attributesText bs := by
  simp [attributesText]

/-- The text of an anchor of the router, mark included. -/
lemma render_routerAnchor (location : Location) (r : Route) (label : String) :
    (routerAnchor location r label).render =
      routerAnchorText location.base location.path r label := by
  unfold routerAnchorText
  rw [routerAnchor, Html.render_element, attributesText_append, attributesText_currentMark,
    ← String.toList_inj]
  simp [attributesText, classAttribute, linkClass]

/-! ### Plain anchors -/

def plainAnchorText (link : NavLink) : String :=
  "<a class=\"navbar__link\" href=\"" ++ link.target ++ "\">" ++ escape link.label ++ "</a>"

/-- A listener leaves no trace in the text. -/
lemma render_plainAnchor (link : NavLink) (listener : Option Action) :
    (plainAnchor link listener).render = plainAnchorText link := by
  unfold plainAnchorText
  rw [plainAnchor, Html.render_element, ← String.toList_inj]
  simp [attributesText, classAttribute, linkClass]

/-! ### Links of the routed site -/

/-- The element that shows a link where there is a router. -/
def routedElement (location : Location) (link : NavLink) : Html Action :=
  match Route.parse link.target with
  | .ok r => routerAnchor location r link.label
  | .error _ => plainAnchor link none

/-- Where there is a router, every link is shown by exactly one element. -/
lemma routedLink_some (location : Location) (link : NavLink) :
    routedLink (some location) link = [routedElement location link] := by
  rw [routedElement]
  cases h : Route.parse link.target with
  | ok r => exact routedLink_of_ok h location
  | error e => exact routedLink_of_error h (some location)

lemma routedElement_of_ok {link : NavLink} {r : Route} (h : Route.parse link.target = .ok r)
    (location : Location) :
    routedElement location link = routerAnchor location r link.label := by
  rw [routedElement, h]

lemma routedElement_of_error {link : NavLink} {e : RouteError}
    (h : Route.parse link.target = .error e) (location : Location) :
    routedElement location link = plainAnchor link none := by
  rw [routedElement, h]

def routedLinkText (base path : String) (link : NavLink) : String :=
  match Route.parse link.target with
  | .ok r => routerAnchorText base path r link.label
  | .error _ => plainAnchorText link

lemma render_routedElement (location : Location) (link : NavLink) :
    (routedElement location link).render =
      routedLinkText location.base location.path link := by
  rw [routedElement, routedLinkText]
  cases Route.parse link.target with
  | ok r => exact render_routerAnchor location r link.label
  | error e => exact render_plainAnchor link none

/-! ### Bars -/

/-- A bar of the two links as a builder makes them. -/
def builtBar (location : Option Location) (b : Builder) : Html Action :=
  .element "nav" [("id", "navbar"), ("class", "navbar")] none
    (b.link location .home ++ b.link location .chat)

/-- A bar of anchors that offer the two links to a navigator. -/
def offeringBar (navigator : Option String) : Html Action :=
  .element "nav" [("id", "navbar"), ("class", "navbar")] none
    [offeringAnchor navigator .home, offeringAnchor navigator .chat]

/-- A bar shows the links that its builder makes, and no others. -/
lemma BarLinks.html_built (location : Option Location) (b : Builder) :
    (BarLinks.built b).html location = builtBar location b := by
  rw [BarLinks.html, navLinks, List.flatMap_cons, List.flatMap_singleton]
  rfl

/-- A bar without a builder shows two anchors of its own. -/
lemma BarLinks.html_offering (location : Option Location) (navigator : Option String) :
    (BarLinks.offering navigator).html location = offeringBar navigator := by
  rw [BarLinks.html, navLinks, List.flatMap_cons, List.flatMap_singleton]
  rfl

end SiteNav
