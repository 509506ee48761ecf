import SiteNav.Text.Quoted

/-!
# Navigation links

A link has a label to show and a target to go to. The bar shows two of them, always in the same
order; their markup carries fixed class tokens and a fixed id that the stylesheet relies on.
-/

namespace SiteNav

/-- A label and the path that it leads to. -/
structure NavLink where
  label : String
  target : String
deriving DecidableEq, Repr

def NavLink.home : NavLink := ⟨"Home", "/"⟩

def NavLink.chat : NavLink := ⟨"Chat", "/chat"⟩

/-- The links of the bar. -/
def navLinks : List NavLink := [.home, .chat]

/-! ### Names that the stylesheet relies on -/

def barClass : String := "navbar"

def barId : String := "navbar"

def linkClass : String := "navbar__link"

/-! ### Descriptions -/

/-- The description of a link, with both of its fields quoted. -/
def NavLink.describe (link : NavLink) : String :=
  String.ofList ("NavLink \x7b label: ".toList ++ quote link.label.toList ++ ", target: ".toList ++
    quote link.target.toList ++ " \x7d".toList)

/-- The position of the first link of a list that equals the given one. -/
def NavLink.indexIn? (link : NavLink) (links : List NavLink) : Option Nat :=
  links.findIdx? (· = link)

def NavLink.barIndex? (link : NavLink) : Option Nat :=
  link.indexIn? navLinks

/-- A link is found in a list exactly if it is in it. -/
theorem NavLink.indexIn?_eq_none_iff {link : NavLink} {links : List NavLink} :
    link.indexIn? links = none ↔ link ∉ links := by
  simp only [NavLink.indexIn?, List.findIdx?_eq_none_iff, decide_eq_false_iff_not]
  exact ⟨fun h hm => h link hm rfl, fun h l hl he => h (he ▸ hl)⟩

theorem NavLink.getElem?_of_indexIn? {link : NavLink} {links : List NavLink} {i : Nat}
    (h : link.indexIn? links = some i) : links[i]? = some link := by
  obtain ⟨hi, hl, _⟩ := List.findIdx?_eq_some_iff_getElem.1 h
  rw [List.getElem?_eq_getElem hi]
  exact congrArg some (of_decide_eq_true hl)

end SiteNav
