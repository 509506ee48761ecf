import Mathlib.Data.List.Basic
import Mathlib.Data.List.Nodup
import SiteNav.Link
import SiteNav.Proofs.Text.Quoted

/-!
# Telling links apart

A link can be read back from its description, whatever its label and its target hold, so that links
with the same description are equal. They are also those that a list of links first has at the same
position, and a link has a place in the bar exactly if the bar has it there.
-/

namespace SiteNav

/-! ### Reading a description -/

/-- Reads the quoted text behind a fixed one, and leaves what follows. -/
def readField (name : String) (cs : List Char) : Option (List Char × List Char) :=
  (cs.dropPrefix? (name.toList ++ ['"'])).bind readQuoted

/-- The link that a description is of. -/
def NavLink.ofDescription? (description : String) : Option NavLink := do
  let (label, rest) ← readField "NavLink \x7b label: " description.toList
  let (target, rest) ← readField ", target: " rest
  if rest = " \x7d".toList then some ⟨String.ofList label, String.ofList target⟩ else none

/-- A field is read back, and what follows it is left. -/
lemma readField_append (name : String) (cs rest : List Char) :
    readField name (name.toList ++ quote cs ++ rest) = some (cs, rest) := by
  have hshape : name.toList ++ quote cs ++ rest =
      (name.toList ++ ['"']) ++ (quoteBody cs ++ '"' :: rest) := by
    simp [quote]
  rw [readField, hshape, List.dropPrefix?_append_of_beq _ (by simp), Option.bind_some,
    readQuoted_quoteBody_append]

lemma NavLink.ofDescription?_describe (link : NavLink) :
    NavLink.ofDescription? link.describe = some link := by
  have hshape : link.describe.toList = "NavLink \x7b label: ".toList ++ quote link.label.toList ++
      (", target: ".toList ++ quote link.target.toList ++ " \x7d".toList) := by
    calc link.describe.toList
        = "NavLink \x7b label: ".toList ++ quote link.label.toList ++ ", target: ".toList ++
            quote link.target.toList ++ " \x7d".toList := String.toList_ofList
      _ = _ := by simp only [List.append_assoc]
  rw [NavLink.ofDescription?, hshape, readField_append]
  simp only [Option.bind_eq_bind, Option.bind_some, readField_append, if_pos, String.ofList_toList]

/-- A label that looks like the rest of a description, and a character that is written by number. -/
example : NavLink.ofDescription?
    "NavLink \x7b label: \"\\\", target: \\\"\", target: \"\\u\x7b301\x7d\\n\" \x7d" =
      some ⟨"\", target: \"", "\u0301\n"⟩ := by decide +kernel

/-- No two links have the same description. -/
lemma NavLink.describe_inj {link other : NavLink} :
    link.describe = other.describe ↔ link = other := by
  refine ⟨fun h => ?_, fun h => by rw [h]⟩
  have hread := congrArg NavLink.ofDescription? h
  rwa [ofDescription?_describe, ofDescription?_describe, Option.some_inj] at hread

lemma NavLink.eq_iff {link other : NavLink} :
    link = other ↔ link.label = other.label ∧ link.target = other.target := by
  cases link
  cases other
  simp only [NavLink.mk.injEq]

/-! ### Positions in a list -/

section

variable {links : List NavLink}

/-- A link of a list is first found where it is, or in front of that. -/
lemma NavLink.exists_indexIn? (i : Fin links.length) :
    ∃ k : Fin links.length, links[i].indexIn? links = some k.val ∧ k ≤ i ∧ links[k] = links[i] := by
  cases h : links[i].indexIn? links with
  | none => exact absurd (List.getElem_mem i.isLt) (NavLink.indexIn?_eq_none_iff.mp h)
  | some k =>
    obtain ⟨hk, hlink, hfirst⟩ := List.findIdx?_eq_some_iff_getElem.mp h
    refine ⟨⟨k, hk⟩, rfl, ?_, of_decide_eq_true hlink⟩
    by_contra hlt
    have hik : i.val < k := Nat.lt_of_not_le hlt
    exact hfirst i hik (by simp)

/-- Links that are first found at the same place are equal. -/
lemma NavLink.indexIn?_inj (i j : Fin links.length) :
    links[i].indexIn? links = links[j].indexIn? links ↔ links[i] = links[j] := by
  refine ⟨fun h => ?_, fun h => by rw [h]⟩
  obtain ⟨k, hk, -, hlink⟩ := NavLink.exists_indexIn? i
  obtain ⟨m, hm, -, hother⟩ := NavLink.exists_indexIn? j
  rw [hk, hm, Option.some_inj] at h
  have hkm : k = m := Fin.ext h
  rw [← hlink, ← hother, hkm]

/-- In a list without repetitions, a link is found where it is. -/
lemma NavLink.indexIn?_eq_some_iff (h : links.Nodup) {link : NavLink} {k : Nat} :
    link.indexIn? links = some k ↔ links[k]? = some link := by
  refine ⟨NavLink.getElem?_of_indexIn?, fun hk => ?_⟩
  obtain ⟨hlt, rfl⟩ := List.getElem?_eq_some_iff.mp hk
  let i : Fin links.length := ⟨k, hlt⟩
  obtain ⟨m, hm, -, hlink⟩ := NavLink.exists_indexIn? i
  have hmi : m = i := Fin.ext (h.getElem_inj_iff.mp hlink)
  rwa [hmi] at hm

end

/-! ### Nothing is lost -/

/-- A link is read back from its description. So for two links of a list it is the same to have the
same description, the same label and target, and the same first position in the list; that position
is not behind the link, and the link there has it too. A link has a place in the bar exactly if the
bar has this link in that place. -/
theorem NavLink.descriptions_tell_apart (links : List NavLink) :
    (∀ link : NavLink, NavLink.ofDescription? link.describe = some link) ∧
    ∀ i j : Fin links.length,
      (links[i].describe = links[j].describe ↔
        links[i].label = links[j].label ∧ links[i].target = links[j].target) ∧
      (links[i].indexIn? links = links[j].indexIn? links ↔
        links[i].label = links[j].label ∧ links[i].target = links[j].target) ∧
      (∃ k : Fin links.length, links[i].indexIn? links = some k.val ∧ k ≤ i ∧
        links[k].indexIn? links = some k.val) ∧
      ∀ k, links[i].barIndex? = some k ↔ navLinks[k]? = some links[i] := by
  refine ⟨NavLink.ofDescription?_describe, fun i j => ⟨?_, ?_, ?_, fun k => ?_⟩⟩
  · rw [NavLink.describe_inj, NavLink.eq_iff]
  · rw [NavLink.indexIn?_inj, NavLink.eq_iff]
  · obtain ⟨k, hk, hle, hlink⟩ := NavLink.exists_indexIn? i
    exact ⟨k, hk, hle, by rwa [hlink]⟩
  · exact NavLink.indexIn?_eq_some_iff (by decide)

end SiteNav
