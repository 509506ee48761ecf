import SiteNav.Proofs.Route.Segments
import SiteNav.Route.Relation

/-!
# What stands at the end of a path

A query or a hash is cut off before anything else is read, and then one slash at the end is dropped.
So neither of them tells two paths apart, whether they lead to a route or are reported. A second
slash does: it leaves an empty segment at the end, and no route has one.
-/

namespace SiteNav

/-! ### Paths that are read alike -/

/-- Nothing tells two paths apart: they lead to the same route or are reported alike, and either can
stand for the other on both sides of a comparison. -/
structure Route.Alike (path other : String) : Prop where
  parse_eq : Route.parse path = Route.parse other
  relate_left : ∀ right, relatePaths path right = relatePaths other right
  relate_right : ∀ left, relatePaths left path = relatePaths left other

/-- A comparison depends on its sides only by what they lead to. -/
lemma relatePaths_congr {left left' right right' : String}
    (hleft : Route.parse left = Route.parse left')
    (hright : Route.parse right = Route.parse right') :
    relatePaths left right = relatePaths left' right' := by
  simp only [relatePaths, Side.parse, hleft, hright]

/-- Nothing but the route of a path, or the report on it, enters a comparison. -/
lemma Route.Alike.of_parse_eq {path other : String} (h : Route.parse path = Route.parse other) :
    Route.Alike path other where
  parse_eq := h
  relate_left _ := relatePaths_congr h rfl
  relate_right _ := relatePaths_congr rfl h

/-- All that is read of a path is whether it is absolute, and its trunk up to a last slash. -/
lemma Route.parse_congr {path other : String}
    (habs : isAbsolute path.toList = isAbsolute other.toList)
    (htrunk : dropOneLast '/' (trunk path.toList) = dropOneLast '/' (trunk other.toList)) :
    Route.parse path = Route.parse other := by
  simp only [Route.parse, pathSegments, habs, htrunk]

section

variable {u t : String} (hq : '?' ∉ u.toList) (hh : '#' ∉ u.toList)

/-! ### Queries and hashes -/

lemma isAbsolute_append_of_isTail (cs : List Char) {ds : List Char} (ht : IsTail ds) :
    isAbsolute (cs ++ ds) = isAbsolute cs := by
  cases cs with
  | cons c cs => rfl
  | nil =>
    cases ds with
    | nil => rfl
    | cons d ds =>
      -- what a tail begins with is no slash
      rcases ht d rfl with rfl | rfl
      · rfl
      · rfl

include hq hh

lemma trunk_eq_self : trunk u.toList = u.toList := by
  simpa using trunk_append (t := []) hq hh (by decide)

/-- A tail is cut off before anything else is done. -/
lemma Route.parse_append_tail (ht : IsTail t.toList) : Route.parse (u ++ t) = Route.parse u := by
  apply Route.parse_congr
  · rw [String.toList_append, isAbsolute_append_of_isTail _ ht]
  · rw [String.toList_append, trunk_append hq hh ht, trunk_eq_self hq hh]

/-! ### Slashes -/

lemma Route.parse_append_slash (habs : u.toList.head? = some '/')
    (hlast : u.toList.getLast? ≠ some '/') : Route.parse (u ++ "/") = Route.parse u := by
  have hq' : '?' ∉ (u ++ "/").toList := by simpa using hq
  have hh' : '#' ∉ (u ++ "/").toList := by simpa using hh
  apply Route.parse_congr
  · obtain ⟨rest, hrest⟩ := List.head?_eq_some_iff.mp habs
    rw [String.toList_append, hrest]
    rfl
  · rw [trunk_eq_self hq' hh', trunk_eq_self hq hh, dropOneLast_eq_self hlast,
      String.toList_append]
    exact dropOneLast_append_self '/' u.toList

/-- The first of two slashes at the end is left there, and separates an empty segment. -/
lemma pathSegments_append_slashes : ∃ ss, pathSegments (u ++ "//").toList = ss ++ [""] := by
  have hq' : '?' ∉ (u ++ "//").toList := by simpa using hq
  have hh' : '#' ∉ (u ++ "//").toList := by simpa using hh
  have hdrop : dropOneLast '/' (u ++ "//").toList = u.toList ++ ['/'] := by
    have hslashes : (u ++ "//").toList = (u.toList ++ ['/']) ++ ['/'] := by simp
    rw [hslashes, dropOneLast_append_self]
  refine ⟨(u.toList.splitOn '/').tail.map fun p => String.ofList (percentDecode p), ?_⟩
  rw [pathSegments, trunk_eq_self hq' hh', hdrop, List.splitOn_append_cons_self, List.splitOn_nil,
    List.tail_append_of_ne_nil (List.splitOn_ne_nil _ _), List.map_append]
  simp

omit hq hh in
/-- No route has an empty segment. -/
lemma Route.exists_error_of_concat_empty (ss : List String) :
    ∃ e, Route.ofSegments (ss ++ [""]) = .error e := by
  cases h : Route.ofSegments (ss ++ [""]) with
  | error e => exact ⟨e, rfl⟩
  | ok r =>
    have hsegments := congrArg List.getLast? (Route.ofSegments_eq_ok_iff.mp h)
    rw [List.getLast?_concat] at hsegments
    cases r with
    | home => cases hsegments
    | chat => exact absurd hsegments (by decide)

/-- The second of two slashes stands behind an empty segment. -/
lemma Route.exists_error_of_slashes : ∃ e, Route.parse (u ++ "//") = .error e := by
  obtain ⟨ss, hss⟩ := pathSegments_append_slashes hq hh
  rw [Route.parse, hss]
  split_ifs
  · exact Route.exists_error_of_concat_empty ss
  · exact ⟨_, rfl⟩

end

/-! ### The end of a path is ignored -/

/-- Neither a query or a hash at the end of a path nor one slash in front of it is told apart from
the bare path, in what it leads to, in how it is reported, or in a comparison. Two slashes never
lead to a route. -/
theorem Route.ending_is_ignored {u t : String} (hq : '?' ∉ u.toList) (hh : '#' ∉ u.toList)
    (ht : IsTail t.toList) :
    Route.Alike (u ++ t) u ∧
    (u.toList.head? = some '/' → u.toList.getLast? ≠ some '/' →
      Route.Alike (u ++ "/" ++ t) u) ∧
    ∃ e, Route.parse (u ++ "//" ++ t) = .error e := by
  have hfree (slashes : String) (hslashes : ∀ c ∈ slashes.toList, c = '/') :
      Route.parse (u ++ slashes ++ t) = Route.parse (u ++ slashes) := by
    have hmem : ∀ c, c ≠ '/' → c ∉ u.toList → c ∉ (u ++ slashes).toList := by
      intro c hc hu
      rw [String.toList_append, List.mem_append, not_or]
      exact ⟨hu, fun h => hc (hslashes c h)⟩
    exact Route.parse_append_tail (hmem '?' (by decide) hq) (hmem '#' (by decide) hh) ht
  refine ⟨?_, ?_, ?_⟩
  · exact .of_parse_eq (Route.parse_append_tail hq hh ht)
  · intro habs hlast
    apply Route.Alike.of_parse_eq
    rw [hfree "/" (by simp)]
    exact Route.parse_append_slash hq hh habs hlast
  · rw [hfree "//" (by simp)]
    exact Route.exists_error_of_slashes hq hh

/-- A path below the chat page is reported alike with a slash, a hash and a query that itself holds
slashes behind it. -/
theorem Route.ending_is_ignored_of_report :
    '?' ∉ "/chat/a%2Fb".toList ∧ '#' ∉ "/chat/a%2Fb".toList ∧ IsTail "#?/c//".toList ∧
      Route.Alike ("/chat/a%2Fb" ++ "#?/c//") "/chat/a%2Fb" ∧
      Route.Alike ("/chat/a%2Fb" ++ "/" ++ "#?/c//") "/chat/a%2Fb" ∧
      ∃ e, Route.parse ("/chat/a%2Fb" ++ "//" ++ "#?/c//") = .error e := by
  have hq : '?' ∉ "/chat/a%2Fb".toList := by decide
  have hh : '#' ∉ "/chat/a%2Fb".toList := by decide
  have ht : IsTail "#?/c//".toList := by decide
  obtain ⟨htail, hslash, hslashes⟩ := Route.ending_is_ignored hq hh ht
  exact ⟨hq, hh, ht, htail, hslash (by decide) (by decide), hslashes⟩

end SiteNav
