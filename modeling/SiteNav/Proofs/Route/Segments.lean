import Mathlib.Data.List.Forall2
import SiteNav.Proofs.Text.Encoding
import SiteNav.Route.Parse

/-!
# The segments of a path

A path falls into a trunk, which has neither a query mark nor a hash in it, and a tail, which is
empty or starts with one of the two. Only the trunk tells the segments: what stands between its
slashes, whether or not a slash comes last.

Writing the encodings of any texts with a slash after each gives a path with exactly those texts as
its segments, so that reading a route inverts encoding, also where it fails and reports them.
-/

namespace SiteNav

/-! ### Trunk and tail -/

/-- What a path may end in without any effect on its segments. -/
def IsTail (t : List Char) : Prop := ∀ c ∈ t.head?, c = '?' ∨ c = '#'

instance (t : List Char) : Decidable (IsTail t) :=
  Option.decidableForallMem t.head?

/-- A text is what stands before a character, and then nothing or that character first. -/
lemma exists_eq_before_append (stop : Char) (cs : List Char) :
    ∃ r, cs = before stop cs ++ r ∧ ∀ c ∈ r.head?, c = stop := by
  refine ⟨cs.dropWhile (· != stop), List.takeWhile_append_dropWhile.symm, fun c hc => ?_⟩
  have := List.head?_dropWhile_not (· != stop) cs
  rw [Option.mem_def.mp hc] at this
  simpa using this

lemma trunk_of_isTail {t : List Char} (ht : IsTail t) : trunk t = [] := by
  cases t with
  | nil => rfl
  | cons c t =>
    rcases ht c rfl with rfl | rfl
    · rw [trunk, before_cons_of_ne (by decide), before_cons_self]
    · rw [trunk, before_cons_self, before_nil]

/-- A tail is cut off, and nothing of what stands before it. -/
lemma trunk_append {u t : List Char} (hq : '?' ∉ u) (hh : '#' ∉ u) (ht : IsTail t) :
    trunk (u ++ t) = u := by
  have hnil := trunk_of_isTail ht
  rw [trunk] at hnil ⊢
  rw [before_append_of_notMem hh, before_append_of_notMem hq, hnil, List.append_nil]

/-- The trunk is what stands before the tail, and holds no sign that begins one. -/
lemma trunk_eq_iff {path u : List Char} :
    trunk path = u ↔ '?' ∉ u ∧ '#' ∉ u ∧ ∃ t, IsTail t ∧ path = u ++ t := by
  constructor
  · rintro rfl
    obtain ⟨r, hr, hrh⟩ := exists_eq_before_append '#' path
    obtain ⟨q, hq, hqh⟩ := exists_eq_before_append '?' (before '#' path)
    refine ⟨notMem_before _ _, fun hmem => ?_, q ++ r, ?_, ?_⟩
    · refine notMem_before '#' path ?_
      rw [hq]
      exact List.mem_append_left _ hmem
    · intro c hc
      cases q with
      | nil => exact .inr (hrh c hc)
      | cons d q => exact .inl (hqh c hc)
    · rw [trunk, ← List.append_assoc, ← hq, ← hr]
  · rintro ⟨hq, hh, t, ht, rfl⟩
    exact trunk_append hq hh ht

lemma trunk_cons {c : Char} (hq : c ≠ '?') (hh : c ≠ '#') (path : List Char) :
    trunk (c :: path) = c :: trunk path := by
  rw [trunk, before_cons_of_ne hh, before_cons_of_ne hq, trunk]

/-! ### Splitting -/

lemma dropOneLast_cons {last c : Char} {cs : List Char} (h : cs ≠ []) :
    dropOneLast last (c :: cs) = c :: dropOneLast last cs := by
  obtain ⟨d, ds, rfl⟩ := List.exists_cons_of_ne_nil h
  simp only [dropOneLast, List.getLast?_cons_cons, List.dropLast_cons_cons]
  split <;> rfl

/-- Without a separator at its own end, a text has lost one separator or none. -/
lemma dropOneLast_eq_iff {last : Char} {cs ds : List Char} (hd : last ∉ ds) :
    dropOneLast last cs = ds ↔ cs = ds ∨ cs = ds ++ [last] := by
  constructor
  · intro h
    by_cases hl : cs.getLast? = some last
    · obtain ⟨es, rfl⟩ := List.getLast?_eq_some_iff.mp hl
      rw [dropOneLast_append_self] at h
      exact .inr (by rw [h])
    · rw [dropOneLast_eq_self hl] at h
      exact .inl h
  · rintro (rfl | rfl)
    · exact dropOneLast_eq_self fun h => hd (List.mem_of_getLast? h)
    · exact dropOneLast_append_self last ds

/-- The segments behind the leading slash: none if the trunk ends there, else what its slashes
separate. -/
lemma pathSegments_cons (path : List Char) :
    pathSegments ('/' :: path) =
      if trunk path = [] then []
      else ((dropOneLast '/' (trunk path)).splitOn '/').map
        fun p => String.ofList (percentDecode p) := by
  rw [pathSegments, trunk_cons (by decide) (by decide)]
  split_ifs with h
  · rw [h]
    rfl
  · rw [dropOneLast_cons h, List.splitOn_cons_eq_if_modifyHead, if_pos (by decide), List.tail_cons]

/-! ### Paths made of encodings -/

/-- A slash, then pieces with a slash after each, then a tail. -/
def pathOf (pieces : List String) (tail : String) : String :=
  "/" ++ String.join (pieces.map (· ++ "/")) ++ tail

/-- A path has a slash in front and one behind each piece. -/
lemma toList_pathOf (pieces : List String) (tail : String) :
    (pathOf pieces tail).toList =
      '/' :: (pieces.map String.toList).flatMap (· ++ ['/']) ++ tail.toList := by
  simp [pathOf, List.flatMap_map]

/-- Slashes after the pieces are slashes between them, and one more that comes last. -/
lemma append_flatMap_slash (l : List Char) (ls : List (List Char)) :
    l ++ '/' :: ls.flatMap (· ++ ['/']) = ['/'].intercalate (l :: ls) ++ ['/'] := by
  induction ls generalizing l with
  | nil => simp
  | cons m ls ih =>
    rw [List.intercalate_cons_cons, List.append_assoc, ← ih m]
    simp

/-- One piece for each text, which encodes it. -/
def EncodesEach (ps es : List String) : Prop :=
  List.Forall₂ (fun p e => Encodes p.toList e.toList) ps es

/-- No encoding of a text holds a character at which a path is cut. -/
lemma EncodesEach.notMem {ps es : List String} (h : EncodesEach ps es) {x : Char}
    (hx : x ∈ ['/', '?', '#']) : ∀ e ∈ es.map String.toList, x ∉ e := by
  induction h with
  | nil => simp
  | cons hpe _ ih =>
    rw [List.map_cons, List.forall_mem_cons]
    exact ⟨hpe.notMem hx, ih⟩

/-- Pieces are decoded to the texts that they encode. -/
lemma EncodesEach.map_percentDecode {ps es : List String} (h : EncodesEach ps es) :
    (es.map String.toList).map (fun e => String.ofList (percentDecode e)) = ps := by
  induction h with
  | nil => rfl
  | cons hpe _ ih => rw [List.map_cons, List.map_cons, ih, hpe.percentDecode, String.ofList_toList]

/-- A path made of the encodings of some texts has those texts as its segments. -/
lemma pathSegments_pathOf {ps es : List String} {tail : String} (henc : EncodesEach ps es)
    (ht : IsTail tail.toList) : pathSegments (pathOf es tail).toList = ps := by
  have hfree : ∀ x ∈ ['?', '#'], x ∉ '/' :: (es.map String.toList).flatMap (· ++ ['/']) := by
    intro x hx
    have hslash : x ≠ '/' := by
      rintro rfl
      revert hx
      decide
    simp only [List.mem_cons, List.mem_flatMap, List.mem_append, List.not_mem_nil, or_false,
      hslash, false_or, not_exists, not_and]
    exact henc.notMem (List.mem_cons_of_mem _ hx)
  have htrunk : trunk (pathOf es tail).toList =
      ['/'].intercalate ([] :: es.map String.toList) ++ ['/'] := by
    rw [toList_pathOf, trunk_append (hfree _ (by decide)) (hfree _ (by decide)) ht,
      ← append_flatMap_slash, List.nil_append]
  have hpieces : ∀ l ∈ [] :: es.map String.toList, '/' ∉ l := by
    rw [List.forall_mem_cons]
    exact ⟨List.not_mem_nil, henc.notMem (by decide)⟩
  rw [pathSegments, htrunk, dropOneLast_append_self,
    List.splitOn_intercalate '/' hpieces (List.cons_ne_nil _ _), List.tail_cons,
    henc.map_percentDecode]

/-! ### Reading inverts encoding -/

/-- The texts of the two attempts on segments that are no route's, the home page's first. -/
def attemptTexts (first : String) (rest : List String) : List String :=
  ["Route 'Home' ('/') did not match:\nFound additional trailing segments: " ++
      "/".intercalate (first :: rest),
    "Route 'Chat' ('/chat') did not match:\n" ++
      if first = "chat" then "Found additional trailing segments: " ++ "/".intercalate rest
      else "Static segment 'chat' did not match instead found '" ++ first ++ "'"]

lemma Attempt.message_home_trailing (rest : List String) :
    (⟨.home, .trailing rest⟩ : Attempt).message =
      "Route 'Home' ('/') did not match:\nFound additional trailing segments: " ++
        "/".intercalate rest := by
  simp only [Attempt.message, Mismatch.message_trailing, Route.name, Route.path_home,
    ← String.append_assoc, String.reduceAppend]

lemma Attempt.message_chat (reason : Mismatch) :
    (⟨.chat, reason⟩ : Attempt).message =
      "Route 'Chat' ('/chat') did not match:\n" ++ reason.message := by
  simp only [Attempt.message, Route.name, Route.path_chat, String.reduceAppend]

lemma Mismatch.message_chatSegment (found : String) :
    (Mismatch.segment chatSegment found).message =
      "Static segment 'chat' did not match instead found '" ++ found ++ "'" := by
  simp only [Mismatch.message_segment, chatSegment, String.reduceAppend]

/-- Segments that are no route's are reported in two attempts. -/
lemma Route.ofSegments_cons {first : String} {rest : List String}
    (h : first :: rest ≠ [chatSegment]) :
    ∃ e, Route.ofSegments (first :: rest) = .error e ∧
      e.attempts.map Attempt.route = [.home, .chat] ∧
      e.attempts.map Attempt.message = attemptTexts first rest := by
  by_cases hf : first = chatSegment
  · have hr : rest ≠ [] := fun hr => h (by rw [hf, hr])
    refine ⟨⟨[⟨.home, .trailing (first :: rest)⟩, ⟨.chat, .trailing rest⟩]⟩, ?_, rfl, ?_⟩
    · rw [Route.ofSegments, if_pos hf, if_neg hr]
    · have hc : first = "chat" := hf
      rw [List.map_cons, List.map_cons, List.map_nil, Attempt.message_home_trailing,
        Attempt.message_chat, Mismatch.message_trailing, attemptTexts, if_pos hc]
  · refine ⟨⟨[⟨.home, .trailing (first :: rest)⟩, ⟨.chat, .segment chatSegment first⟩]⟩,
      ?_, rfl, ?_⟩
    · rw [Route.ofSegments, if_neg hf]
    · have hc : first ≠ "chat" := hf
      rw [List.map_cons, List.map_cons, List.map_nil, Attempt.message_home_trailing,
        Attempt.message_chat, Mismatch.message_chatSegment, attemptTexts, if_neg hc]

/-- The route of a path that is made of the encodings of any texts: the home page for no text, the
chat page for its one segment, and otherwise a report of those very texts. -/
theorem Route.parse_pathOf {ps es : List String} {tail : String} (henc : EncodesEach ps es)
    (ht : IsTail tail.toList) :
    (Route.parse (pathOf es tail) = .ok .home ↔ ps = []) ∧
      (Route.parse (pathOf es tail) = .ok .chat ↔ ps = ["chat"]) ∧
      ∀ first rest, ps = first :: rest → ps ≠ ["chat"] →
        ∃ e, Route.parse (pathOf es tail) = .error e ∧
          e.attempts.map Attempt.route = [.home, .chat] ∧
          e.attempts.map Attempt.message = attemptTexts first rest := by
  have habs : isAbsolute (pathOf es tail).toList = true := by
    rw [toList_pathOf]
    rfl
  have hparse : Route.parse (pathOf es tail) = Route.ofSegments ps := by
    rw [Route.parse_of_isAbsolute habs, pathSegments_pathOf henc ht]
  rw [hparse]
  refine ⟨Route.ofSegments_eq_ok_iff, Route.ofSegments_eq_ok_iff, ?_⟩
  rintro first rest rfl hne
  exact Route.ofSegments_cons hne

/-- A slash inside a segment, an empty segment, and a character of two bytes with digits in both
cases. -/
theorem Route.parse_pathOf_escaped :
    EncodesEach ["a/b", "", "é"] ["a%2Fb", "", "%c3%A9"] ∧ IsTail "#?".toList ∧
      ∃ e, Route.parse (pathOf ["a%2Fb", "", "%c3%A9"] "#?") = .error e ∧
        e.attempts.map Attempt.route = [.home, .chat] ∧
        e.attempts.map Attempt.message = attemptTexts "a/b" ["", "é"] := by
  have hslash : Encodes ['a', '/', 'b'] (['a'] ++ (['%', '2', 'F'] ++ (['b'] ++ []))) :=
    .cons (.literal (by decide)) <| .cons (.escaped (.cons (by decide) (by decide) .nil)) <|
      .cons (.literal (by decide)) .nil
  have haccent : Encodes ['é'] (['%', 'c', '3', '%', 'A', '9'] ++ []) :=
    .cons (.escaped (.cons (by decide) (by decide) (.cons (by decide) (by decide) .nil))) .nil
  have henc : EncodesEach ["a/b", "", "é"] ["a%2Fb", "", "%c3%A9"] :=
    .cons (by simpa using hslash) <| .cons (by simpa using Encodes.nil) <|
      .cons (by simpa using haccent) .nil
  have ht : IsTail "#?".toList := by decide
  exact ⟨henc, ht, (Route.parse_pathOf henc ht).2.2 _ _ rfl (by decide)⟩

end SiteNav
