import Mathlib.Tactic.Lemma
import SiteNav.Route.Print

/-!
# Printing cuts a text short

A text is printed in pieces, and the sink can fail in the middle of any of them. What is written is
the longest beginning of the whole text, in whole characters, that the room is enough for. So where
one piece ends and the next begins never shows, and nothing follows the character that did not fit.
-/

namespace SiteNav

/-! ### One piece -/

lemma length_utf8_cons (c : Char) (cs : List Char) :
    (utf8 (c :: cs)).length = c.utf8Size + (utf8 cs).length := by
  rw [utf8_cons, List.length_append, String.length_utf8EncodeChar]

/-- A piece that fits is written as a whole. -/
lemma writePiece_of_length_le {room : Nat} {cs : List Char} (h : (utf8 cs).length ≤ room) :
    writePiece room cs = (cs, some (room - (utf8 cs).length)) := by
  induction cs generalizing room with
  | nil => rfl
  | cons c cs ih =>
    rw [length_utf8_cons] at h ⊢
    rw [writePiece, if_pos (by omega), ih (by omega), Nat.sub_sub]

/-- A piece that does not fit is cut in front of the first character that does not. -/
lemma writePiece_of_lt_length {room : Nat} {cs : List Char} (h : room < (utf8 cs).length) :
    ∃ written c rest, cs = written ++ c :: rest ∧ writePiece room cs = (written, none) ∧
      (utf8 written).length ≤ room ∧ room < (utf8 written).length + c.utf8Size := by
  induction cs generalizing room with
  | nil => simp at h
  | cons d cs ih =>
    rw [length_utf8_cons] at h
    by_cases hd : d.utf8Size ≤ room
    · have hrest : room - d.utf8Size < (utf8 cs).length := by omega
      obtain ⟨written, c, rest, rfl, hpiece, hle, hlt⟩ := ih hrest
      refine ⟨d :: written, c, rest, rfl, ?_, ?_, ?_⟩
      · rw [writePiece, if_pos hd, hpiece]
      · rw [length_utf8_cons]
        omega
      · rw [length_utf8_cons]
        omega
    · refine ⟨[], d, cs, rfl, ?_, Nat.zero_le room, ?_⟩
      · rw [writePiece, if_neg hd]
      · rw [utf8_nil, List.length_nil]
        omega

/-- With more room, nothing is written that goes another way. -/
lemma fst_writePiece_mono {room more : Nat} (h : room ≤ more) (cs : List Char) :
    (writePiece room cs).1 <+: (writePiece more cs).1 := by
  induction cs generalizing room more with
  | nil => exact List.nil_prefix
  | cons c cs ih =>
    by_cases hc : c.utf8Size ≤ room
    · rw [writePiece, writePiece, if_pos hc, if_pos (by omega)]
      exact List.cons_prefix_cons.mpr ⟨rfl, ih (by omega)⟩
    · rw [writePiece, if_neg hc]
      exact List.nil_prefix

/-! ### Several pieces -/

lemma writePieces_singleton (room : Nat) (cs : List Char) :
    writePieces room [cs] = ((writePiece room cs).1, (writePiece room cs).2.isSome) := by
  rw [writePieces]
  obtain ⟨written, left⟩ := writePiece room cs
  cases left with
  | none => rfl
  | some left => simp

/-- Pieces are written like the text that they make together. -/
lemma writePieces_eq_flatten (room : Nat) (ps : List (List Char)) :
    writePieces room ps = writePieces room [ps.flatten] := by
  cases ps with
  | nil => rfl
  | cons p ps =>
    rw [List.flatten_cons]
    induction ps generalizing p with
    | nil => rw [List.flatten_nil, List.append_nil]
    | cons q ps ih => rw [writePieces_cons_cons, ih, List.flatten_cons, List.append_assoc]

lemma printInto_eq (room : Nat) (ps : List String) :
    printInto room ps = ⟨String.ofList (writePiece room (String.join ps).toList).1,
      (writePiece room (String.join ps).toList).2.isSome⟩ := by
  rw [printInto, writePieces_eq_flatten, ← List.flatMap_def, ← String.toList_join,
    writePieces_singleton]

/-! ### Truncation -/

/-- What is left of a text in a sink with some room: as many whole characters from the start as fit,
and whether that is all of them. -/
structure Printed.Truncates (p : Printed) (text : String) (room : Nat) : Prop where
  isPrefix : p.written.toList <+: text.toList
  size_le : p.written.utf8ByteSize ≤ room
  complete_iff : p.complete = true ↔ p.written = text
  eq_iff_size_le : p.written = text ↔ text.utf8ByteSize ≤ room
  exists_next : p.complete = false → ∃ c rest, text.toList = p.written.toList ++ c :: rest ∧
    room < p.written.utf8ByteSize + c.utf8Size

/-- The size of a text is the number of its bytes. -/
lemma utf8ByteSize_eq_length (s : String) : s.utf8ByteSize = (utf8 s.toList).length := by
  have h : (utf8 s.toList).toByteArray = s.toByteArray := by
    have hs : (String.ofList s.toList).toByteArray = s.toByteArray := by rw [String.ofList_toList]
    exact hs
  rw [← List.size_toByteArray, h, String.size_toByteArray]

/-- Whatever the pieces are, the text that they make together is truncated. -/
lemma printInto_truncates (room : Nat) (ps : List String) :
    (printInto room ps).Truncates (String.join ps) room := by
  rw [printInto_eq]
  generalize String.join ps = text
  have hsize := utf8ByteSize_eq_length text
  rcases Nat.lt_or_ge room (utf8 text.toList).length with hlt | hle
  · obtain ⟨written, c, rest, htext, hpiece, hfits, hnext⟩ := writePiece_of_lt_length hlt
    have hwritten : (String.ofList written).utf8ByteSize = (utf8 written).length := by
      rw [utf8ByteSize_eq_length, String.toList_ofList]
    have hne : String.ofList written ≠ text := by
      intro h
      rw [h] at hwritten
      omega
    rw [hpiece]
    refine ⟨?_, ?_, ?_, ?_, fun _ => ⟨c, rest, ?_, ?_⟩⟩
    · rw [String.toList_ofList, htext]
      exact List.prefix_append written (c :: rest)
    · rwa [hwritten]
    · exact iff_of_false Bool.false_ne_true hne
    · exact iff_of_false hne (by omega)
    · rw [String.toList_ofList, htext]
    · rwa [hwritten]
  · rw [writePiece_of_length_le hle, String.ofList_toList]
    have hfits : text.utf8ByteSize ≤ room := by omega
    refine ⟨List.prefix_rfl, hfits, iff_of_true rfl rfl, iff_of_true rfl hfits, ?_⟩
    rintro ⟨⟩

/-- How a text is cut into pieces does not show. -/
lemma printInto_congr {ps qs : List String} (h : String.join ps = String.join qs) (room : Nat) :
    printInto room ps = printInto room qs := by
  rw [printInto_eq, printInto_eq, h]

/-! ### What a path leads to -/

/-- Printing what a path leads to, the path of its route or else the report, gives as much of that
text as there is room for, however the text is cut into pieces. With more room, it goes on where it
stopped. -/
theorem printParsed_truncates (path : String) {room more : Nat} (h : room ≤ more) :
    (parsedText path = match Route.parse path with
      | .ok r => r.path
      | .error e => e.message) ∧
    (printParsed path room).Truncates (parsedText path) room ∧
    (∀ pieces, String.join pieces = parsedText path →
      printInto room pieces = printParsed path room) ∧
    (printParsed path room).written.toList <+: (printParsed path more).written.toList := by
  refine ⟨?_, printInto_truncates room _, fun pieces hpieces => printInto_congr hpieces room, ?_⟩
  · cases hparse : Route.parse path with
    | ok r => exact parsedText_of_ok hparse
    | error e => exact parsedText_of_error hparse
  · rw [printParsed, printParsed, printInto_eq, printInto_eq, String.toList_ofList,
      String.toList_ofList]
    exact fst_writePiece_mono h _

/-- With room for two bytes of the three that the next character has, a report stops in front of it,
although the newline behind would fit. With three bytes more it stops in front of the next one. -/
theorem printParsed_truncates_of_euros :
    114 ≤ 117 ∧ (printParsed "/€€" 114).Truncates (parsedText "/€€") 114 ∧
      (printParsed "/€€" 114).written = "Route did not match:\nAttempted Matches:\n" ++
        "1) Route 'Home' ('/') did not match:\nFound additional trailing segments: " ∧
      (printParsed "/€€" 117).written = (printParsed "/€€" 114).written ++ "€" ∧
      (printParsed "/€€" 114).written.toList <+: (printParsed "/€€" 117).written.toList := by
  obtain ⟨-, htruncates, -, hprefix⟩ :=
    printParsed_truncates "/€€" (show 114 ≤ 117 by decide)
  exact ⟨by decide, htruncates, by decide +kernel, by decide +kernel, hprefix⟩

end SiteNav
