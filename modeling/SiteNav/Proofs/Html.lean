import Mathlib.Tactic.Lemma
import Mathlib.Tactic.SplitIfs
import SiteNav.Html
import SiteNav.Text.Cut

/-!
# Reading markup back

What stands before the first delimiter of a text can be told from what stands behind it. An escaped
text can be read back from the markup that it stands in: no character of it opens a tag, so that it
ends where the next tag begins, and every escape stands for one character.
-/

namespace SiteNav

/-- A text without the delimiter ends where the first delimiter stands. -/
lemma append_cons_inj_of_notMem {stop : Char} {as bs rest rest' : List Char} (ha : stop ∉ as)
    (hb : stop ∉ bs) (h : as ++ stop :: rest = bs ++ stop :: rest') : as = bs ∧ rest = rest' := by
  have hbefore : as = bs := by
    calc as
        = before stop (as ++ stop :: rest) := by
          rw [before_append_of_notMem ha, before_cons_self, List.append_nil]
      _ = before stop (bs ++ stop :: rest') := by rw [h]
      _ = bs := by rw [before_append_of_notMem hb, before_cons_self, List.append_nil]
  subst hbefore
  exact ⟨rfl, (List.cons.inj (List.append_cancel_left h)).2⟩

/-! ### Escaped texts -/

/-- Reads an escaped text up to the next tag, and leaves what follows. -/
def readText : List Char → List Char × List Char
  | [] => ([], [])
  | '<' :: rest => ([], '<' :: rest)
  | '&' :: 'a' :: 'm' :: 'p' :: ';' :: rest => ('&' :: (readText rest).1, (readText rest).2)
  | '&' :: 'l' :: 't' :: ';' :: rest => ('<' :: (readText rest).1, (readText rest).2)
  | '&' :: 'g' :: 't' :: ';' :: rest => ('>' :: (readText rest).1, (readText rest).2)
  | '&' :: 'q' :: 'u' :: 'o' :: 't' :: ';' :: rest => ('"' :: (readText rest).1, (readText rest).2)
  | '&' :: '#' :: 'x' :: '2' :: '7' :: ';' :: rest =>
    ('\x27' :: (readText rest).1, (readText rest).2)
  | c :: rest => (c :: (readText rest).1, (readText rest).2)

lemma readText_cons {c : Char} (hamp : c ≠ '&') (hlt : c ≠ '<') (rest : List Char) :
    readText (c :: rest) = (c :: (readText rest).1, (readText rest).2) := by
  simp [readText, hamp]

/-- However a character is escaped, that character is read. -/
lemma readText_escapeChar_append (c : Char) (rest : List Char) :
    readText (escapeChar c ++ rest) = (c :: (readText rest).1, (readText rest).2) := by
  rw [escapeChar]
  split_ifs with hamp hlt hgt hquot hapos
  · rw [hamp]
    rfl
  · rw [hlt]
    rfl
  · rw [hgt]
    rfl
  · rw [hquot]
    rfl
  · rw [hapos]
    rfl
  · exact readText_cons hamp hlt rest

/-- An escaped text is read up to the tag that follows it. -/
lemma readText_escape_append (s : String) (rest : List Char) :
    readText ((escape s).toList ++ '<' :: rest) = (s.toList, '<' :: rest) := by
  rw [escape, String.toList_ofList]
  induction s.toList with
  | nil => rfl
  | cons c cs ih =>
    rw [List.flatMap_cons, List.append_assoc, readText_escapeChar_append, ih]

/-- Different texts are escaped differently, and the tag behind a text is not taken for a part of
it, whatever the text holds. -/
lemma escape_append_inj {s t : String} {rest rest' : List Char}
    (h : (escape s).toList ++ '<' :: rest = (escape t).toList ++ '<' :: rest') :
    s = t ∧ rest = rest' := by
  have hread := congrArg readText h
  rw [readText_escape_append, readText_escape_append] at hread
  obtain ⟨htext, hrest⟩ := Prod.mk.inj hread
  exact ⟨String.toList_inj.mp htext, (List.cons.inj hrest).2⟩

end SiteNav
