import Mathlib.Tactic.Lemma
import Mathlib.Tactic.SplitIfs
import SiteNav.Text.Quoted

/-!
# Reading quoted text back

A quoted text ends at the first quote that has no backslash before it, and every escape in it stands
for one character, so that the text can be read back from what it is written as, together with what
follows it. Quotes and backslashes of the text itself, and texts that look like escapes, are told
from those of the writing.
-/

namespace SiteNav

/-! ### Reading -/

/-- The value of a lower-case hexadecimal digit. -/
def digitValue? (d : Char) : Option Nat :=
  (List.range 16).find? (·.digitChar = d)

/-- Puts a character in front of what has been read, if anything has. -/
def readThen (c : Char) : Option (List Char × List Char) → Option (List Char × List Char) :=
  Option.map fun read => (c :: read.1, read.2)

mutual

/-- Reads a text up to the quote that closes it, and leaves what follows. -/
def readQuoted : List Char → Option (List Char × List Char)
  | [] => none
  | '"' :: rest => some ([], rest)
  | '\\' :: '0' :: rest => readThen '\x00' (readQuoted rest)
  | '\\' :: 't' :: rest => readThen '\t' (readQuoted rest)
  | '\\' :: 'r' :: rest => readThen '\r' (readQuoted rest)
  | '\\' :: 'n' :: rest => readThen '\n' (readQuoted rest)
  | '\\' :: '"' :: rest => readThen '"' (readQuoted rest)
  | '\\' :: '\\' :: rest => readThen '\\' (readQuoted rest)
  | '\\' :: 'u' :: '\x7b' :: rest => readNumber 0 rest
  | '\\' :: _ => none
  | c :: rest => readThen c (readQuoted rest)

/-- Reads on in the middle of a number between braces, which names a character. -/
def readNumber : Nat → List Char → Option (List Char × List Char)
  | _, [] => none
  | n, d :: rest =>
    if d = '\x7d' then readThen (Char.ofNat n) (readQuoted rest)
    else (digitValue? d).bind fun v => readNumber (16 * n + v) rest

end

/-! ### What is written is read back -/

lemma digitValue?_digitChar :
    ∀ v < 16, v.digitChar ≠ '\x7d' ∧ digitValue? v.digitChar = some v := by decide

/-- A digit is read as the last one of the number so far. -/
lemma readNumber_digitChar {v : Nat} (hv : v < 16) (n : Nat) (rest : List Char) :
    readNumber n (v.digitChar :: rest) = readNumber (16 * n + v) rest := by
  obtain ⟨hne, hvalue⟩ := digitValue?_digitChar v hv
  rw [readNumber, if_neg hne, hvalue, Option.bind_some]

/-- The digits of a number are read as that number. -/
lemma readNumber_hexDigits (n : Nat) (rest : List Char) :
    readNumber 0 (hexDigits n ++ rest) = readNumber n rest := by
  induction n using Nat.strongRecOn generalizing rest with
  | ind n ih =>
    rcases Nat.lt_or_ge n 16 with hlt | hge
    · rw [hexDigits, Nat.toDigits_of_lt_base hlt, List.singleton_append,
        readNumber_digitChar hlt, Nat.mul_zero, Nat.zero_add]
    · -- all digits but the last are those of the quotient
      have hdigits : hexDigits n = hexDigits (n / 16) ++ [(n % 16).digitChar] :=
        Nat.toDigits_of_base_le (by decide) hge
      rw [hdigits, List.append_assoc, ih (n / 16) (by omega), List.singleton_append,
        readNumber_digitChar (by omega), Nat.div_add_mod]

lemma readQuoted_cons {c : Char} (hquote : c ≠ '"') (hbackslash : c ≠ '\\') (rest : List Char) :
    readQuoted (c :: rest) = readThen c (readQuoted rest) := by
  simp [readQuoted, hbackslash]

/-- However a character is written, that character is read. -/
lemma readQuoted_quoteChar_append (c : Char) (rest : List Char) :
    readQuoted (quoteChar c ++ rest) = readThen c (readQuoted rest) := by
  rw [quoteChar]
  split_ifs with hnul htab hreturn hnewline hquote hbackslash hunprintable
  · rw [hnul]
    rfl
  · rw [htab]
    rfl
  · rw [hreturn]
    rfl
  · rw [hnewline]
    rfl
  · rw [hquote]
    rfl
  · rw [hbackslash]
    rfl
  · calc
      readQuoted (['\\', 'u', '\x7b'] ++ hexDigits c.toNat ++ ['\x7d'] ++ rest)
          = readNumber 0 (hexDigits c.toNat ++ '\x7d' :: rest) := by
            simp only [List.append_assoc, List.cons_append, List.nil_append, readQuoted]
      _ = readThen (Char.ofNat c.toNat) (readQuoted rest) := by
            rw [readNumber_hexDigits, readNumber, if_pos rfl]
      _ = readThen c (readQuoted rest) := by rw [Char.ofNat_toNat]
  · exact readQuoted_cons hquote hbackslash rest

/-- Behind the opening quote, a quoted text is read up to its end. -/
lemma readQuoted_quoteBody_append (cs rest : List Char) :
    readQuoted (quoteBody cs ++ '"' :: rest) = some (cs, rest) := by
  induction cs with
  | nil => rfl
  | cons c cs ih =>
    rw [quoteBody_cons, List.append_assoc, readQuoted_quoteChar_append, ih]
    rfl

end SiteNav
