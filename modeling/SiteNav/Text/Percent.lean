import SiteNav.Text.Bytes

/-!
# Percent escapes

A percent sign followed by two hexadecimal digits stands for the byte that the digits spell. The
scan runs over the bytes of a piece of a path and never looks at its own output again; a percent
sign that opens no escape stands for itself, and the byte that broke the escape is looked at afresh.
If the bytes that come out are no text, the piece is left as it was.
-/

namespace SiteNav

/-! ### Hexadecimal digits -/

def percentByte : UInt8 := 37

def hexValue? (b : UInt8) : Option UInt8 :=
  if 48 ≤ b ∧ b ≤ 57 then some (b - 48)
  else if 65 ≤ b ∧ b ≤ 70 then some (b - 55)
  else if 97 ≤ b ∧ b ≤ 102 then some (b - 87)
  else none

/-- The percent sign is no digit. -/
@[simp] theorem hexValue?_percentByte : hexValue? percentByte = none := by decide

/-! ### The scan -/

/-- Replaces every well-formed escape by the byte it stands for. -/
def unescape : List UInt8 → List UInt8
  | [] => []
  | [b] => [b]
  | [b, c] => [b, c]
  | b :: c :: d :: rest =>
    if b = percentByte then
      match hexValue? c with
      | none => b :: unescape (c :: d :: rest)
      | some high =>
        match hexValue? d with
        | none => b :: c :: unescape (d :: rest)
        | some low => (16 * high + low) :: unescape rest
    else b :: unescape (c :: d :: rest)

@[simp] theorem unescape_nil : unescape [] = [] := rfl

/-- A byte other than the percent sign is kept. -/
theorem unescape_cons_of_ne {b : UInt8} (hb : b ≠ percentByte) (bs : List UInt8) :
    unescape (b :: bs) = b :: unescape bs := by
  match bs with
  | [] => rfl
  | [_] => rfl
  | _ :: _ :: _ => simp [unescape, hb]

/-- An escape becomes one byte. -/
theorem unescape_escape {c d high low : UInt8} (hc : hexValue? c = some high)
    (hd : hexValue? d = some low) (rest : List UInt8) :
    unescape (percentByte :: c :: d :: rest) = (16 * high + low) :: unescape rest := by
  simp [unescape, hc, hd]

/-- A percent sign without a digit after it is kept. -/
theorem unescape_percent_of_none {c : UInt8} (hc : hexValue? c = none) (rest : List UInt8) :
    unescape (percentByte :: c :: rest) = percentByte :: unescape (c :: rest) := by
  cases rest with
  | nil => rfl
  | cons d rest => simp [unescape, hc]

/-- A percent sign with a single digit after it is kept, and so is the digit. -/
theorem unescape_percent_digit_of_none {c d high : UInt8} (hc : hexValue? c = some high)
    (hd : hexValue? d = none) (rest : List UInt8) :
    unescape (percentByte :: c :: d :: rest) = percentByte :: c :: unescape (d :: rest) := by
  simp [unescape, hc, hd]

/-- Bytes without a percent sign come through unchanged. -/
theorem unescape_eq_self {bs : List UInt8} (h : percentByte ∉ bs) : unescape bs = bs := by
  induction bs with
  | nil => rfl
  | cons b bs ih =>
    simp only [List.mem_cons, not_or] at h
    rw [unescape_cons_of_ne (Ne.symm h.1), ih h.2]

/-! ### Decoding -/

/-- The text that a piece of a path stands for. -/
def percentDecode (piece : List Char) : List Char :=
  (ofUtf8? (unescape (utf8 piece))).getD piece

@[simp] theorem percentDecode_nil : percentDecode [] = [] := by
  rw [percentDecode, utf8_nil, unescape_nil, ← utf8_nil, ofUtf8?_utf8]
  rfl

/-- A piece without a percent sign stands for itself. -/
theorem percentDecode_eq_self {piece : List Char} (h : percentByte ∉ utf8 piece) :
    percentDecode piece = piece := by
  simp [percentDecode, unescape_eq_self h]

end SiteNav
