import SiteNav.Text.Bytes

/-!
# Searching for a token

A token is looked for in the bytes of a text. Its first occurrence is given by the byte offset, and
occurrences are counted from the left, each one found behind the end of the one before. The empty
token occurs at the start, and is counted before every character and at the end.
-/

namespace SiteNav

def firstAt? (token : List UInt8) : List UInt8 → Option Nat
  | [] => if token = [] then some 0 else none
  | b :: bs => if token.isPrefixOf (b :: bs) then some 0 else (firstAt? token bs).map (· + 1)

/-- The number of occurrences of `token` found from the left once `skip` bytes have been passed. -/
def countFrom (token : List UInt8) : Nat → List UInt8 → Nat
  | _, [] => 0
  | skip + 1, _ :: bs => countFrom token skip bs
  | 0, b :: bs =>
    if token.isPrefixOf (b :: bs) then countFrom token (token.length - 1) bs + 1
    else countFrom token 0 bs

def findToken? (text token : List Char) : Option Nat :=
  firstAt? (utf8 token) (utf8 text)

/-- The number of occurrences of a token in a text that do not overlap. -/
def countToken (text token : List Char) : Nat :=
  if token = [] then text.length + 1 else countFrom (utf8 token) 0 (utf8 text)

@[simp] theorem firstAt?_nil_left (bs : List UInt8) : firstAt? [] bs = some 0 := by
  cases bs <;> simp [firstAt?]

@[simp] theorem findToken?_nil (text : List Char) : findToken? text [] = some 0 := by
  simp [findToken?]

@[simp] theorem countToken_nil (text : List Char) : countToken text [] = text.length + 1 := rfl

/-- Passing bytes over is dropping them. -/
theorem countFrom_eq_drop (token : List UInt8) (skip : Nat) (bs : List UInt8) :
    countFrom token skip bs = countFrom token 0 (bs.drop skip) := by
  induction skip generalizing bs with
  | zero => rfl
  | succ skip ih =>
    cases bs with
    | nil => simp [countFrom]
    | cons b bs => simpa [countFrom] using ih bs

end SiteNav
