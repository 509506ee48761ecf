import SiteNav.Text.Unprintable

/-!
# Quoted text

A quoted text stands between double quotes. The quote and the backslash have a backslash put before
them, the common controls have short escapes, and any other character without a printed form is
written by its number in hexadecimal between braces, so that nothing invisible is left.
-/

namespace SiteNav

/-- The lower-case hexadecimal digits of a number, without zeros in front. -/
def hexDigits (n : Nat) : List Char :=
  Nat.toDigits 16 n

/-- How a character is written inside quotes. -/
def quoteChar (c : Char) : List Char :=
  if c = '\x00' then ['\\', '0']
  else if c = '\t' then ['\\', 't']
  else if c = '\r' then ['\\', 'r']
  else if c = '\n' then ['\\', 'n']
  else if c = '"' then ['\\', '"']
  else if c = '\\' then ['\\', '\\']
  else if isUnprintable c then ['\\', 'u', '\x7b'] ++ hexDigits c.toNat ++ ['\x7d']
  else [c]

def quoteBody (cs : List Char) : List Char :=
  cs.flatMap quoteChar

def quote (cs : List Char) : List Char :=
  '"' :: quoteBody cs ++ ['"']

@[simp] theorem quoteBody_cons (c : Char) (cs : List Char) :
    quoteBody (c :: cs) = quoteChar c ++ quoteBody cs := by simp [quoteBody]

end SiteNav
