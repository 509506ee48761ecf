/-!
# Cutting a text short

A text is cut before the first occurrence of a character, or loses a single character at its end.
-/

namespace SiteNav

/-! ### Before the first occurrence -/

/-- What stands before the first `stop`, or the whole text if there is none. -/
def before (stop : Char) (cs : List Char) : List Char :=
  cs.takeWhile (· != stop)

@[simp] theorem before_nil (stop : Char) : before stop [] = [] := rfl

@[simp] theorem before_cons_self (stop : Char) (cs : List Char) :
    before stop (stop :: cs) = [] := by simp [before]

theorem before_cons_of_ne {stop c : Char} (h : c ≠ stop) (cs : List Char) :
    before stop (c :: cs) = c :: before stop cs := by simp [before, h]

/-- A text without the character stays whole in front of any other text. -/
theorem before_append_of_notMem {stop : Char} {cs : List Char} (h : stop ∉ cs) (ds : List Char) :
    before stop (cs ++ ds) = cs ++ before stop ds := by
  induction cs with
  | nil => rfl
  | cons c cs ih =>
    simp only [List.mem_cons, not_or] at h
    rw [List.cons_append, before_cons_of_ne (Ne.symm h.1), ih h.2, List.cons_append]

/-- The character is not left in what stands before it. -/
theorem notMem_before (stop : Char) (cs : List Char) : stop ∉ before stop cs := by
  induction cs with
  | nil => simp
  | cons c cs ih =>
    by_cases h : c = stop
    · simp [h]
    · rw [before_cons_of_ne h]
      simp [ih, Ne.symm h]

/-! ### At the end -/

/-- Drops one `last` from the end of a text, if it ends in one. -/
def dropOneLast (last : Char) (cs : List Char) : List Char :=
  if cs.getLast? = some last then cs.dropLast else cs

@[simp] theorem dropOneLast_nil (last : Char) : dropOneLast last [] = [] := rfl

@[simp] theorem dropOneLast_append_self (last : Char) (cs : List Char) :
    dropOneLast last (cs ++ [last]) = cs := by simp [dropOneLast]

theorem dropOneLast_eq_self {last : Char} {cs : List Char} (h : cs.getLast? ≠ some last) :
    dropOneLast last cs = cs := by simp [dropOneLast, h]

end SiteNav
