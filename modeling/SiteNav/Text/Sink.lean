import SiteNav.Text.Bytes

/-!
# Printing into a bounded sink

A sink has room for a number of bytes. A piece is written character by character until one does not
fit any more; that character fails the whole print, and neither the rest of its piece nor a later
piece is written.
-/

namespace SiteNav

/-- The characters of a piece that fit, and the room they leave if all of them do. -/
def writePiece : Nat → List Char → List Char × Option Nat
  | room, [] => ([], some room)
  | room, c :: cs =>
    if c.utf8Size ≤ room then
      let rest := writePiece (room - c.utf8Size) cs
      (c :: rest.1, rest.2)
    else ([], none)

/-- What is written of the pieces, and whether it is all of them. -/
def writePieces : Nat → List (List Char) → List Char × Bool
  | _, [] => ([], true)
  | room, p :: ps =>
    match writePiece room p with
    | (written, none) => (written, false)
    | (written, some left) =>
      let rest := writePieces left ps
      (written ++ rest.1, rest.2)

@[simp] theorem writePiece_nil (room : Nat) : writePiece room [] = ([], some room) := rfl

@[simp] theorem writePieces_nil (room : Nat) : writePieces room [] = ([], true) := rfl

/-- Where a piece ends and the next one begins does not matter. -/
theorem writePieces_cons_cons (room : Nat) (p q : List Char) (ps : List (List Char)) :
    writePieces room (p :: q :: ps) = writePieces room ((p ++ q) :: ps) := by
  induction p generalizing room with
  | nil => cases h : writePiece room q with | mk w l => cases l <;> simp [writePieces, h]
  | cons c p ih =>
    by_cases hc : c.utf8Size ≤ room
    · have := ih (room - c.utf8Size)
      simp only [writePieces, writePiece, List.cons_append, if_pos hc] at this ⊢
      generalize writePiece (room - c.utf8Size) p = x at this ⊢
      generalize writePiece (room - c.utf8Size) (p ++ q) = y at this ⊢
      obtain ⟨w, l⟩ := x
      obtain ⟨w', l'⟩ := y
      cases l <;> cases l' <;> simp_all
    · simp [writePieces, writePiece, if_neg hc]

/-- The text that a print leaves in a sink, and whether it is complete. -/
structure Printed where
  written : String
  complete : Bool
deriving DecidableEq, Repr

/-- Prints pieces of text into a sink with the given room. -/
def printInto (room : Nat) (ps : List String) : Printed :=
  let out := writePieces room (ps.map String.toList)
  ⟨String.ofList out.1, out.2⟩

end SiteNav
