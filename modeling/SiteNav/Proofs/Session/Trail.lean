import Mathlib.Tactic.Lemma
import SiteNav.Session.Step

/-!
# Trails

A trail is a list of the paths that were come to, in order, with a cursor at the one where one is. A
visit drops the paths ahead of the cursor and puts the new path there; going back and forward moves
the cursor and leaves the list alone.

The two stacks of a history make up such a trail, and all moves through the history are those of the
trail: the only difference is a visit to the current path, which the history does not take.
-/

namespace SiteNav

/-- Paths in the order in which they were come to, and the place of the current one. -/
@[ext]
structure Trail where
  paths : List String
  cursor : Nat
  cursor_lt : cursor < paths.length

namespace Trail

/-- The path at the cursor. -/
def current (t : Trail) : String := t.paths.get ⟨t.cursor, t.cursor_lt⟩

/-- The trail of someone who has just arrived. -/
def start (path : String) : Trail where
  paths := [path]
  cursor := 0
  cursor_lt := Nat.one_pos

/-- Drops the paths ahead of the cursor, appends a path and moves to it. -/
def visit (t : Trail) (path : String) : Trail where
  paths := t.paths.take (t.cursor + 1) ++ [path]
  cursor := t.cursor + 1
  cursor_lt := by
    have := t.cursor_lt
    rw [List.length_append, List.length_take, List.length_singleton]
    omega

/-- Puts a path in the place of the current one. -/
def replace (t : Trail) (path : String) : Trail where
  paths := t.paths.set t.cursor path
  cursor := t.cursor
  cursor_lt := by
    rw [List.length_set]
    exact t.cursor_lt

/-- Moves the cursor back by one place, if it is not at the first one. -/
def back (t : Trail) : Trail where
  paths := t.paths
  cursor := t.cursor - 1
  cursor_lt := Nat.lt_of_le_of_lt (Nat.sub_le _ _) t.cursor_lt

/-- Moves the cursor forward by one place, if it is not at the last one. -/
def forward (t : Trail) : Trail :=
  if h : t.cursor + 1 < t.paths.length then ⟨t.paths, t.cursor + 1, h⟩ else t

def canGoBack (t : Trail) : Bool := t.cursor ≠ 0

def canGoForward (t : Trail) : Bool := t.cursor + 1 ≠ t.paths.length

def move (t : Trail) : Move → Trail
  | .push path => t.visit path
  | .replace path => t.replace path
  | .back => t.back
  | .forward => t.forward

lemma getElem?_cursor (t : Trail) : t.paths[t.cursor]? = some t.current :=
  List.getElem?_eq_getElem t.cursor_lt

/-! ### Visits, and all the way back -/

/-- Visits move the cursor on by one place each, and keep the first path. -/
lemma foldl_push {moves : List Move} (h : ∀ m ∈ moves, ∃ path, m = .push path) (t : Trail) :
    (moves.foldl move t).cursor = t.cursor + moves.length ∧
      (moves.foldl move t).paths[0]? = t.paths[0]? := by
  induction moves generalizing t with
  | nil => exact ⟨rfl, rfl⟩
  | cons m moves ih =>
    rw [List.forall_mem_cons] at h
    obtain ⟨⟨path, rfl⟩, h⟩ := h
    obtain ⟨hcursor, hpaths⟩ := ih h (t.visit path)
    refine ⟨hcursor.trans ?_, hpaths.trans ?_⟩
    · rw [List.length_cons]
      change t.cursor + 1 + _ = _
      omega
    · have hlt := t.cursor_lt
      have hlength : 0 < (t.paths.take (t.cursor + 1)).length := by
        rw [List.length_take]
        omega
      change (t.paths.take (t.cursor + 1) ++ [path])[0]? = _
      rw [List.getElem?_append_left hlength, List.getElem?_take_of_lt (Nat.succ_pos _)]

/-- Going back moves the cursor alone, and not beyond the first place. -/
lemma foldl_back (k : Nat) (t : Trail) :
    ((List.replicate k Move.back).foldl move t).cursor = t.cursor - k ∧
      ((List.replicate k Move.back).foldl move t).paths = t.paths := by
  induction k generalizing t with
  | zero => exact ⟨rfl, rfl⟩
  | succ k ih =>
    obtain ⟨hcursor, hpaths⟩ := ih t.back
    refine ⟨hcursor.trans ?_, hpaths⟩
    change t.cursor - 1 - k = _
    omega

/-- As many moves back as there were visits lead to where the first one started from. -/
lemma current_foldl_back_foldl_push {moves : List Move} (h : ∀ m ∈ moves, ∃ path, m = .push path)
    (path : String) :
    ((moves ++ List.replicate moves.length Move.back).foldl move (start path)).current = path := by
  obtain ⟨hcursor, hpaths⟩ := foldl_push h (start path)
  obtain ⟨hcursor', hpaths'⟩ := foldl_back moves.length (moves.foldl move (start path))
  have hcurrent := getElem?_cursor
    ((List.replicate moves.length Move.back).foldl move (moves.foldl move (start path)))
  rw [hcursor', hpaths', hcursor, Nat.add_sub_cancel] at hcurrent
  rw [List.foldl_append]
  exact (Option.some.inj (hpaths.symm.trans hcurrent)).symm

end Trail

/-! ### The trail of a history -/

/-- The paths of a history in the order in which they were come to. -/
def History.trail (h : History) : Trail where
  paths := h.behind.reverse ++ h.current :: h.ahead
  cursor := h.behind.length
  cursor_lt := by
    rw [List.length_append, List.length_reverse, List.length_cons]
    omega

@[simp] lemma History.current_trail (h : History) : h.trail.current = h.current := by
  have hcursor := h.trail.getElem?_cursor
  change (h.behind.reverse ++ h.current :: h.ahead)[h.behind.length]? = _ at hcursor
  rw [← List.length_reverse, List.getElem?_append_right (Nat.le_refl _), Nat.sub_self,
    List.getElem?_cons_zero] at hcursor
  exact (Option.some.inj hcursor).symm

@[simp] lemma History.canGoBack_trail (h : History) : h.trail.canGoBack = h.canGoBack := by
  obtain ⟨current, behind, ahead⟩ := h
  cases behind <;> rfl

@[simp] lemma History.canGoForward_trail (h : History) :
    h.trail.canGoForward = h.canGoForward := by
  obtain ⟨current, behind, ahead⟩ := h
  cases ahead with
  | nil => simp [Trail.canGoForward, History.trail, History.canGoForward]
  | cons path ahead => simp [Trail.canGoForward, History.trail, History.canGoForward]

/-- A visit forgets on the trail what it forgets in the history. -/
lemma History.trail_push {h : History} {path : String} (hpath : path ≠ h.current) :
    (h.push path).trail = h.trail.visit path := by
  rw [History.push, if_neg hpath]
  ext1
  · have htake : (h.behind.reverse ++ h.current :: h.ahead).take (h.behind.length + 1) =
        h.behind.reverse ++ [h.current] := by
      rw [← List.length_reverse, List.take_length_add_append]
      rfl
    change (h.current :: h.behind).reverse ++ [path] = _ ++ [path]
    rw [List.reverse_cons, ← htake]
    rfl
  · rfl

lemma History.trail_replace (h : History) (path : String) :
    (h.replace path).trail = h.trail.replace path := by
  ext1
  · change h.behind.reverse ++ path :: h.ahead =
      (h.behind.reverse ++ h.current :: h.ahead).set h.behind.length path
    rw [← List.length_reverse, List.set_append_right _ _ (Nat.le_refl _), Nat.sub_self]
    rfl
  · rfl

/-- Going back in the history moves the cursor of the trail. -/
lemma History.trail_back (h : History) : h.back.trail = h.trail.back := by
  obtain ⟨current, behind, ahead⟩ := h
  cases behind with
  | nil => rfl
  | cons path behind =>
    ext1
    · change behind.reverse ++ path :: current :: ahead =
        (path :: behind).reverse ++ current :: ahead
      rw [List.reverse_cons, List.append_assoc]
      rfl
    · rfl

lemma History.trail_forward (h : History) : h.forward.trail = h.trail.forward := by
  obtain ⟨current, behind, ahead⟩ := h
  cases ahead with
  | nil =>
    rw [Trail.forward, dif_neg]
    · rfl
    · simp [History.trail]
  | cons path ahead =>
    rw [Trail.forward, dif_pos]
    · ext1
      · change (current :: behind).reverse ++ path :: ahead =
          behind.reverse ++ current :: path :: ahead
        rw [List.reverse_cons, List.append_assoc]
        rfl
      · rfl
    · simp [History.trail]

/-- The moves through a history are those of its trail, but for a visit to the current path. -/
lemma History.trail_move {h : History} {m : Move} (hm : m ≠ .push h.current) :
    (h.move m).trail = h.trail.move m := by
  cases m with
  | push path =>
    apply History.trail_push
    rintro rfl
    exact hm rfl
  | replace path => exact h.trail_replace path
  | back => exact h.trail_back
  | forward => exact h.trail_forward

end SiteNav
