/-!
# History

A history is a path with the paths behind it and the paths ahead of it, the nearest ones first.
Visiting a path forgets what lies ahead; visiting the path one is on already does nothing at all.
-/

namespace SiteNav

/-- The current path, those behind it and those ahead of it. -/
structure History where
  current : String
  behind : List String
  ahead : List String
deriving DecidableEq, Repr

def History.start (path : String) : History := ⟨path, [], []⟩

/-- Goes on to a path. -/
def History.push (h : History) (path : String) : History :=
  if path = h.current then h else ⟨path, h.current :: h.behind, []⟩

/-- Puts a path in the place of the current one. -/
def History.replace (h : History) (path : String) : History :=
  { h with current := path }

def History.back (h : History) : History :=
  match h.behind with
  | [] => h
  | p :: ps => ⟨p, ps, h.current :: h.ahead⟩

def History.forward (h : History) : History :=
  match h.ahead with
  | [] => h
  | p :: ps => ⟨p, h.current :: h.behind, ps⟩

def History.canGoBack (h : History) : Bool := !h.behind.isEmpty

def History.canGoForward (h : History) : Bool := !h.ahead.isEmpty

@[simp] theorem History.current_push (h : History) (path : String) :
    (h.push path).current = path := by
  by_cases hp : path = h.current <;> simp [History.push, hp]

/-- Going back and forward again leads to where one was. -/
theorem History.forward_back {h : History} (hb : h.canGoBack = true) : h.back.forward = h := by
  obtain ⟨c, behind, ahead⟩ := h
  cases behind with
  | nil => simp [History.canGoBack] at hb
  | cons p ps => rfl

end SiteNav
