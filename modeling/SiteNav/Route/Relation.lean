import SiteNav.Route.Parse

/-!
# How two paths relate

Two paths are compared by the routes that they lead to: whether those are the same, whether one lies
below the other, and what lies directly above each. If both paths are no routes, the left one is
reported.
-/

namespace SiteNav

inductive Side where
  | left
  | right
deriving DecidableEq, Repr

/-- A path of a comparison that is no route. -/
structure SideError where
  side : Side
  error : RouteError
deriving DecidableEq, Repr

structure Relation where
  equal : Bool
  leftBelowRight : Bool
  rightBelowLeft : Bool
  leftParent : Option Route
  rightParent : Option Route
deriving DecidableEq, Repr

def Route.relate (r q : Route) : Relation :=
  ⟨r = q, r.isChildOf q, q.isChildOf r, r.parent?, q.parent?⟩

/-- Reads a path on one side of a comparison. -/
def Side.parse (side : Side) (path : String) : Except SideError Route :=
  (Route.parse path).mapError (⟨side, ·⟩)

def relatePaths (left right : String) : Except SideError Relation :=
  match Side.left.parse left with
  | .error e => .error e
  | .ok r =>
    match Side.right.parse right with
    | .error e => .error e
    | .ok q => .ok (r.relate q)

end SiteNav
