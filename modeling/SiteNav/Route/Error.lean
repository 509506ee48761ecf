import SiteNav.Route.Basic

/-!
# Paths that are no route

A path is tried against each route in turn, and what is reported is why each of them did not match.
The report is printed piece by piece, and its text is what the pieces make together.
-/

namespace SiteNav

/-- Why the segments of a path are not those of a route. -/
inductive Mismatch where
  | segment (expected found : String)
  | trailing (rest : List String)
deriving DecidableEq, Repr

def Mismatch.message : Mismatch → String
  | .segment expected found =>
    "Static segment '" ++ expected ++ "' did not match instead found '" ++ found ++ "'"
  | .trailing rest => "Found additional trailing segments: " ++ "/".intercalate rest

theorem Mismatch.message_segment (expected found : String) :
    (Mismatch.segment expected found).message =
      "Static segment '" ++ expected ++ "' did not match instead found '" ++ found ++ "'" := rfl

theorem Mismatch.message_trailing (rest : List String) :
    (Mismatch.trailing rest).message =
      "Found additional trailing segments: " ++ "/".intercalate rest := rfl

/-- A route that was tried, and why it did not match. -/
structure Attempt where
  route : Route
  reason : Mismatch
deriving DecidableEq, Repr

def Attempt.message (a : Attempt) : String :=
  "Route '" ++ a.route.name ++ "' ('" ++ a.route.path ++ "') did not match:\n" ++ a.reason.message

/-- The attempts that were made on a path that is no route, none if the path is not absolute. -/
structure RouteError where
  attempts : List Attempt
deriving DecidableEq, Repr

/-! ### The report -/

/-- The numbered lines of the attempts from number `n` on, in the pieces they are printed in. -/
def attemptPieces : Nat → List Attempt → List String
  | _, [] => []
  | n, a :: as => n.repr :: ") " :: a.message :: "\n" :: attemptPieces (n + 1) as

/-- The report in the pieces it is printed in. -/
def RouteError.pieces (e : RouteError) : List String :=
  "Route did not match:\nAttempted Matches:\n" :: attemptPieces 1 e.attempts

def RouteError.message (e : RouteError) : String :=
  String.join e.pieces

end SiteNav
