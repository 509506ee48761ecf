import SiteNav.Route.Parse
import SiteNav.Text.Sink

/-!
# Printing what a path leads to

A path that leads to a route is printed as the path of that route, and any other as the report of
the failure. The report comes in pieces, and a sink that has no room left ends it in the middle.
-/

namespace SiteNav

/-- What is printed for a path, piece by piece. -/
def parsedPieces (path : String) : List String :=
  match Route.parse path with
  | .ok r => [r.path]
  | .error e => e.pieces

def parsedText (path : String) : String :=
  String.join (parsedPieces path)

def printParsed (path : String) (room : Nat) : Printed :=
  printInto room (parsedPieces path)

theorem parsedText_of_ok {path : String} {r : Route} (h : Route.parse path = .ok r) :
    parsedText path = r.path := by simp [parsedText, parsedPieces, h, String.join]

/-- The pieces of a report make up its text. -/
theorem parsedText_of_error {path : String} {e : RouteError} (h : Route.parse path = .error e) :
    parsedText path = e.message := by simp [parsedText, parsedPieces, h, RouteError.message]

end SiteNav
