/-!
# Routes

The site has two pages, each with one path. A path is its route's segments with a slash before each,
and the bare slash for the page that has none; the order of the routes by inclusion of segments says
which page lies below which.
-/

namespace SiteNav

inductive Route where
  | home
  | chat
deriving DecidableEq, Repr

/-- The routes in the order of the site map. -/
def Route.all : List Route := [.home, .chat]

def Route.name : Route → String
  | .home => "Home"
  | .chat => "Chat"

def chatSegment : String := "chat"

def Route.segments : Route → List String
  | .home => []
  | .chat => [chatSegment]

def Route.path : Route → String
  | .home => "/"
  | .chat => "/" ++ chatSegment

@[simp] theorem Route.path_home : Route.home.path = "/" := rfl

@[simp] theorem Route.path_chat : Route.chat.path = "/chat" := rfl

/-- No two routes have the same path. -/
theorem Route.path_injective {r q : Route} (h : r.path = q.path) : r = q := by
  cases r <;> cases q <;> simp_all

/-! ### The order of the pages -/

/-- Whether a route lies strictly below another one. -/
def Route.isChildOf (r parent : Route) : Bool :=
  parent.segments.isPrefixOf r.segments && parent.segments.length < r.segments.length

/-- The page directly above a route. -/
def Route.parent? : Route → Option Route
  | .home => none
  | .chat => some .home

end SiteNav
