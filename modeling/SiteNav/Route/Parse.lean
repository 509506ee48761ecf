import SiteNav.Route.Error
import SiteNav.Text.Cut
import SiteNav.Text.Percent

/-!
# Reading a route off a path

The hash and then the query are cut off, one slash at the end is dropped, and the rest is split at
its slashes. The piece before the leading slash is empty and goes; the others are decoded and
compared with the segments of the routes.
-/

namespace SiteNav

/-! ### The segments of a path -/

/-- What the hash and the query leave of a path. -/
def trunk (path : List Char) : List Char :=
  before '?' (before '#' path)

def pathSegments (path : List Char) : List String :=
  ((dropOneLast '/' (trunk path)).splitOn '/').tail.map fun p => String.ofList (percentDecode p)

def isAbsolute : List Char → Bool
  | [] => false
  | c :: _ => c == '/'

theorem isAbsolute_iff (path : List Char) :
    isAbsolute path = true ↔ ∃ rest, path = '/' :: rest := by
  cases path <;> simp [isAbsolute]

/-! ### Matching -/

/-- The route with the given segments, or why each route has others. -/
def Route.ofSegments : List String → Except RouteError Route
  | [] => .ok .home
  | first :: rest =>
    if first = chatSegment then
      if rest = [] then .ok .chat
      else .error ⟨[⟨.home, .trailing (first :: rest)⟩, ⟨.chat, .trailing rest⟩]⟩
    else .error ⟨[⟨.home, .trailing (first :: rest)⟩, ⟨.chat, .segment chatSegment first⟩]⟩

@[simp] theorem Route.ofSegments_segments (r : Route) : Route.ofSegments r.segments = .ok r := by
  cases r <;> simp [Route.segments, Route.ofSegments]

/-- Segments are those of a route to the letter, or they lead nowhere. -/
theorem Route.ofSegments_eq_ok_iff {ss : List String} {r : Route} :
    Route.ofSegments ss = .ok r ↔ ss = r.segments := by
  constructor
  · intro h
    match ss with
    | [] => cases h; rfl
    | first :: rest =>
      simp only [Route.ofSegments] at h
      split at h
      · split at h <;> simp_all [Route.segments]
        subst h; rfl
      · simp at h
  · rintro rfl
    simp

/-- The route that a path leads to. -/
def Route.parse (path : String) : Except RouteError Route :=
  if isAbsolute path.toList then Route.ofSegments (pathSegments path.toList)
  else .error ⟨[]⟩

/-- No route is tried on a path that is not absolute. -/
theorem Route.parse_of_not_isAbsolute {path : String} (h : isAbsolute path.toList = false) :
    Route.parse path = .error ⟨[]⟩ := by simp [Route.parse, h]

theorem Route.parse_of_isAbsolute {path : String} (h : isAbsolute path.toList = true) :
    Route.parse path = Route.ofSegments (pathSegments path.toList) := by simp [Route.parse, h]

/-- The path of a route is taken apart into its segments. -/
theorem pathSegments_path (r : Route) : pathSegments r.path.toList = r.segments := by
  cases r with
  | home => rfl
  | chat =>
    have h : percentDecode chatSegment.toList = chatSegment.toList :=
      percentDecode_eq_self (by decide)
    have hp : (dropOneLast '/' (trunk Route.chat.path.toList)).splitOn '/' =
        [[], chatSegment.toList] := by decide
    rw [pathSegments, hp]
    simp [h, Route.segments]

/-- The path of a route leads to that route. -/
@[simp] theorem Route.parse_path (r : Route) : Route.parse r.path = .ok r := by
  rw [Route.parse_of_isAbsolute (by cases r <;> decide), pathSegments_path,
    Route.ofSegments_segments]

end SiteNav
