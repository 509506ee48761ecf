import SiteNav.Anchor
import SiteNav.Route.Parse
import SiteNav.Trace

/-!
# Link builders

A builder decides how the links of a bar are shown. The one of the routed site turns the target of a
link into a route and shows an anchor of the router; a target that is no route is logged and shown
as a plain anchor. At most one builder is ever registered: the first one stays.
-/

namespace SiteNav

inductive Builder where
  | routed
  | span
  | active
  | empty
deriving DecidableEq, Repr

/-- The navigator to which the anchors of the active builder announce themselves. -/
def builderNavigator : String := "builder"

/-! ### The routed builder -/

/-- A link as the routed site shows it; without a router an anchor of the router shows nothing. -/
def routedLink (location : Option Location) (link : NavLink) : Document :=
  match Route.parse link.target with
  | .ok r =>
    match location with
    | none => []
    | some l => [routerAnchor l r link.label]
  | .error _ => [plainAnchor link none]

def routedWarnings (link : NavLink) : List LogEntry :=
  match Route.parse link.target with
  | .ok _ => []
  | .error e => [.unroutable link.target e]

theorem routedLink_of_ok {link : NavLink} {r : Route} (h : Route.parse link.target = .ok r)
    (location : Location) :
    routedLink (some location) link = [routerAnchor location r link.label] := by
  simp [routedLink, h]

/-- A target that is no route is shown with a router or without. -/
theorem routedLink_of_error {link : NavLink} {e : RouteError}
    (h : Route.parse link.target = .error e) (location : Option Location) :
    routedLink location link = [plainAnchor link none] := by simp [routedLink, h]

theorem routedWarnings_of_ok {link : NavLink} {r : Route} (h : Route.parse link.target = .ok r) :
    routedWarnings link = [] := by simp [routedWarnings, h]

theorem routedWarnings_of_error {link : NavLink} {e : RouteError}
    (h : Route.parse link.target = .error e) :
    routedWarnings link = [.unroutable link.target e] := by simp [routedWarnings, h]

/-! ### Any builder -/

def Builder.link (location : Option Location) : Builder → NavLink → Document
  | .routed, link => routedLink location link
  | .span, link => [spanLink link]
  | .active, link => [announcingAnchor builderNavigator link]
  | .empty, _ => []

def Builder.warnings : Builder → NavLink → List LogEntry
  | .routed, link => routedWarnings link
  | .span, _ | .active, _ | .empty, _ => []

/-! ### Registration -/

/-- The builder that is registered, if there is one. -/
structure Registry where
  builder : Option Builder
deriving DecidableEq, Repr

def Registry.empty : Registry := ⟨none⟩

/-- Registers a builder unless one is registered already, which is logged. -/
def Registry.register (registry : Registry) (b : Builder) : Registry × List LogEntry :=
  match registry.builder with
  | none => (⟨some b⟩, [])
  | some _ => (registry, [.lateRegistration])

def Registry.registerAll : Registry → List Builder → Registry × List LogEntry
  | registry, [] => (registry, [])
  | registry, b :: bs =>
    let first := registry.register b
    let others := first.1.registerAll bs
    (others.1, first.2 ++ others.2)

@[simp] theorem Registry.register_empty (b : Builder) :
    Registry.empty.register b = (⟨some b⟩, []) := rfl

@[simp] theorem Registry.register_some (b c : Builder) :
    Registry.register ⟨some b⟩ c = (⟨some b⟩, [.lateRegistration]) := rfl

/-- Behind the first registration all others come too late. -/
theorem Registry.registerAll_some (b : Builder) (cs : List Builder) :
    Registry.registerAll ⟨some b⟩ cs = (⟨some b⟩, List.replicate cs.length .lateRegistration) := by
  induction cs with
  | nil => rfl
  | cons c cs ih => simp [Registry.registerAll, ih, List.replicate_succ]

end SiteNav
