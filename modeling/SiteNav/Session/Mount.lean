import SiteNav.Session.Basic

/-!
# Mounting

A session begins with the builders registered in order; then its root is mounted. The app registers
the routed builder each time it runs, so that one is always registered before its bar is shown.
-/

namespace SiteNav

/-! ### Registration -/

def Session.register (s : Session) (bs : List Builder) : Session × Trace :=
  ({ s with registry := (s.registry.registerAll bs).1 },
    { Trace.empty with logs := (s.registry.registerAll bs).2 })

/-! ### The app -/

/-- Mounts the bar and the page of the current path, or crashes on a path that is no route. -/
def Session.openPage (s : Session) : Session × Trace :=
  match Route.parse s.history.current with
  | .error _ => ({ s with root := .app .crashed }, .empty)
  | .ok r =>
    let bar := BarLinks.mount s.registry s.navigator
    Session.andThen (s.wantHead barHead) fun s =>
      ({ s with root := .app (.page bar r) }, { Trace.empty with logs := bar.logs })

def Session.mountApp (s : Session) : Session × Trace :=
  Session.andThen
    (Session.andThen (s.register [.routed]) (·.wantHead [.stylesheetLink pageStylesheetHref]))
    Session.openPage

/-! ### Links -/

/-- Mounts a row of links, or runs it again. -/
def Session.runLinks (s : Session) (links : List NavLink) : Session × Trace :=
  (s, { Trace.empty with logs := links.flatMap routedWarnings })

/-! ### Bars -/

/-- Adds a bar at the end, with a navigator around it or without. -/
def Session.addBar (s : Session) (navigator : Option String) : Session × Trace :=
  match s.root with
  | .barList routed bars nextId =>
    let links := BarLinks.mount s.registry (navigator.or s.navigator)
    Session.andThen (s.wantHead barHead) fun s =>
      ({ s with root := .barList routed (bars ++ [⟨nextId, navigator, links⟩]) (nextId + 1) },
        { Trace.empty with logs := links.logs })
  | .app _ | .linkList _ _ => (s, .empty)

def Session.addBars : Session → List (Option String) → Session × Trace
  | s, [] => (s, .empty)
  | s, n :: ns => Session.andThen (s.addBar n) (·.addBars ns)

/-! ### Sessions -/

/-- What is to be mounted at the root. -/
inductive Scene where
  | app
  | linkList (routed : Bool) (links : List NavLink)
  | barList (routed : Bool) (navigators : List (Option String))
deriving DecidableEq, Repr

/-- What a session begins with. -/
structure Setup where
  path : String
  base : String
  opensExternal : Bool
  navigator : Option String
  builders : List Builder
  scene : Scene
deriving DecidableEq, Repr

/-- The root as it is before its first run; the app shows nothing until its page is opened. -/
def Scene.root : Scene → Root
  | .app => .app .crashed
  | .linkList routed links => .linkList routed links
  | .barList routed _ => .barList routed [] 0

/-- A session before anything has run. -/
def Setup.blank (setup : Setup) : Session :=
  ⟨.empty, .start setup.path, setup.base, setup.opensExternal, setup.navigator, [],
    setup.scene.root⟩

def Scene.mount : Scene → Session → Session × Trace
  | .app, s => s.mountApp
  | .linkList _ links, s => s.runLinks links
  | .barList _ navigators, s => s.addBars navigators

def Setup.mount (setup : Setup) : Session × Trace :=
  Session.andThen (setup.blank.register setup.builders) setup.scene.mount

end SiteNav
