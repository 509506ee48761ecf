import Mathlib.Data.List.Forall2
import SiteNav.Proofs.Anchor
import SiteNav.Proofs.Route.Language
import SiteNav.Proofs.Session.Change

/-!
# Rows of links under a router

However a run goes on, a row of links shows one element for each of its links, in order. What a link
shows is decided by the route of its target and by the current path, and never by the spelling of
the target: a click leads to the path of the route, and afterwards all links to that route are
marked, and no others.
-/

namespace SiteNav

/-! ### What an element shows -/

def Html.isRouted : Html Action → Bool
  | .element tag _ (some (.visit _)) _ => tag = "a"
  | .element _ _ _ _ | .text _ => false

def Html.isMarked {α : Type} : Html α → Bool
  | .element _ attributes _ _ => attributes.any (·.1 = "aria-current")
  | .text _ => false

@[simp] lemma isRouted_routerAnchor (location : Location) (r : Route) (label : String) :
    (routerAnchor location r label).isRouted = true := rfl

@[simp] lemma isRouted_plainAnchor (link : NavLink) :
    (plainAnchor link none).isRouted = false := rfl

@[simp] lemma isMarked_plainAnchor (link : NavLink) (listener : Option Action) :
    (plainAnchor link listener).isMarked = false := by
  simp [plainAnchor, Html.isMarked, classAttribute]

/-- An anchor is marked by its address, as the path has to be that of the route to the letter. -/
lemma isMarked_routerAnchor_iff (location : Location) (r : Route) (label : String) :
    (routerAnchor location r label).isMarked = true ↔ location.path = r.path := by
  simp only [routerAnchor, Html.isMarked, currentMark, classAttribute, List.any_append]
  split_ifs with h
  · simp [h]
  · simp [Ne.symm h]

/-- How an element shows a link at a path: as an anchor of the router exactly if the target leads to
a route, and then marked exactly if the path is the one of that route. -/
structure ShowsLink (path : String) (link : NavLink) (element : Html Action) : Prop where
  routed_iff : element.isRouted = true ↔ ∃ r, Route.parse link.target = .ok r
  marked_iff : ∀ r, Route.parse link.target = .ok r →
    (element.isMarked = true ↔ path = r.path)

/-- The element of a link shows it, whether its target leads to a route or not. -/
lemma showsLink_routedElement (location : Location) (link : NavLink) :
    ShowsLink location.path link (routedElement location link) := by
  cases h : Route.parse link.target with
  | ok r =>
    rw [routedElement_of_ok h]
    refine ⟨by simp [h], fun q hq => ?_⟩
    rw [h] at hq
    cases hq
    exact isMarked_routerAnchor_iff location r link.label
  | error e =>
    rw [routedElement_of_error h]
    exact ⟨by simp [h], fun q hq => by simp [h] at hq⟩

/-- Once the path is the one of a route, the links to that route are marked, and no others. -/
lemma isMarked_routedElement_iff {location : Location} {r : Route} (hpath : location.path = r.path)
    (link : NavLink) :
    (routedElement location link).isMarked = true ↔ Route.parse link.target = .ok r := by
  cases h : Route.parse link.target with
  | ok q =>
    rw [routedElement_of_ok h, isMarked_routerAnchor_iff, hpath]
    constructor
    · intro hq
      rw [Route.path_injective hq]
    · intro hq
      cases hq
      rfl
  | error e =>
    rw [routedElement_of_error h]
    simp

/-! ### Rows -/

section

variable {s t : Session} {trace : Trace} {routed : Bool} {links : List NavLink}

lemma Session.isCrashed_of_linkList (hroot : s.root = .linkList routed links) :
    s.isCrashed = false := by
  rw [Session.isCrashed, hroot]
  rfl

/-- Nothing that a step can do takes a row away or changes its links. -/
lemma Session.Change.root_of_linkList (h : s.Change t trace)
    (hroot : s.root = .linkList routed links) :
    t.root = .linkList routed links ∧ t.base = s.base := by
  cases h with
  | keep => exact ⟨hroot, rfl⟩
  | activate _ => exact ⟨hroot, rfl⟩
  | visit _ => exact ⟨by simp [Session.go, Root.arrive, hroot], rfl⟩
  | go m _ => exact ⟨by simp [Session.go, Root.arrive, hroot], rfl⟩
  | leave url _ =>
    rw [Session.leave]
    split
    · exact ⟨hroot, rfl⟩
    · exact ⟨by simp [Root.fail, hroot], rfl⟩
  | recover hfail => simp [hroot] at hfail
  | register b => exact ⟨hroot, rfl⟩
  | rerun =>
    rw [Session.rerunRoot, hroot]
    exact ⟨hroot, rfl⟩
  | setNavigator navigator => exact ⟨hroot, rfl⟩

lemma Session.root_step_of_linkList (hroot : s.root = .linkList routed links) (step : Step) :
    (s.step step).session.root = .linkList routed links ∧ (s.step step).session.base = s.base :=
  (Session.change_step (by rw [hroot]; rfl) step).root_of_linkList hroot

lemma Setup.root_mount_of_linkList {setup : Setup} (hscene : setup.scene = .linkList routed links) :
    setup.mount.1.root = .linkList routed links ∧ setup.mount.1.base = setup.base := by
  have hroot : setup.blank.root = .linkList routed links := congrArg Scene.root hscene
  rw [Setup.mount, hscene]
  exact ⟨hroot, rfl⟩

lemma Setup.history_mount_of_linkList {setup : Setup}
    (hscene : setup.scene = .linkList routed links) :
    setup.mount.1.history = .start setup.path := by
  rw [Setup.mount, hscene]
  rfl

/-- A row of links stays as it was mounted. -/
lemma Setup.Reaches.root_of_linkList {setup : Setup} (hscene : setup.scene = .linkList routed links)
    (h : setup.Reaches s) : s.root = .linkList routed links ∧ s.base = setup.base := by
  induction h with
  | mount => exact Setup.root_mount_of_linkList hscene
  | step _ _ step ih =>
    obtain ⟨hroot, hbase⟩ := ih
    obtain ⟨hroot', hbase'⟩ := Session.root_step_of_linkList hroot step
    exact ⟨hroot', hbase'.trans hbase⟩

end

/-- A session whose root is a row of links under a router. -/
structure Session.IsRow (s : Session) (base : String) (links : List NavLink) : Prop where
  root_eq : s.root = .linkList true links
  base_eq : s.base = base

section

variable {s : Session} {base : String} {links : List NavLink}

lemma Session.IsRow.isCrashed (h : s.IsRow base links) : s.isCrashed = false :=
  Session.isCrashed_of_linkList h.root_eq

/-- A row under a router stays one. -/
lemma Session.IsRow.step (h : s.IsRow base links) (step : Step) :
    (s.step step).session.IsRow base links := by
  obtain ⟨hroot, hbase⟩ := Session.root_step_of_linkList h.root_eq step
  exact ⟨hroot, hbase.trans h.base_eq⟩

lemma Setup.Reaches.isRow {setup : Setup} (hscene : setup.scene = .linkList true links)
    (h : setup.Reaches s) : s.IsRow setup.base links := by
  obtain ⟨hroot, hbase⟩ := h.root_of_linkList hscene
  exact ⟨hroot, hbase⟩

/-! ### The document of a row -/

lemma Session.IsRow.document (h : s.IsRow base links) :
    s.document = links.map (routedElement ⟨base, s.history.current⟩) := by
  have hlocation : s.location = some ⟨base, s.history.current⟩ := by
    rw [Session.location, h.root_eq, h.base_eq]
    rfl
  rw [Session.document, hlocation, h.root_eq, Root.document, List.map_eq_flatMap]
  exact congrArg (links.flatMap ·) (funext (routedLink_some _))

lemma Session.IsRow.renderAll (h : s.IsRow base links) :
    Html.renderAll s.document =
      String.join (links.map (routedLinkText base s.history.current)) := by
  rw [h.document, Html.renderAll_eq_join, List.map_map]
  exact congrArg String.join (List.map_congr_left fun link _ => render_routedElement _ link)

lemma Session.IsRow.html_snapshot (h : s.IsRow base links) (trace : Trace) (outcome : Outcome) :
    (s.snapshot trace outcome).html =
      some (String.join (links.map (routedLinkText base s.history.current))) := by
  rw [Session.snapshot, h.isCrashed, ← h.renderAll]
  rfl

def routedListener (link : NavLink) : Option Action :=
  match Route.parse link.target with
  | .ok r => some (.visit r.path)
  | .error _ => none

lemma anchors_routedElement (location : Location) (link : NavLink) :
    (routedElement location link).anchors = [routedListener link] := by
  rw [routedElement, routedListener]
  cases Route.parse link.target <;> simp

lemma Session.IsRow.anchors (h : s.IsRow base links) :
    Html.anchorsAll s.document = links.map routedListener := by
  rw [h.document]
  clear h
  induction links with
  | nil => simp
  | cons link links ih => simp [anchors_routedElement, ih]

/-- A plain click on an anchor that visits a path goes there. -/
lemma Session.click_of_visit {c : Click} {path : String}
    (hlistener : (Html.anchorsAll s.document)[c.anchor]? = some (some (.visit path)))
    (hplain : c.isPlain = true) (hevent : c.event = clickEvent) :
    s.click c = .ofRun (s.go (.push path), .empty) (.clicked true true) := by
  simp only [Session.click, hlistener, if_pos hevent, Session.act, Action.prevents, hplain, if_true]

/-- A plain click on a link to a route visits the path of that route. -/
lemma Session.IsRow.click_of_ok (h : s.IsRow base links) {c : Click} {link : NavLink} {r : Route}
    (hc : links[c.anchor]? = some link) (hr : Route.parse link.target = .ok r)
    (hplain : c.isPlain = true) (hevent : c.event = clickEvent) :
    s.click c = .ofRun (s.go (.push r.path), .empty) (.clicked true true) := by
  apply Session.click_of_visit _ hplain hevent
  rw [h.anchors, List.getElem?_map, hc, Option.map_some, routedListener, hr]

lemma Session.IsRow.click_of_error (h : s.IsRow base links) {c : Click} {link : NavLink}
    {e : RouteError} (hc : links[c.anchor]? = some link)
    (he : Route.parse link.target = .error e) :
    s.click c = .refuse s (.clicked false false) := by
  have hlistener : (Html.anchorsAll s.document)[c.anchor]? = some none := by
    rw [h.anchors, List.getElem?_map, hc, Option.map_some, routedListener, he]
  simp only [Session.click, hlistener]

end

/-! ### Rows follow the router -/

/-- Whatever a run has come to, a row shows each link by the route of its target and the current
path, a plain click on a link to a route leads to the path of that route, where exactly the links to
that route are marked, and a click on any other link changes nothing. -/
theorem Setup.Reaches.links_follow_router {setup : Setup} {links : List NavLink}
    (hscene : setup.scene = .linkList true links) {s : Session} (h : setup.Reaches s) :
    (∀ trace outcome, (s.snapshot trace outcome).html =
      some (String.join (links.map (routedLinkText setup.base s.history.current)))) ∧
    List.Forall₂ (ShowsLink s.history.current) links s.document ∧
    (∀ (c : Click) link r, links[c.anchor]? = some link → Route.parse link.target = .ok r →
      c.isPlain = true → c.event = clickEvent →
        (s.step (.click c)).session.history.current = r.path ∧
        List.Forall₂ (fun l element => element.isMarked = true ↔ Route.parse l.target = .ok r)
          links (s.step (.click c)).session.document) ∧
    ∀ (c : Click) link e, links[c.anchor]? = some link → Route.parse link.target = .error e →
      (s.step (.click c)).session = s := by
  have hrow := h.isRow hscene
  refine ⟨hrow.html_snapshot, ?_, ?_, ?_⟩
  · rw [hrow.document, List.forall₂_map_right_iff, List.forall₂_same]
    exact fun link _ => showsLink_routedElement ⟨_, _⟩ link
  · intro c link r hc hr hplain hevent
    -- the path of the route comes from the listener, whatever the target is spelled like
    have hclick := hrow.click_of_ok hc hr hplain hevent
    have hpath : (s.step (.click c)).session.history.current = r.path := by
      rw [Session.step, hclick]
      exact History.current_push _ _
    refine ⟨hpath, ?_⟩
    rw [(hrow.step (.click c)).document, List.forall₂_map_right_iff, List.forall₂_same]
    exact fun l _ => isMarked_routedElement_iff hpath l
  · intro c link e hc he
    rw [Session.step, hrow.click_of_error hc he]
    rfl

/-- Two spellings of the chat page's path beside a target that leads nowhere, after a visit to yet
another path. -/
theorem Setup.Reaches.links_follow_router_of_spellings :
    ∃ setup : Setup, ∃ s : Session,
      setup.scene = .linkList true [⟨"A", "nope"⟩, ⟨"B", "/%63hat/?x"⟩, ⟨"C", "/chat"⟩] ∧
      setup.Reaches s ∧ s.history.current = "/chat?y" ∧
      (s.step (.click ⟨0, .primary, [], "click"⟩)).session = s ∧
      (s.step (.click ⟨1, .primary, [], "click"⟩)).session.history.current = "/chat" := by
  let links : List NavLink := [⟨"A", "nope"⟩, ⟨"B", "/%63hat/?x"⟩, ⟨"C", "/chat"⟩]
  let setup : Setup := ⟨"/zzz", "/base", false, none, [.span], .linkList true links⟩
  have hreach : setup.Reaches (setup.mount.1.step (.router (.go (.push "/chat?y")))).session :=
    .step .mount rfl _
  have hspelled : Route.parse "/%63hat/?x" = .ok .chat := by
    refine Route.parse_eq_chat_iff.mpr ⟨"%63hat", "/", "?x", ?_, by simp, by decide, by decide⟩
    exact ⟨"%63", by simp, "h", by simp, "a", by simp, "t", by simp, by decide⟩
  have hnope : Route.parse "nope" = .error ⟨[]⟩ := Route.parse_of_not_isAbsolute (by decide)
  obtain ⟨-, -, hclick, hrest⟩ := Setup.Reaches.links_follow_router rfl hreach
  exact ⟨setup, _, rfl, hreach, rfl, hrest _ ⟨"A", "nope"⟩ _ rfl hnope,
    (hclick _ ⟨"B", "/%63hat/?x"⟩ _ rfl hspelled rfl rfl).1⟩

end SiteNav
