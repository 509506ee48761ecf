import SiteNav.Proofs.Session.Crash
import SiteNav.Proofs.Session.LinkList
import SiteNav.Proofs.Session.Trail

/-!
# Walks through the links

On a walk nothing is done but to follow links that are not marked, and to go back and forward. The
current path and what can be come back to are then those of a trail: a link appends the path of its
route, and the rest moves the cursor. What is shown depends on the current path alone, so that a
walk that comes back to a path finds there what it left.
-/

namespace SiteNav

/-! ### Anchors as elements -/

section

variable {α : Type}

mutual
/-- The anchors in a piece of a document, in the order in which they are written. -/
def Html.anchorElements : Html α → List (Html α)
  | .text _ => []
  | .element tag attributes listener children =>
    (if tag = "a" then [.element tag attributes listener children] else []) ++
      Html.anchorElementsAll children

def Html.anchorElementsAll : List (Html α) → List (Html α)
  | [] => []
  | h :: hs => h.anchorElements ++ Html.anchorElementsAll hs
end

@[simp] lemma Html.anchorElements_text (content : String) :
    (Html.text content : Html α).anchorElements = [] := by simp [Html.anchorElements]

@[simp] lemma Html.anchorElements_element (tag : String) (attributes : List (String × String))
    (listener : Option α) (children : List (Html α)) :
    (Html.element tag attributes listener children).anchorElements =
      (if tag = "a" then [.element tag attributes listener children] else []) ++
        Html.anchorElementsAll children := by simp [Html.anchorElements]

@[simp] lemma Html.anchorElementsAll_nil : Html.anchorElementsAll ([] : List (Html α)) = [] := by
  simp [Html.anchorElementsAll]

@[simp] lemma Html.anchorElementsAll_cons (h : Html α) (hs : List (Html α)) :
    Html.anchorElementsAll (h :: hs) = h.anchorElements ++ Html.anchorElementsAll hs := by
  simp [Html.anchorElementsAll]

def Html.listener : Html α → Option α
  | .text _ => none
  | .element _ _ listener _ => listener

mutual
/-- The listeners of a document are those of its anchors. -/
lemma Html.anchors_eq_map (h : Html α) : h.anchors = h.anchorElements.map Html.listener := by
  match h with
  | .text content => simp
  | .element tag attributes listener children =>
    rw [Html.anchors_element, Html.anchorElements_element, List.map_append,
      Html.anchorsAll_eq_map children]
    by_cases htag : tag = "a"
    · rw [if_pos htag, if_pos htag]
      rfl
    · rw [if_neg htag, if_neg htag]
      rfl

lemma Html.anchorsAll_eq_map (hs : List (Html α)) :
    Html.anchorsAll hs = (Html.anchorElementsAll hs).map Html.listener := by
  match hs with
  | [] => simp
  | h :: hs =>
    rw [Html.anchorsAll_cons, Html.anchorElementsAll_cons, List.map_append,
      Html.anchors_eq_map h, Html.anchorsAll_eq_map hs]
end

end

@[simp] lemma Route.anchorElements_page (r : Route) : r.page.anchorElements = [] := by
  cases r <;> simp [Route.page, pageSection, textElement]

@[simp] lemma anchorElements_routedElement (location : Location) (link : NavLink) :
    (routedElement location link).anchorElements = [routedElement location link] := by
  rw [routedElement]
  cases Route.parse link.target with
  | ok r => simp [routerAnchor]
  | error e => simp [plainAnchor]

/-- What the element of a link listens for does not depend on the place. -/
lemma listener_routedElement (location : Location) (link : NavLink) :
    (routedElement location link).listener = routedListener link := by
  rw [routedElement, routedListener]
  cases Route.parse link.target <;> rfl

lemma anchorElementsAll_map_routedElement (location : Location) (links : List NavLink) :
    Html.anchorElementsAll (links.map (routedElement location)) =
      links.map (routedElement location) := by
  induction links with
  | nil => simp
  | cons link links ih => simp [ih]

/-! ### Sessions that walks are taken in -/

/-- The links that a scene shows wherever it is, if its bar is made by the routed builder. -/
def Scene.links : Scene → List NavLink
  | .app => navLinks
  | .linkList _ links => links
  | .barList _ _ => []

/-- The session with its history exchanged, and with it the page that is shown. -/
def Session.withHistory (s : Session) (h : History) : Session :=
  { s with history := h, root := s.root.arrive h.current }

/-- Wherever a history stands, a session shows some links under a router. -/
inductive Session.Shows (m : Session) (h : History) : List NavLink → Prop where
  | row {links : List NavLink} (hroot : m.root = .linkList true links) : m.Shows h links
  | app {r : Route} (hroot : m.root = .app (.page (.built .routed) r)) (hroutes : h.OnRoutes) :
      m.Shows h navLinks

section

variable {m : Session} {h : History} {links : List NavLink}

lemma Session.withHistory_eq_self (hhistory : m.history = h)
    (hroot : m.root.arrive h.current = m.root) : m.withHistory h = m := by
  rw [Session.withHistory, hroot, ← hhistory]

/-- On routes only, the app shows a page wherever its history stands. -/
lemma Session.root_withHistory_of_app {r : Route}
    (hroot : m.root = .app (.page (.built .routed) r)) (hroutes : h.OnRoutes) :
    ∃ q, (m.withHistory h).root = .app (.page (.built .routed) q) := by
  obtain ⟨q, hq⟩ := hroutes h.current List.mem_cons_self
  refine ⟨q, ?_⟩
  rw [Session.withHistory, hroot, Root.arrive, Screen.arrive, hq]

lemma Session.Shows.isCrashed (hm : m.Shows h links) : (m.withHistory h).isCrashed = false := by
  rw [Session.isCrashed]
  cases hm with
  | row hroot =>
    rw [Session.withHistory, hroot]
    rfl
  | app hroot hroutes =>
    obtain ⟨q, hq⟩ := Session.root_withHistory_of_app hroot hroutes
    rw [hq]
    rfl

lemma Session.Shows.hasRouter (hm : m.Shows h links) :
    (m.withHistory h).root.hasRouter = true := by
  rw [Session.withHistory, Root.hasRouter_arrive]
  cases hm with
  | row hroot => rw [hroot]; rfl
  | app hroot _ => rw [hroot]; rfl

/-- On a walk, the anchors are those of the links, in order. -/
lemma Session.Shows.anchorElements (hm : m.Shows h links) :
    Html.anchorElementsAll (m.withHistory h).document =
      links.map (routedElement ⟨m.base, h.current⟩) := by
  cases hm with
  | row hroot =>
    have hrow : (m.withHistory h).IsRow m.base links :=
      ⟨by rw [Session.withHistory, hroot]; rfl, rfl⟩
    rw [hrow.document]
    exact anchorElementsAll_map_routedElement _ links
  | app hroot hroutes =>
    have hhome : Route.parse NavLink.home.target = .ok .home := Route.parse_path .home
    have hchat : Route.parse NavLink.chat.target = .ok .chat := Route.parse_path .chat
    obtain ⟨q, hq⟩ := Session.root_withHistory_of_app hroot hroutes
    have hdocument : (m.withHistory h).document = appDocument ⟨m.base, h.current⟩ q := by
      rw [← document_page, Session.document, Session.location, hq]
      rfl
    rw [hdocument, navLinks, List.map_cons, List.map_singleton, routedElement_of_ok hhome,
      routedElement_of_ok hchat]
    simp [appDocument, routerAnchor, NavLink.home, NavLink.chat]

/-- Moving leads to the same session at another place of its history. -/
lemma Session.Shows.go (hm : m.Shows h links) (move : Move) :
    (m.withHistory h).go move = m.withHistory (h.move move) := by
  rw [Session.go, Session.withHistory, Session.withHistory, Session.mk.injEq]
  refine ⟨rfl, rfl, rfl, rfl, rfl, rfl, ?_⟩
  cases hm with
  | row hroot =>
    rw [hroot]
    rfl
  | app hroot hroutes =>
    obtain ⟨q, hq⟩ := hroutes h.current List.mem_cons_self
    rw [hroot, Root.arrive, Screen.arrive, hq]
    rfl

/-- A move that keeps to routes leads to a place where the same links are shown. -/
lemma Session.Shows.move (hm : m.Shows h links) {move : Move}
    (hmove : (Step.router (.go move)).KeepsToRoutes) : m.Shows (h.move move) links := by
  cases hm with
  | row hroot => exact .row hroot
  | app hroot hroutes =>
    refine .app hroot fun path hpath => ?_
    obtain rfl | rfl | hpath := History.mem_paths_move hpath
    · exact hmove
    · exact hmove
    · exact hroutes path hpath

end

/-! ### Walks -/

def Trail.place (t : Trail) : String × Bool × Bool := (t.current, t.canGoBack, t.canGoForward)

def Snapshot.place (snap : Snapshot) : String × Bool × Bool :=
  (snap.path, snap.canGoBack, snap.canGoForward)

lemma Session.place_snapshot (s : Session) (trace : Trace) (outcome : Outcome) :
    (s.snapshot trace outcome).place = s.history.trail.place := by
  simp [Session.snapshot, Snapshot.place, Trail.place]

/-- A step of a walk, and the move that it makes: a plain click on an anchor that is not marked and
shows a link to a route, or a step back or forward. -/
inductive Session.Goes (s : Session) (links : List NavLink) : Step → Move → Prop where
  | follow {c : Click} {link : NavLink} {r : Route} {element : Html Action}
      (hplain : c.isPlain = true) (hevent : c.event = clickEvent)
      (hlink : links[c.anchor]? = some link) (hroute : Route.parse link.target = .ok r)
      (helement : (Html.anchorElementsAll s.document)[c.anchor]? = some element)
      (hmark : element.isMarked = false) : s.Goes links (.click c) (.push r.path)
  | back : s.Goes links (.router (.go .back)) .back
  | forward : s.Goes links (.router (.go .forward)) .forward

/-- Steps that make up a walk from the mount, and the moves that they make. -/
inductive Setup.Walk (setup : Setup) : List Step → List Move → Prop where
  | mount : setup.Walk [] []
  | step {steps : List Step} {moves : List Move} (h : setup.Walk steps moves) {step : Step}
      {move : Move} (hstep : (setup.after steps).Goes setup.scene.links step move) :
      setup.Walk (steps ++ [step]) (moves ++ [move])

section

variable {m : Session} {h : History} {links : List NavLink}

/-- A step of a walk makes its move, in the session and in the trail. -/
lemma Session.Shows.step (hm : m.Shows h links) {step : Step} {move : Move}
    (hstep : (m.withHistory h).Goes links step move) :
    ((m.withHistory h).step step).session = m.withHistory (h.move move) ∧
      m.Shows (h.move move) links ∧ (h.move move).trail = h.trail.move move := by
  cases hstep with
  | @follow c link r element hplain hevent hlink hroute helement hmark =>
    have hlistener : (Html.anchorsAll (m.withHistory h).document)[c.anchor]? =
        some (some (.visit r.path)) := by
      rw [Html.anchorsAll_eq_map, hm.anchorElements, List.getElem?_map, List.getElem?_map, hlink,
        Option.map_some, Option.map_some, listener_routedElement, routedListener, hroute]
    -- an anchor without a mark leads to another path, so that the visit is a push on the trail too
    have hpath : h.current ≠ r.path := by
      rw [hm.anchorElements, List.getElem?_map, hlink, Option.map_some, Option.some.injEq,
        routedElement_of_ok hroute] at helement
      rw [← helement] at hmark
      intro hcurrent
      rw [(isMarked_routerAnchor_iff _ r _).mpr hcurrent] at hmark
      cases hmark
    refine ⟨?_, hm.move ⟨r, Route.parse_path r⟩, History.trail_move ?_⟩
    · rw [Session.step, Session.click_of_visit hlistener hplain hevent]
      exact hm.go _
    · intro hmove
      exact hpath (Move.push.inj hmove).symm
  | back =>
    refine ⟨?_, hm.move trivial, h.trail_back⟩
    rw [Session.step, if_pos hm.hasRouter]
    exact hm.go .back
  | forward =>
    refine ⟨?_, hm.move trivial, h.trail_forward⟩
    rw [Session.step, if_pos hm.hasRouter]
    exact hm.go .forward

end

/-- A session that walks can be taken in: a row of links under a router, or the app with its own
builder on a path that leads to a route. -/
inductive Setup.HasWalks (setup : Setup) : Prop where
  | row {links : List NavLink} (hscene : setup.scene = .linkList true links)
  | app {r : Route} (hscene : setup.scene = .app)
      (hbuilders : ∀ b ∈ setup.builders.head?, b = .routed)
      (hpath : Route.parse setup.path = .ok r)

section

variable {setup : Setup} (hsetup : setup.HasWalks)

include hsetup

/-- The links of the scene are shown at the mount. -/
lemma Setup.HasWalks.shows_mount :
    setup.mount.1.withHistory (.start setup.path) = setup.mount.1 ∧
      setup.mount.1.Shows (.start setup.path) setup.scene.links := by
  cases hsetup with
  | @row links hscene =>
    have hroot := (Setup.root_mount_of_linkList hscene).1
    have hhistory := Setup.history_mount_of_linkList hscene
    refine ⟨Session.withHistory_eq_self hhistory (by rw [hroot]; rfl), ?_⟩
    rw [hscene]
    exact .row hroot
  | @app r hscene hbuilders hpath =>
    have hroot : setup.mount.1.root = .app (.page (.built .routed) r) := by
      rw [Setup.root_mount_of_app hscene hpath, Setup.appBuilder_eq_routed hbuilders]
    refine ⟨Session.withHistory_eq_self (setup.history_mount hscene) ?_, ?_⟩
    · have hcurrent : Route.parse (History.start setup.path).current = .ok r := hpath
      rw [hroot, Root.arrive, Screen.arrive, hcurrent]
    · rw [hscene]
      exact .app hroot (History.onRoutes_start hpath)

/-- Wherever a walk has come to, the session is that of the mount with another history, and the
trail of that history is the one of the moves. -/
lemma Setup.HasWalks.exists_history {steps : List Step} {moves : List Move}
    (h : setup.Walk steps moves) : ∃ history : History,
      setup.after steps = setup.mount.1.withHistory history ∧
      setup.mount.1.Shows history setup.scene.links ∧
      history.trail = moves.foldl Trail.move (.start setup.path) := by
  obtain ⟨hmount, hshows⟩ := hsetup.shows_mount
  induction h with
  | mount => exact ⟨_, hmount.symm, hshows, rfl⟩
  | step h hstep ih =>
    obtain ⟨history, hafter, hshows, htrail⟩ := ih
    rw [hafter] at hstep
    obtain ⟨hsession, hnext, hmove⟩ := hshows.step hstep
    refine ⟨_, ?_, hnext, ?_⟩
    · rw [Setup.after_concat (hafter ▸ hshows.isCrashed), hafter, hsession]
    · rw [hmove, htrail, List.foldl_concat]

/-- What is shown depends on the current path alone. -/
lemma Setup.HasWalks.html_eq {steps steps' : List Step} {moves moves' : List Move}
    (h : setup.Walk steps moves) (h' : setup.Walk steps' moves')
    (hpath : (setup.after steps).history.current = (setup.after steps').history.current)
    (trace trace' : Trace) (outcome outcome' : Outcome) :
    ((setup.after steps).snapshot trace outcome).html =
      ((setup.after steps').snapshot trace' outcome').html := by
  obtain ⟨history, hafter, -, -⟩ := hsetup.exists_history h
  obtain ⟨history', hafter', -, -⟩ := hsetup.exists_history h'
  rw [hafter, hafter'] at hpath ⊢
  have hagrees :
      (setup.mount.1.withHistory history).Agrees (setup.mount.1.withHistory history') :=
    ⟨congrArg setup.mount.1.root.arrive hpath, rfl, hpath⟩
  exact hagrees.html_snapshot trace trace' outcome outcome'

/-- A plain click on a link to a route goes on with a walk, unless the link leads to the current
path. -/
lemma Setup.HasWalks.follow {steps : List Step} {moves : List Move} (h : setup.Walk steps moves)
    {c : Click} {link : NavLink} {r : Route} (hplain : c.isPlain = true)
    (hevent : c.event = clickEvent) (hlink : setup.scene.links[c.anchor]? = some link)
    (hroute : Route.parse link.target = .ok r)
    (hpath : (moves.foldl Trail.move (.start setup.path)).current ≠ r.path) :
    setup.Walk (steps ++ [.click c]) (moves ++ [.push r.path]) := by
  obtain ⟨history, hafter, hshows, htrail⟩ := hsetup.exists_history h
  rw [← htrail, History.current_trail] at hpath
  have helement : (Html.anchorElementsAll (setup.after steps).document)[c.anchor]? =
      some (routerAnchor ⟨setup.mount.1.base, history.current⟩ r link.label) := by
    rw [hafter, hshows.anchorElements, List.getElem?_map, hlink, Option.map_some,
      routedElement_of_ok hroute]
  refine h.step (.follow hplain hevent hlink hroute helement ?_)
  rw [← Bool.not_eq_true, isMarked_routerAnchor_iff]
  exact hpath

/-- After a walk the history stands where the trail does. -/
lemma Setup.HasWalks.place_after {steps : List Step} {moves : List Move}
    (h : setup.Walk steps moves) (trace : Trace) (outcome : Outcome) :
    ((setup.after steps).snapshot trace outcome).place =
      (moves.foldl Trail.move (.start setup.path)).place := by
  obtain ⟨history, hafter, -, htrail⟩ := hsetup.exists_history h
  rw [hafter, Session.place_snapshot, ← htrail]
  rfl

lemma Setup.HasWalks.current_after {steps : List Step} {moves : List Move}
    (h : setup.Walk steps moves) : (setup.after steps).history.current =
      (moves.foldl Trail.move (.start setup.path)).current :=
  congrArg Prod.fst (hsetup.place_after h .empty .done)

/-- The records of a walk go through the places of the trail. -/
lemma Setup.HasWalks.map_place_record {steps : List Step} {moves : List Move}
    (h : setup.Walk steps moves) :
    (setup.record steps).map Snapshot.place =
      (moves.scanl Trail.move (.start setup.path)).map Trail.place := by
  induction h with
  | mount => exact congrArg ([·]) (hsetup.place_after .mount _ _)
  | @step steps moves h step move hstep ih =>
    obtain ⟨history, hafter, hshows, -⟩ := hsetup.exists_history h
    have hcrash : (setup.after steps).isCrashed = false := by
      rw [hafter]
      exact hshows.isCrashed
    have hplace := hsetup.place_after (h.step hstep)
    rw [Setup.after_concat hcrash, List.foldl_concat] at hplace
    rw [Setup.record_concat hcrash, List.map_append, ih, List.scanl_append, List.map_append]
    exact congrArg (_ ++ [·]) (hplace _ _)

end

section

variable {setup : Setup} {steps : List Step} {moves : List Move}

/-- A walk makes one move with each step. -/
lemma Setup.Walk.length_eq (h : setup.Walk steps moves) : moves.length = steps.length := by
  induction h with
  | mount => rfl
  | step h _ ih => rw [List.length_append, List.length_append, ih]; rfl

/-- Any walk can be followed by steps back. -/
lemma Setup.Walk.back (h : setup.Walk steps moves) (k : Nat) :
    setup.Walk (steps ++ List.replicate k (.router (.go .back)))
      (moves ++ List.replicate k .back) := by
  induction k with
  | zero => simpa using h
  | succ k ih =>
    rw [List.replicate_succ', List.replicate_succ', ← List.append_assoc, ← List.append_assoc]
    exact ih.step .back

lemma Setup.Walk.exists_push (h : setup.Walk steps moves)
    (hsteps : ∀ step ∈ steps, ∃ c, step = .click c) : ∀ m ∈ moves, ∃ path, m = .push path := by
  induction h with
  | mount => simp
  | @step steps moves h step move hstep ih =>
    intro m hm
    rw [List.mem_append, List.mem_singleton] at hm
    obtain hm | rfl := hm
    · exact ih (fun x hx => hsteps x (List.mem_append_left _ hx)) m hm
    · obtain ⟨c, rfl⟩ := hsteps step (by simp)
      cases hstep with
      | follow _ _ _ _ _ _ => exact ⟨_, rfl⟩

end

/-! ### Walks follow trails -/

/-- What is recorded on a walk are the current paths of the trail of its moves, and whether the
cursor of the trail can go back and forward. Going back, where that leads anywhere, and forward
again leads to the same session, and going back as many times as links were followed from the mount
shows what the mount showed. -/
theorem Setup.walks_follow_trail {setup : Setup} (hsetup : setup.HasWalks) {steps : List Step}
    {moves : List Move} (hwalk : setup.Walk steps moves) :
    (setup.record steps).map Snapshot.place =
      (moves.scanl Trail.move (.start setup.path)).map Trail.place ∧
    ((setup.after steps).history.canGoBack = true →
      setup.after (steps ++ [.router (.go .back), .router (.go .forward)]) = setup.after steps) ∧
    ((∀ step ∈ steps, ∃ c, step = .click c) →
      let home := setup.after (steps ++ List.replicate steps.length (.router (.go .back)))
      home.history.current = setup.mount.1.history.current ∧
        ∀ trace trace' outcome outcome', (home.snapshot trace outcome).html =
          (setup.mount.1.snapshot trace' outcome').html) := by
  refine ⟨hsetup.map_place_record hwalk, ?_, ?_⟩
  · intro hback
    obtain ⟨history, hafter, hshows, -⟩ := hsetup.exists_history hwalk
    rw [hafter] at hback
    have hthere := hshows.step .back
    have hagain := hthere.2.1.step .forward
    rw [Setup.after_append, hafter, Session.after_cons hshows.isCrashed, hthere.1,
      Session.after_cons hthere.2.1.isCrashed, hagain.1]
    exact congrArg setup.mount.1.withHistory (History.forward_back hback)
  · intro hclicks
    -- the walk is prolonged by the steps back, and the trail tells where these lead
    have hhome : setup.Walk (steps ++ List.replicate steps.length (.router (.go .back)))
        (moves ++ List.replicate moves.length .back) := by
      rw [hwalk.length_eq]
      exact hwalk.back _
    have hmount : setup.mount.1.history.current = setup.path := hsetup.current_after .mount
    have hpath := hsetup.current_after hhome
    rw [Trail.current_foldl_back_foldl_push (hwalk.exists_push hclicks), ← hmount] at hpath
    exact ⟨hpath, hsetup.html_eq hhome .mount hpath⟩

/-- From the chat page under a query, where no link is marked, to the chat page, to the home page,
and back. -/
theorem Setup.walks_follow_trail_of_query :
    ∃ setup : Setup, setup.scene = .app ∧ setup.path = "/chat?x" ∧ setup.builders = [] ∧
      (setup.record [.click ⟨1, .primary, [], "click"⟩, .click ⟨0, .primary, [], "click"⟩,
        .router (.go .back)]).map Snapshot.place =
          [("/chat?x", false, false), ("/chat", true, false), ("/", true, false),
            ("/chat", true, true)] ∧
      ∀ trace outcome, ((setup.after ([.click ⟨1, .primary, [], "click"⟩,
        .click ⟨0, .primary, [], "click"⟩] ++ List.replicate 2 (.router (.go .back)))).snapshot
          trace outcome).html = (setup.mount.1.snapshot trace outcome).html := by
  let setup : Setup := ⟨"/chat?x", "/docs", false, some "root", [], .app⟩
  have hsetup : setup.HasWalks := .app rfl (by simp [setup]) parse_chat_query
  have hchat : setup.Walk ([] ++ [.click ⟨1, .primary, [], "click"⟩])
      ([] ++ [.push Route.chat.path]) :=
    hsetup.follow .mount rfl rfl (rfl : navLinks[1]? = some .chat) (Route.parse_path .chat)
      (by decide)
  have hhome : setup.Walk ([.click ⟨1, .primary, [], "click"⟩] ++
      [.click ⟨0, .primary, [], "click"⟩]) ([.push Route.chat.path] ++ [.push Route.home.path]) :=
    hsetup.follow hchat rfl rfl (rfl : navLinks[0]? = some .home) (Route.parse_path .home)
      (by decide)
  obtain ⟨hrecord, -, -⟩ := Setup.walks_follow_trail hsetup (hhome.back 1)
  obtain ⟨-, -, hreturn⟩ := Setup.walks_follow_trail hsetup hhome
  obtain ⟨-, hhtml⟩ := hreturn (by simp)
  exact ⟨setup, rfl, rfl, rfl, hrecord, fun trace outcome => hhtml trace trace outcome outcome⟩

end SiteNav
