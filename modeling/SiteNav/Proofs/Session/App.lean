import SiteNav.Proofs.Anchor
import SiteNav.Proofs.Route.Language
import SiteNav.Proofs.Session.Registration

/-!
# The app keeps in step with its path

The bar, the page and the marks of the app change by different means: a move through the history
exchanges the page, the marks follow the path by themselves, and the bar stays as it was mounted
until the failure page gives way to a new one. All the same, whatever a run has come to, the page is
that of the route to which the current path leads, and the bar is the one that the registered
builder makes.
-/

namespace SiteNav

/-! ### Registration -/

/-- A registered builder outlasts all registrations. -/
lemma Session.builder_register {s : Session} {b : Builder} (h : s.registry.builder = some b)
    (bs : List Builder) : (s.register bs).1.registry.builder = some b := by
  change (s.registry.registerAll bs).1.builder = some b
  rw [Registry.builder_registerAll, h, Option.some_or]

/-! ### The invariant -/

/-- How a screen keeps in step with the current path: the bar is made by the registered builder, and
the page is that of the route to which the path leads. -/
def Screen.Follows (b : Builder) (path : String) : Screen → Prop
  | .page bar r => bar = .built b ∧ Route.parse path = .ok r
  | .failure | .crashed => True

/-- A session whose root is the app, with a builder registered and a screen in step. -/
structure Session.IsApp (s : Session) (base : String) (b : Builder) : Prop where
  base_eq : s.base = base
  builder_eq : s.registry.builder = some b
  follows : ∃ screen, s.root = .app screen ∧ screen.Follows b s.history.current

section

variable {s t : Session} {base : String} {b : Builder}

lemma Session.IsApp.isBarList (h : s.IsApp base b) : s.root.isBarList = false := by
  obtain ⟨screen, hroot, _⟩ := h.follows
  rw [hroot]
  rfl

/-- Coming to another path exchanges the page, or crashes. -/
lemma Screen.Follows.arrive {screen : Screen} {path : String} (h : screen.Follows b path)
    (next : String) : (screen.arrive next).Follows b next := by
  cases screen with
  | page bar r =>
    rw [Screen.arrive]
    split
    · exact ⟨h.1, ‹_›⟩
    · trivial
  | failure => trivial
  | crashed => trivial

/-- Moves keep the bar and exchange the page. -/
lemma Session.IsApp.go (h : s.IsApp base b) (m : Move) : (s.go m).IsApp base b := by
  obtain ⟨screen, hroot, hfollows⟩ := h.follows
  refine ⟨h.base_eq, h.builder_eq, screen.arrive (s.history.move m).current, ?_, ?_⟩
  · rw [Session.go, hroot]
    rfl
  · exact hfollows.arrive _

/-- A visit to an external address keeps the page, or puts the failure page in its place. -/
lemma Session.IsApp.leave (h : s.IsApp base b) (url : String) : (s.leave url).1.IsApp base b := by
  rw [Session.leave]
  split
  · exact h
  · obtain ⟨screen, hroot, _⟩ := h.follows
    cases screen with
    | crashed => exact ⟨h.base_eq, h.builder_eq, .crashed, by rw [hroot]; rfl, trivial⟩
    | page _ _ => exact ⟨h.base_eq, h.builder_eq, .failure, by rw [hroot]; rfl, trivial⟩
    | failure => exact ⟨h.base_eq, h.builder_eq, .failure, by rw [hroot]; rfl, trivial⟩

/-- Opening the page mounts a bar of the registered builder, since one is registered by then. -/
lemma Session.isApp_openPage (hbase : s.base = base) (hb : s.registry.builder = some b) :
    s.openPage.1.IsApp base b := by
  rw [Session.openPage]
  split
  · exact ⟨hbase, hb, .crashed, rfl, trivial⟩
  · rename_i r hr
    refine ⟨hbase, hb, .page (BarLinks.mount s.registry s.navigator) r, rfl, ?_, hr⟩
    rw [BarLinks.mount, hb]

lemma Session.IsApp.register (h : s.IsApp base b) (bs : List Builder) :
    (s.register bs).1.IsApp base b :=
  ⟨h.base_eq, Session.builder_register h.builder_eq bs, h.follows⟩

/-- Nothing that a step can do brings the app out of step. -/
lemma Session.IsApp.change (h : s.IsApp base b) {trace : Trace} (hc : s.Change t trace) :
    t.IsApp base b := by
  cases hc with
  | keep => exact h
  | activate _ => exact h
  | visit _ => exact h.go _
  | go m _ => exact h.go m
  | leave url _ => exact h.leave url
  | recover _ => exact Session.isApp_openPage h.base_eq h.builder_eq
  | register c => exact h.register [c]
  | rerun =>
    obtain ⟨screen, hroot, _⟩ := h.follows
    rw [Session.rerunRoot, hroot]
    exact h.register [.routed]
  | setNavigator navigator => exact ⟨h.base_eq, h.builder_eq, h.follows⟩

end

/-- The builder that makes the bar of the app: the first one that was registered before, or else its
own. -/
def Setup.appBuilder (setup : Setup) : Builder := setup.builders.head?.getD .routed

lemma Setup.appBuilder_eq_routed {setup : Setup}
    (h : ∀ b ∈ setup.builders.head?, b = .routed) : setup.appBuilder = .routed := by
  rw [Setup.appBuilder]
  cases hb : setup.builders.head? with
  | none => rfl
  | some b => exact h b hb

/-- The invariant holds of every session that a run of the app comes to. -/
lemma Setup.Reaches.isApp {setup : Setup} (hscene : setup.scene = .app) {s : Session}
    (h : setup.Reaches s) : s.IsApp setup.base setup.appBuilder := by
  induction h with
  | mount =>
    rw [Setup.mount, hscene]
    refine Session.isApp_openPage rfl ?_
    -- the app registers its own builder behind those that were registered before
    change ((Registry.empty.registerAll setup.builders).1.registerAll [.routed]).1.builder = _
    rw [Registry.builder_registerAll, Registry.builder_registerAll, Setup.appBuilder]
    cases setup.builders.head? <;> rfl
  | step _ _ step ih => exact ih.change (Session.change_step ih.isBarList step)

/-! ### The document of the app -/

/-- The app as it is shown: the bar with its two anchors, and below it the page of a route. -/
def appDocument (location : Location) (r : Route) : Document :=
  [.element "nav" [("id", "navbar"), ("class", "navbar")] none
    [routerAnchor location .home "Home", routerAnchor location .chat "Chat"], r.page]

def barText (base path : String) : String :=
  "<nav id=\"navbar\" class=\"navbar\">" ++
    "<a href=\"" ++ base ++ "/\" class=\"navbar__link\"" ++ markText path .home ++ ">Home</a>" ++
    "<a href=\"" ++ base ++ "/chat\" class=\"navbar__link\"" ++ markText path .chat ++
    ">Chat</a></nav>"

/-- The routed builder makes the two links of the bar into anchors of the router. -/
lemma builtBar_routed (location : Location) :
    builtBar (some location) .routed = .element "nav" [("id", "navbar"), ("class", "navbar")] none
      [routerAnchor location .home "Home", routerAnchor location .chat "Chat"] := by
  have hhome : Route.parse NavLink.home.target = .ok .home := Route.parse_path .home
  have hchat : Route.parse NavLink.chat.target = .ok .chat := Route.parse_path .chat
  rw [builtBar, Builder.link, Builder.link, routedLink_of_ok hhome, routedLink_of_ok hchat]
  rfl

/-- The document of a page with a bar of the routed builder. -/
lemma document_page (location : Location) (r : Route) :
    (Screen.page (.built .routed) r).document (some location) = appDocument location r := by
  rw [Screen.document, BarLinks.html_built, builtBar_routed, appDocument]

/-- The page of a route, as text. -/
def pageText : Route → String
  | .home =>
    "<section class=\"page page-home\"><h1>Document chat</h1>" ++
      "<p>Open the Chat page to start a conversation.</p></section>"
  | .chat => "<section class=\"page page-chat\"><h1>Chat</h1></section>"

/-- Of the pages nothing is left open: this is their whole markup. -/
lemma Route.render_page (r : Route) : r.page.render = pageText r := by
  cases r with
  | home => decide +kernel
  | chat => decide +kernel

/-- The document of the app as text: that of the bar, and that of the page. -/
lemma renderAll_appDocument (location : Location) (r : Route) :
    Html.renderAll (appDocument location r) =
      barText location.base location.path ++ pageText r := by
  have hhome : escape "Home" = "Home" := by decide
  have hchat : escape "Chat" = "Chat" := by decide
  rw [← Route.render_page]
  unfold appDocument barText
  rw [Html.renderAll_cons, Html.render_element]
  simp only [Html.renderAll_cons, Html.renderAll_nil, render_routerAnchor]
  unfold routerAnchorText
  rw [hhome, hchat, ← String.toList_inj]
  simp [attributesText]

/-- The bar is told apart from the failure page by the element that it begins with. -/
lemma barText_append_ne_failurePage (base path rest : String) :
    barText base path ++ rest ≠ Html.renderAll failurePage := by
  -- both texts are known up to what follows their first element
  have hbar : ∃ t, barText base path ++ rest = "<nav id=\"navbar\" class=\"navbar\">" ++ t := by
    unfold barText
    simp only [String.append_assoc]
    exact ⟨_, rfl⟩
  have hfail : ∃ t, Html.renderAll failurePage = "<h1>" ++ t := by
    rw [failurePage, Html.renderAll_cons, textElement, Html.render_element]
    simp only [String.append_assoc]
    exact ⟨_, rfl⟩
  obtain ⟨t, ht⟩ := hbar
  obtain ⟨u, hu⟩ := hfail
  rw [ht, hu, Ne, ← String.toList_inj]
  simp

/-! ### The app shows the current page -/

/-- A mark can only be on the anchor to the route that the path leads to. -/
lemma eq_of_markText_ne {path : String} {q r : Route} (h : Route.parse path = .ok r)
    (hmark : markText path q ≠ "") : q = r := by
  have hpath : path = q.path := by
    by_contra hne
    exact hmark (if_neg hne)
  rw [hpath, Route.parse_path] at h
  exact Except.ok.inj h

/-- While the app shows a page, it shows the bar above it and nothing else. -/
lemma Session.IsApp.document_of_page {s : Session} {base : String} (h : s.IsApp base .routed)
    {bar : BarLinks} {r : Route} (hroot : s.root = .app (.page bar r)) :
    Route.parse s.history.current = .ok r ∧
      s.document = appDocument ⟨base, s.history.current⟩ r := by
  obtain ⟨screen, hscreen, hfollows⟩ := h.follows
  rw [hroot] at hscreen
  cases hscreen
  obtain ⟨rfl, hr⟩ := hfollows
  refine ⟨hr, ?_⟩
  rw [← document_page, Session.document, Session.location, hroot, h.base_eq]
  rfl

lemma Session.IsApp.html_of_page {s : Session} {base : String} (h : s.IsApp base .routed)
    {bar : BarLinks} {r : Route} (hroot : s.root = .app (.page bar r)) (trace : Trace)
    (outcome : Outcome) :
    (s.snapshot trace outcome).html =
      some (barText base s.history.current ++ pageText r) := by
  have hcrash : s.isCrashed = false := by
    rw [Session.isCrashed, hroot]
    rfl
  simp only [Session.snapshot, hcrash, Bool.false_eq_true, if_false]
  rw [(h.document_of_page hroot).2, renderAll_appDocument]

/-- Whatever is recorded of the app, if it is not the failure page, shows the current page. -/
lemma Session.IsApp.page_of_html {s : Session} {base html : String} (h : s.IsApp base .routed)
    {trace : Trace} {outcome : Outcome} (hhtml : (s.snapshot trace outcome).html = some html)
    (hfail : html ≠ Html.renderAll failurePage) :
    ∃ r, Route.parse s.history.current = .ok r ∧
      s.document = appDocument ⟨base, s.history.current⟩ r ∧
      html = barText base s.history.current ++ pageText r := by
  obtain ⟨screen, hroot, _⟩ := h.follows
  cases screen with
  | page bar r =>
    obtain ⟨hr, hdocument⟩ := h.document_of_page hroot
    rw [h.html_of_page hroot] at hhtml
    exact ⟨r, hr, hdocument, (Option.some.inj hhtml).symm⟩
  | failure =>
    have hdocument : s.document = failurePage := by
      rw [Session.document, hroot]
      rfl
    rw [Session.snapshot, Session.isCrashed, hdocument, hroot] at hhtml
    exact absurd (Option.some.inj hhtml).symm hfail
  | crashed =>
    rw [Session.snapshot, Session.isCrashed, hroot] at hhtml
    cases hhtml

/-- On a path to a route the app opens with the page of that route. -/
lemma Setup.mount_of_app {setup : Setup} (hscene : setup.scene = .app) {r : Route}
    (h : Route.parse setup.path = .ok r) :
    setup.mount.1.history.current = setup.path ∧
      ∃ bar, setup.mount.1.root = .app (.page bar r) := by
  have hopen : ∀ s : Session, s.history.current = setup.path →
      s.openPage.1.history.current = setup.path ∧
        ∃ bar, s.openPage.1.root = .app (.page bar r) := by
    intro s hs
    rw [Session.openPage, hs, h]
    exact ⟨hs, _, rfl⟩
  rw [Setup.mount, hscene]
  exact hopen _ rfl

/-- The bar of the first page is made by the builder that is registered by then. -/
lemma Setup.root_mount_of_app {setup : Setup} (hscene : setup.scene = .app) {r : Route}
    (h : Route.parse setup.path = .ok r) :
    setup.mount.1.root = .app (.page (.built setup.appBuilder) r) := by
  obtain ⟨-, bar, hroot⟩ := Setup.mount_of_app hscene h
  obtain ⟨screen, hscreen, hfollows⟩ := (Setup.Reaches.mount.isApp hscene).follows
  rw [hroot] at hscreen
  cases hscreen
  rw [hroot, hfollows.1]

/-- A path to the chat page that is not the path of its route. -/
lemma parse_chat_query : Route.parse "/chat?x" = .ok .chat := by
  refine Route.parse_eq_chat_iff.mpr ⟨"chat", "", "?x", ?_, by simp, by decide, by decide⟩
  exact ⟨"c", by simp, "h", by simp, "a", by simp, "t", by simp, by decide⟩

/-- A query hides nothing of the page but takes the marks away. -/
lemma Setup.unmarked_bar (base : String) : ∃ setup : Setup, ∃ snap,
    setup.scene = .app ∧ setup.base = base ∧ setup.builders = [] ∧ snap ∈ setup.record [] ∧
      snap.path = "/chat?x" ∧ (∀ q, markText snap.path q = "") ∧
      snap.html = some (barText base snap.path ++ pageText .chat) := by
  let setup : Setup := ⟨"/chat?x", base, false, none, [], .app⟩
  have hscene : setup.scene = .app := rfl
  obtain ⟨hpath, bar, hroot⟩ := Setup.mount_of_app hscene parse_chat_query
  have happ : setup.mount.1.IsApp base .routed := Setup.Reaches.isApp hscene .mount
  refine ⟨setup, setup.mount.1.snapshot setup.mount.2 .done, rfl, rfl, rfl, List.mem_cons_self,
    hpath, ?_, happ.html_of_page hroot _ _⟩
  change ∀ q, markText setup.mount.1.history.current q = ""
  rw [hpath]
  intro q
  cases q <;> rfl

/-- Whenever the app has neither crashed nor failed to leave the site, its path leads to a route, it
shows the bar and the page of that route and nothing else, and a mark can only be on the anchor to
that route; but there need not be one. -/
theorem Setup.app_shows_current_page :
    (∀ (setup : Setup) (steps : List Step) (snap : Snapshot) (html : String),
      setup.scene = .app → (∀ b ∈ setup.builders.head?, b = .routed) →
      snap ∈ setup.record steps → snap.html = some html → html ≠ Html.renderAll failurePage →
      ∃ s r, setup.Reaches s ∧ snap = s.snapshot snap.trace snap.outcome ∧
        Route.parse snap.path = .ok r ∧
        s.document = appDocument ⟨setup.base, snap.path⟩ r ∧
        html = barText setup.base snap.path ++ pageText r ∧
        ∀ q, markText snap.path q ≠ "" → q = r) ∧
    ∀ base, ∃ setup : Setup, ∃ snap,
      setup.scene = .app ∧ setup.base = base ∧ setup.builders = [] ∧ snap ∈ setup.record [] ∧
        snap.path = "/chat?x" ∧ (∀ q, markText snap.path q = "") ∧
        snap.html = some (barText base snap.path ++ pageText .chat) := by
  refine ⟨?_, Setup.unmarked_bar⟩
  intro setup steps snap html hscene hbuilders hsnap hhtml hfail
  obtain ⟨s, trace, outcome, hs, rfl⟩ := Setup.exists_reaches_of_mem_record hsnap
  have happ := hs.isApp hscene
  rw [Setup.appBuilder_eq_routed hbuilders] at happ
  obtain ⟨r, hr, hdocument, hbar⟩ := happ.page_of_html hhtml hfail
  exact ⟨s, r, hs, rfl, hr, hdocument, hbar, fun q => eq_of_markText_ne hr⟩

/-- A push from the chat page under a query to the home page. -/
theorem Setup.app_shows_current_page_of_push :
    ∃ setup : Setup, ∃ snap ∈ setup.record [.router (.go (.push "/"))], ∃ html,
      setup.scene = .app ∧ setup.builders = [] ∧ setup.path = "/chat?x" ∧ snap.path = "/" ∧
        snap.html = some html ∧ html ≠ Html.renderAll failurePage ∧
        ∃ r, Route.parse snap.path = .ok r ∧
          html = barText setup.base snap.path ++ pageText r := by
  let setup : Setup := ⟨"/chat?x", "/docs", false, none, [], .app⟩
  have hscene : setup.scene = .app := rfl
  obtain ⟨-, bar, hroot⟩ := Setup.mount_of_app hscene parse_chat_query
  let s := setup.mount.1.go (.push "/")
  let snap := s.snapshot .empty .done
  have hpage : s.root = .app (.page bar .home) := by
    have hhome : Route.parse "/" = .ok .home := Route.parse_path .home
    change setup.mount.1.root.arrive (setup.mount.1.history.push "/").current = _
    rw [hroot, History.current_push, Root.arrive, Screen.arrive, hhome]
  have hcrash : setup.mount.1.isCrashed = false := by
    rw [Session.isCrashed, hroot]
    rfl
  have hstep : setup.mount.1.step (.router (.go (.push "/"))) = ⟨s, .empty, .done⟩ := by
    rw [Session.step, hroot]
    rfl
  have hreach : setup.Reaches s := by
    have hnext := Setup.Reaches.step .mount hcrash (.router (.go (.push "/")))
    rwa [hstep] at hnext
  have hmem : snap ∈ setup.record [.router (.go (.push "/"))] := by
    rw [Setup.record, Session.run_cons hcrash, hstep]
    exact List.mem_cons_of_mem _ List.mem_cons_self
  have hpath : snap.path = "/" := History.current_push _ _
  have hhtml : snap.html = some (barText "/docs" snap.path ++ pageText .home) :=
    (hreach.isApp hscene).html_of_page hpage _ _
  have hfail := barText_append_ne_failurePage "/docs" snap.path (pageText .home)
  obtain ⟨-, r, -, -, hr, -, hshown, -⟩ :=
    Setup.app_shows_current_page.1 setup _ _ _ hscene (by simp [setup]) hmem hhtml hfail
  exact ⟨setup, snap, hmem, _, rfl, rfl, rfl, hpath, hhtml, hfail, r, hr, hshown⟩

end SiteNav
