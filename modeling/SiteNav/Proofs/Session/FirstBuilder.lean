import SiteNav.Proofs.Session.App
import SiteNav.Proofs.Session.BarList
import SiteNav.Proofs.Session.Listener

/-!
# The first builder stays

Of all registrations of a run only the first one counts: the bars that run afterwards are made by
that builder, and every other registration is reported and otherwise forgotten. The app registers a
builder before it shows a bar, so that its bars never show anchors of their own, and no link that it
hands over is meant for the navigator at the root.
-/

namespace SiteNav

/-! ### Late registrations -/

/-- An entry of the log reports that a registration came too late. -/
def LogEntry.reportsLate (entry : LogEntry) : Bool :=
  entry.level = .trace && entry.message = "nav builder already registered"

lemma LogEntry.reportsLate_eq (entry : LogEntry) :
    entry.reportsLate = decide (entry = .lateRegistration) := by
  cases entry with
  | barRun => decide
  | lateRegistration => decide
  | intent link => rfl
  | unroutable target error => rfl

/-- Reports of late registrations are told from all other entries by level and text. -/
lemma countP_reportsLate (logs : List LogEntry) :
    logs.countP LogEntry.reportsLate = (logs.filter (· = .lateRegistration)).length := by
  rw [List.countP_eq_length_filter]
  congr
  funext entry
  exact entry.reportsLate_eq

section

variable {s : Session} {b : Builder}

/-- Once a builder is registered, registering leaves reports and nothing else. -/
lemma Session.register_of_some (h : s.registry.builder = some b) (cs : List Builder) :
    s.register cs = (s, ⟨[], [], [], List.replicate cs.length .lateRegistration⟩) := by
  have hregistry : s.registry = ⟨some b⟩ := by
    cases hs : s.registry
    rw [hs] at h
    exact congrArg Registry.mk h
  rw [Session.register, hregistry, Registry.registerAll_some, ← hregistry]
  rfl

/-- A registered builder outlasts every run. -/
lemma Session.builder_after_of_some (h : s.registry.builder = some b) (steps : List Step) :
    (s.after steps).registry.builder = some b := by
  rw [(s.registers_after steps).registry_eq, Registry.builder_registerAll, h, Option.some_or]

end

/-! ### Bars of the app -/

section

variable {s : Session} {base : String} {b : Builder}

/-- The bar of the app is made by the registered builder. -/
lemma Session.IsApp.eq_of_mem_barLinks (h : s.IsApp base b) {links : BarLinks}
    (hlinks : links ∈ s.root.barLinks) : links = .built b := by
  obtain ⟨screen, hroot, hfollows⟩ := h.follows
  rw [hroot] at hlinks
  cases screen with
  | page bar r =>
    rw [Root.barLinks, List.mem_singleton] at hlinks
    rw [hlinks]
    exact hfollows.1
  | failure => cases hlinks
  | crashed => cases hlinks

lemma Session.IsApp.offering_notMem_barLinks (h : s.IsApp base b) (navigator : Option String) :
    .offering navigator ∉ s.root.barLinks := by
  intro hshown
  cases h.eq_of_mem_barLinks hshown

/-- No anchor of the app offers itself to a navigator. -/
lemma Session.IsApp.offer_notMem_anchors (h : s.IsApp base b) (link : NavLink)
    (navigator : Option String) : some (.offer link navigator) ∉ s.anchors := by
  intro hanchor
  cases Session.listens_of_mem_anchors hanchor with
  | offer hshown _ => exact h.offering_notMem_barLinks navigator hshown

/-- What the app hands over goes to the navigator of an active builder. -/
lemma Session.IsApp.intent_of_handsOver (h : s.IsApp base b) {trace : Trace}
    (htrace : trace.HandsOver s.root.barLinks) {intent : Intent}
    (hintent : intent ∈ trace.intents) : b = .active ∧ intent.navigator = builderNavigator := by
  cases htrace with
  | offer hshown _ => exact absurd hshown (h.offering_notMem_barLinks _)
  | announce hshown _ =>
    have hactive := h.eq_of_mem_barLinks hshown
    rw [List.mem_singleton.mp hintent]
    exact ⟨(BarLinks.built.inj hactive).symm, rfl⟩

end

/-- Whatever the app hands over is meant for the builder's navigator. -/
lemma Setup.intent_of_mem_record {setup : Setup} (hscene : setup.scene = .app)
    {steps : List Step} {snap : Snapshot} (hsnap : snap ∈ setup.record steps) {intent : Intent}
    (hintent : intent ∈ snap.trace.intents) :
    setup.appBuilder = .active ∧ intent.navigator = builderNavigator := by
  obtain rfl | ⟨p, step, -, -, rfl⟩ := Setup.exists_step_of_mem_record hsnap
  · rw [Session.snapshot, setup.silent_mount.intents_eq] at hintent
    cases hintent
  · have happ := (setup.reaches_after p).isApp hscene
    obtain hstep | hstep := (setup.after p).silent_step_or step
    · rw [Answer.snapshot, Session.snapshot, hstep.intents_eq] at hintent
      cases hintent
    · exact happ.intent_of_handsOver hstep hintent

/-! ### What a builder makes of a bar -/

/-- A bar is shown as a builder makes it, or with anchors of its own where there is no builder. -/
def ShowsBuilder (location : Option Location) : Option Builder → Html Action → Prop
  | some b, html => html = builtBar location b
  | none, html => ∃ navigator, html = offeringBar navigator

/-- Nothing but the builder that a bar has found decides how the bar is shown. -/
lemma BarLinks.showsBuilder (location : Option Location) (links : BarLinks) :
    ShowsBuilder location links.builder? (links.html location) := by
  cases links with
  | offering navigator => exact ⟨navigator, BarLinks.html_offering location navigator⟩
  | built b => exact BarLinks.html_built location b

/-- What the app shows is the bar that its builder makes, and the page below it. -/
lemma Session.IsApp.document_eq_builtBar {s : Session} {base : String} {b : Builder}
    (h : s.IsApp base b) {links : BarLinks} {r : Route} (hroot : s.root = .app (.page links r)) :
    s.document = [builtBar s.location b, r.page] := by
  have hlinks : links = .built b := h.eq_of_mem_barLinks (by rw [hroot]; exact List.mem_cons_self)
  rw [Session.document, hroot, Root.document, Screen.document, hlinks, BarLinks.html_built]

/-- What bars side by side show is the bars in order, and nothing else. -/
lemma Session.HasBars.document_eq {s : Session} {routed : Bool} {bars : List Bar} {nextId : Nat}
    (h : s.HasBars routed bars nextId) :
    s.document = s.root.bars.map fun b => b.links.html s.location := by
  rw [Session.document, h.bars_eq, h.root_eq, Root.document]

/-! ### The first builder stays -/

/-- The builder that is registered first stays registered for the rest of the run. Any later
registration leaves one report in the log and changes nothing, so that a run has one report for each
registration but the first. The document of bars side by side is that of the bars in order, and a
bar that runs is shown as the first of the builders makes it that have been registered by then, or
with its own anchors if there is none. The app always finds a builder registered and shows a bar as
that builder makes it above its page, so that it never shows such anchors and hands links over to
the builder's navigator only. -/
theorem Setup.first_builder_stays (setup : Setup) (steps : List Step) :
    (setup.after steps).registry.builder = (setup.registrations (setup.taken steps)).head? ∧
    (∀ b, (setup.after steps).registry.builder = some b →
      (∀ more, (setup.after (steps ++ more)).registry.builder = some b) ∧
      (∀ c, (setup.after steps).step (.register c) =
        ⟨setup.after steps, ⟨[], [], [], [.lateRegistration]⟩, .done⟩) ∧
      (setup.scene = .app → (setup.after steps).step (.rerun none) =
        ⟨setup.after steps, ⟨[], [], [], [.lateRegistration]⟩, .done⟩)) ∧
    ((setup.record steps).flatMap (·.trace.logs)).countP LogEntry.reportsLate =
      (setup.registrations (setup.taken steps)).length - 1 ∧
    (∀ routed navigators, setup.scene = .barList routed navigators →
      (setup.after steps).document = (setup.after steps).root.bars.map
        (fun b => b.links.html (setup.after steps).location) ∧
      ∀ b ∈ (setup.after steps).root.bars, RunsAtEnd navigators.length steps b.id →
        b.links.builder? = (setup.registrations steps).head? ∧
        ShowsBuilder (setup.after steps).location (setup.registrations steps).head?
          (b.links.html (setup.after steps).location)) ∧
    (setup.scene = .app →
      (setup.after steps).registry.builder = some setup.appBuilder ∧
      (∀ links ∈ (setup.after steps).root.barLinks, links = .built setup.appBuilder) ∧
      (∀ links r, (setup.after steps).root = .app (.page links r) →
        (setup.after steps).document =
          [builtBar (setup.after steps).location setup.appBuilder, r.page]) ∧
      (∀ link navigator, some (.offer link navigator) ∉ (setup.after steps).anchors) ∧
      ∀ snap ∈ setup.record steps, ∀ intent ∈ snap.trace.intents,
        setup.appBuilder = .active ∧ intent.navigator = builderNavigator) := by
  refine ⟨setup.builder_after steps, fun b hb => ⟨fun more => ?_, fun c => ?_, fun hscene => ?_⟩,
    ?_, fun routed navigators hscene => ⟨?_, fun b hb hruns => ?_⟩, fun hscene => ?_⟩
  · rw [setup.after_append]
    exact Session.builder_after_of_some hb more
  · rw [Session.step, Session.register_of_some hb]
    rfl
  · obtain ⟨screen, hroot, -⟩ := ((setup.reaches_after steps).isApp hscene).follows
    rw [Session.step, Session.rerunRoot, hroot, Session.register_of_some hb]
    rfl
  · have hlate := (setup.registers_after steps).late_eq
    change _ = (Registry.empty.registerAll _).2 at hlate
    rw [countP_reportsLate, hlate, Registry.registerAll_empty, List.length_replicate]
  · obtain ⟨bars, hbars⟩ := setup.hasBars_after hscene steps
    exact hbars.document_eq
  · -- a bar that runs at the end has its last run there, and has found the first builder of all
    obtain ⟨p, q, rfl, hp, hq, hbuilder⟩ := Setup.exists_lastRun hscene hb
    rw [hp.eq_nil_of_append hq hruns, List.append_nil, ← hbuilder]
    exact ⟨rfl, b.links.showsBuilder _⟩
  · have happ := (setup.reaches_after steps).isApp hscene
    exact ⟨happ.builder_eq, fun links hlinks => happ.eq_of_mem_barLinks hlinks,
      fun links r hroot => happ.document_eq_builtBar hroot, happ.offer_notMem_anchors,
      fun snap hsnap intent hintent => Setup.intent_of_mem_record hscene hsnap hintent⟩

/-- The app comes too late with its own builder, twice, and so does another one in between. A bar
that runs again after two builders have come shows the first one of them. -/
theorem Setup.first_builder_stays_of_active :
    ∃ setup row : Setup, setup.scene = .app ∧ setup.navigator = some "root" ∧
      setup.builders = [.active] ∧
      (setup.after [.register .span, .rerun none]).root.barLinks = [.built .active] ∧
      (setup.after [.register .span, .rerun none]).document =
        [builtBar (setup.after [.register .span, .rerun none]).location .active,
          Route.home.page] ∧
      ((setup.record [.register .span, .rerun none]).flatMap
        (·.trace.logs)).countP LogEntry.reportsLate = 3 ∧
      (∀ link navigator, some (.offer link navigator) ∉
        (setup.after [.register .span, .rerun none]).anchors) ∧
      row.scene = .barList false [none] ∧ row.builders = [] ∧
      (row.after [.register .active, .register .span, .rerun (some 0)]).document =
        [builtBar none .active] := by
  let setup : Setup := ⟨"/", "", false, some "root", [.active], .app⟩
  let row : Setup := ⟨"/", "", false, none, [], .barList false [none]⟩
  let late : List Step := [.register .active, .register .span, .rerun (some 0)]
  let bar : Bar := ⟨0, none, .built .active⟩
  have hrow : row.scene = .barList false [none] := rfl
  have hbar : (row.after late).root.bars = [bar] := rfl
  have hruns : RunsAtEnd 1 ([.register .active, .register .span] ++ [.rerun (some 0)]) bar.id :=
    .rerun Nat.zero_lt_one rfl
  obtain ⟨-, -, hcount, -, happ⟩ := setup.first_builder_stays [.register .span, .rerun none]
  obtain ⟨-, -, hdocument, hanchors, -⟩ := happ rfl
  obtain ⟨-, -, -, hbars, -⟩ := row.first_builder_stays late
  obtain ⟨hshown, hbuilder⟩ := hbars false [none] hrow
  obtain ⟨-, hmade⟩ := hbuilder bar (hbar ▸ List.mem_cons_self) hruns
  refine ⟨setup, row, rfl, rfl, rfl, ?_, hdocument (.built .active) .home ?_, hcount.trans ?_,
    hanchors, hrow, rfl, ?_⟩
  · decide
  · decide
  · decide
  · rw [hshown, hbar]
    exact congrArg (fun html => [html]) hmade

end SiteNav
