import SiteNav.Proofs.Session.LinkReading
import SiteNav.Proofs.Session.Registration
import SiteNav.Route.Print

/-!
# Warnings about links

Each time a row of links runs, it warns about the links whose targets lead to no route, in the order
of the row. Those are the links that it shows as plain anchors, whether or not there is a router.
Nothing else that a session can do writes a warning, so that the warnings of a run are those of one
row, once for each time that the row runs.
-/

namespace SiteNav

/-! ### Lines of the log -/

/-- An entry of the log as it is written. -/
structure LogLine where
  level : Level
  message : String
  fields : List (String × String)
deriving DecidableEq, Repr

def LogEntry.line (entry : LogEntry) : LogLine := ⟨entry.level, entry.message, entry.fields⟩

def Trace.warnings (t : Trace) : List LogLine := (t.logs.map LogEntry.line).filter (·.level = .warn)

@[simp] lemma Trace.warnings_empty : Trace.empty.warnings = [] := rfl

/-- There are no warnings where nothing is logged at that level. -/
lemma Trace.warnings_eq_nil {t : Trace} (h : ∀ entry ∈ t.logs, entry.level ≠ .warn) :
    t.warnings = [] := by
  rw [Trace.warnings, List.filter_eq_nil_iff, List.forall_mem_map]
  intro entry hentry
  rw [decide_eq_true_eq]
  exact h entry hentry

/-! ### The warnings of a row -/

def NavLink.isRoutable (link : NavLink) : Bool :=
  match Route.parse link.target with
  | .ok _ => true
  | .error _ => false

lemma NavLink.isRoutable_of_ok {link : NavLink} {r : Route} (h : Route.parse link.target = .ok r) :
    link.isRoutable = true := by rw [NavLink.isRoutable, h]

lemma NavLink.isRoutable_of_error {link : NavLink} {e : RouteError}
    (h : Route.parse link.target = .error e) : link.isRoutable = false := by
  rw [NavLink.isRoutable, h]

/-- The warning about a link, with the report that is printed for its target. -/
def NavLink.warning (link : NavLink) : LogLine :=
  ⟨.warn, "unroutable nav target: " ++ parsedText link.target, [("path", link.target)]⟩

def linkWarnings (links : List NavLink) : List LogLine :=
  (links.filter (!·.isRoutable)).map NavLink.warning

lemma linkWarnings_cons_of_ok {link : NavLink} {r : Route} (h : Route.parse link.target = .ok r)
    (links : List NavLink) : linkWarnings (link :: links) = linkWarnings links := by
  rw [linkWarnings, List.filter_cons_of_neg (by simp [NavLink.isRoutable_of_ok h]), linkWarnings]

lemma linkWarnings_cons_of_error {link : NavLink} {e : RouteError}
    (h : Route.parse link.target = .error e) (links : List NavLink) :
    linkWarnings (link :: links) = link.warning :: linkWarnings links := by
  rw [linkWarnings, List.filter_cons_of_pos (by simp [NavLink.isRoutable_of_error h]),
    List.map_cons, linkWarnings]

/-- The entry about a target that is no route is written as the warning about its link. -/
lemma line_unroutable {link : NavLink} {e : RouteError} (h : Route.parse link.target = .error e) :
    (LogEntry.unroutable link.target e).line = link.warning := by
  rw [NavLink.warning, parsedText_of_error h]
  rfl

/-- What a run of a row logs is written as the warnings about its links. -/
lemma map_line_routedWarnings (links : List NavLink) :
    (links.flatMap routedWarnings).map LogEntry.line = linkWarnings links := by
  induction links with
  | nil => rfl
  | cons link links ih =>
    rw [List.flatMap_cons, List.map_append, ih]
    cases h : Route.parse link.target with
    | ok r =>
      rw [routedWarnings_of_ok h, linkWarnings_cons_of_ok h]
      rfl
    | error e =>
      rw [routedWarnings_of_error h, linkWarnings_cons_of_error h, ← line_unroutable h]
      rfl

/-- Warnings about links are all of the same level. -/
lemma filter_linkWarnings (links : List NavLink) :
    (linkWarnings links).filter (·.level = .warn) = linkWarnings links := by
  rw [List.filter_eq_self, linkWarnings, List.forall_mem_map]
  intro link _
  rfl

/-- The target that a warning shows tells what it is about. -/
lemma warning_mem_linkWarnings_iff {link : NavLink} {links : List NavLink} (hlink : link ∈ links) :
    link.warning ∈ linkWarnings links ↔ ∃ e, Route.parse link.target = .error e := by
  rw [linkWarnings, List.mem_map]
  constructor
  · rintro ⟨other, hother, hwarning⟩
    -- it may be the warning about another link, but then their targets are the same
    have htarget : other.target = link.target := by
      have hfields := congrArg LogLine.fields hwarning
      simpa [NavLink.warning] using hfields
    have hunroutable := (List.mem_filter.mp hother).2
    cases h : Route.parse other.target with
    | error e => exact ⟨e, htarget ▸ h⟩
    | ok r => simp [NavLink.isRoutable_of_ok h] at hunroutable
  · rintro ⟨e, he⟩
    exact ⟨link, List.mem_filter.mpr ⟨hlink, by simp [NavLink.isRoutable_of_error he]⟩, rfl⟩

/-! ### The warnings of a step -/

/-- What a run of the root warns about. -/
def Root.warnings : Root → List LogLine
  | .linkList _ links => linkWarnings links
  | .app _ | .barList _ _ _ => []

/-- What a step warns about, given what a run of the root warns about. -/
def Step.warnings (ofRoot : List LogLine) (step : Step) : List LogLine :=
  if step = .rerun none then ofRoot else []

section

variable {s t : Session} {trace : Trace}

lemma BarLinks.level_ne_warn_of_mem_logs {links : BarLinks} {entry : LogEntry}
    (h : entry ∈ links.logs) : entry.level ≠ .warn := by
  simp [BarLinks.level_of_mem_logs h]

lemma Session.warnings_register (s : Session) (bs : List Builder) :
    (s.register bs).2.warnings = [] := by
  apply Trace.warnings_eq_nil
  intro entry hentry
  rw [Registry.eq_lateRegistration_of_mem hentry]
  simp [LogEntry.level]

lemma Session.warnings_openPage (s : Session) : s.openPage.2.warnings = [] := by
  rw [Session.openPage]
  split
  · rfl
  · exact Trace.warnings_eq_nil fun entry hentry => BarLinks.level_ne_warn_of_mem_logs hentry

lemma Session.warnings_addBar (s : Session) (navigator : Option String) :
    (s.addBar navigator).2.warnings = [] := by
  rw [Session.addBar]
  split
  · exact Trace.warnings_eq_nil fun entry hentry => BarLinks.level_ne_warn_of_mem_logs hentry
  · rfl
  · rfl

lemma Session.warnings_runLinks (s : Session) (links : List NavLink) :
    (s.runLinks links).2.warnings = linkWarnings links := by
  rw [Session.runLinks, Trace.warnings, map_line_routedWarnings, filter_linkWarnings]

/-- Only a row of links has something to warn about when it runs again. -/
lemma Session.warnings_rerunRoot (s : Session) : s.rerunRoot.2.warnings = s.root.warnings := by
  rw [Session.rerunRoot]
  cases s.root with
  | app screen => exact s.warnings_register [.routed]
  | linkList routed links => exact s.warnings_runLinks links
  | barList routed bars nextId =>
    apply Trace.warnings_eq_nil
    intro entry hentry
    obtain ⟨b, -, hentry⟩ := List.mem_flatMap.mp hentry
    exact BarLinks.level_ne_warn_of_mem_logs hentry

/-- No click is warned about. -/
lemma Session.ClickEffect.warnings (h : s.ClickEffect t trace) : trace.warnings = [] := by
  cases h with
  | keep => rfl
  | activate _ => rfl
  | visit _ => rfl
  | recover _ => exact s.warnings_openPage

lemma Step.warnings_of_bar? {step : Step} {id : Nat} (h : step.bar? = some id)
    (ofRoot : List LogLine) : step.warnings ofRoot = [] := by
  rw [Step.warnings, if_neg]
  rintro rfl
  cases h

/-- Only a run of the root warns about anything. -/
lemma Session.StepEffect.warnings {step : Step} (h : s.StepEffect step t trace) :
    trace.warnings = step.warnings s.root.warnings := by
  cases h with
  | noRouter _ _ => rfl
  | go _ _ => rfl
  | leave _ _ => rfl
  | recover h => exact h.warnings
  | click h _ => exact h.warnings
  | register b => exact s.warnings_register [b]
  | rerunRoot => exact s.warnings_rerunRoot
  | addBar navigator => exact s.warnings_addBar navigator
  | setNavigator _ => rfl
  | noSuchBar _ hstep => rw [Step.warnings_of_bar? hstep, Trace.warnings_empty]
  | rerunBar _ =>
    exact Trace.warnings_eq_nil fun entry hentry => BarLinks.level_ne_warn_of_mem_logs hentry
  | removeBar _ => rfl
  | setBarNavigator _ _ => rfl

/-! ### The warnings of a run -/

variable {routed : Bool} {links : List NavLink}

/-- Step by step, a row warns about its links whenever it runs again, and never otherwise. -/
lemma Session.map_warnings_run (hroot : s.root = .linkList routed links) (steps : List Step) :
    (s.run steps).map (·.trace.warnings) = steps.map (Step.warnings (linkWarnings links)) := by
  induction steps generalizing s with
  | nil => rfl
  | cons step steps ih =>
    have hstep := (s.stepEffect step).warnings
    rw [hroot] at hstep
    rw [s.run_cons (Session.isCrashed_of_linkList hroot), List.map_cons, List.map_cons,
      ih (Session.root_step_of_linkList hroot step).1]
    exact congrArg (· :: _) hstep

/-- The mount reports late registrations, and then the row warns about its links. -/
lemma Setup.map_line_mount {setup : Setup} (hscene : setup.scene = .linkList routed links) :
    setup.mount.2.logs.map LogEntry.line =
      List.replicate (setup.builders.length - 1) LogEntry.lateRegistration.line ++
        linkWarnings links := by
  rw [Setup.mount, hscene, Session.snd_andThen, Trace.logs_append, List.map_append]
  change (Registry.empty.registerAll setup.builders).2.map LogEntry.line ++
    (links.flatMap routedWarnings).map LogEntry.line = _
  rw [Registry.registerAll_empty, List.map_replicate, map_line_routedWarnings]

lemma Setup.warnings_mount {setup : Setup} (hscene : setup.scene = .linkList routed links) :
    setup.mount.2.warnings = linkWarnings links := by
  rw [Trace.warnings, setup.map_line_mount hscene, List.filter_append, filter_linkWarnings,
    List.filter_replicate]
  rfl

/-- The same with the mount in front, where the row runs for the first time. -/
lemma Setup.map_warnings_record {setup : Setup} (hscene : setup.scene = .linkList routed links)
    (steps : List Step) : (setup.record steps).map (·.trace.warnings) =
      linkWarnings links :: steps.map (Step.warnings (linkWarnings links)) := by
  rw [Setup.record, List.map_cons,
    Session.map_warnings_run (Setup.root_mount_of_linkList hscene).1 steps]
  exact congrArg (· :: _) (setup.warnings_mount hscene)

lemma flatten_map_warnings (ofRoot : List LogLine) (steps : List Step) :
    (steps.map (Step.warnings ofRoot)).flatten =
      (List.replicate (steps.count (.rerun none)) ofRoot).flatten := by
  induction steps with
  | nil => rfl
  | cons step steps ih =>
    rw [List.map_cons, List.flatten_cons, ih, Step.warnings, List.count_cons]
    by_cases h : step = .rerun none
    · rw [if_pos h, if_pos (beq_iff_eq.mpr h), List.replicate_succ, List.flatten_cons]
    · rw [if_neg h, if_neg (by simpa using h), List.nil_append, Nat.add_zero]

/-- Over a run there are as many rounds of warnings as there were runs of the row. -/
lemma Setup.flatMap_warnings_record {setup : Setup}
    (hscene : setup.scene = .linkList routed links) (steps : List Step) :
    (setup.record steps).flatMap (·.trace.warnings) =
      (List.replicate (1 + steps.count (.rerun none)) (linkWarnings links)).flatten := by
  rw [List.flatMap_def, setup.map_warnings_record hscene steps, List.flatten_cons,
    flatten_map_warnings, List.replicate_add, List.flatten_append, List.replicate_one,
    List.flatten_singleton]

/-- The mount has written every warning that a run can write. -/
lemma Setup.mem_warnings_record_iff {setup : Setup}
    (hscene : setup.scene = .linkList routed links) (steps : List Step) (line : LogLine) :
    line ∈ (setup.record steps).flatMap (·.trace.warnings) ↔ line ∈ linkWarnings links := by
  rw [setup.flatMap_warnings_record hscene steps, List.mem_flatten]
  constructor
  · rintro ⟨lines, hlines, hline⟩
    rwa [List.eq_of_mem_replicate hlines] at hline
  · intro hline
    exact ⟨linkWarnings links, List.mem_replicate.mpr ⟨by omega, rfl⟩, hline⟩

end

/-! ### The text of a row -/

/-- How a link shows whether it was warned about: as a plain anchor if it was, and otherwise as an
anchor of the router, or not at all where there is none. -/
structure ShowsWarning (location : Option Location) (link : NavLink) (warned : Prop)
    (text : String) : Prop where
  plain_iff : text = plainAnchorText link ↔ warned
  routed : ¬warned → ∀ l, location = some l →
    ∃ r, Route.parse link.target = .ok r ∧ text = routerAnchorText l.base l.path r link.label
  hidden : ¬warned → location = none → text = ""

/-- A target that is no route is warned about, and shown as a plain anchor. -/
lemma showsWarning_of_error {link : NavLink} {e : RouteError}
    (h : Route.parse link.target = .error e) (location : Option Location) :
    ShowsWarning location link True (Html.renderAll (routedLink location link)) := by
  have htext : Html.renderAll (routedLink location link) = plainAnchorText link := by
    rw [routedLink_of_error h, Html.renderAll_cons, Html.renderAll_nil, render_plainAnchor,
      String.append_empty]
  exact ⟨by simp [htext], fun hwarned => absurd trivial hwarned,
    fun hwarned => absurd trivial hwarned⟩

/-- A plain anchor shows, and is no anchor of the router. -/
lemma plainAnchorText_ne_empty (link : NavLink) : plainAnchorText link ≠ "" := by
  unfold plainAnchorText
  rw [Ne, ← String.toList_inj]
  simp

lemma showsWarning_of_ok {link : NavLink} {r : Route} (h : Route.parse link.target = .ok r)
    (location : Option Location) :
    ShowsWarning location link False (Html.renderAll (routedLink location link)) := by
  cases location with
  | none =>
    have htext : Html.renderAll (routedLink none link) = "" := by
      rw [routedLink, h, Html.renderAll_nil]
    refine ⟨?_, ?_, fun _ _ => htext⟩
    · rw [htext, iff_false]
      exact (plainAnchorText_ne_empty link).symm
    · intro _ l hl
      cases hl
  | some l =>
    have htext : Html.renderAll (routedLink (some l) link) =
        routerAnchorText l.base l.path r link.label := by
      rw [routedLink_of_ok h, Html.renderAll_cons, Html.renderAll_nil, render_routerAnchor,
        String.append_empty]
    refine ⟨?_, ?_, ?_⟩
    · rw [htext, iff_false, ← String.toList_inj]
      intro heq
      exact routerAnchorText_append_ne r link.label link (congrArg (· ++ []) heq)
    · intro _ l' hl
      cases hl
      exact ⟨r, h, htext⟩
    · intro _ hnone
      cases hnone

lemma forall₂_showsWarning (location : Option Location) (links : List NavLink) :
    List.Forall₂ (fun link => ShowsWarning location link (link.warning ∈ linkWarnings links)) links
      (links.map fun link => Html.renderAll (routedLink location link)) := by
  rw [List.forall₂_map_right_iff, List.forall₂_same]
  intro link hlink
  rw [warning_mem_linkWarnings_iff hlink]
  cases h : Route.parse link.target with
  | ok r => simpa using showsWarning_of_ok h location
  | error e => simpa using showsWarning_of_error h location

lemma Session.html_snapshot_of_linkList {s : Session} {routed : Bool} {links : List NavLink}
    (hroot : s.root = .linkList routed links) (trace : Trace) (outcome : Outcome) :
    (s.snapshot trace outcome).html = some (String.join
      (links.map fun link => Html.renderAll (routedLink s.location link))) := by
  rw [Session.snapshot, Session.isCrashed_of_linkList hroot, Session.document, hroot, Root.document,
    Html.renderAll_flatMap]
  rfl

/-! ### Warnings and plain anchors -/

/-- Every run of a row warns about the links whose targets lead to no route, in order and with the
reports on those targets, and writes nothing else but what registrations before the mount leave
there. No other step warns about anything. In every record the links that the run warns about, and
no others, are shown as plain anchors. -/
theorem Setup.plain_anchors_are_warned_about {setup : Setup} {routed : Bool} {links : List NavLink}
    (hscene : setup.scene = .linkList routed links) (steps : List Step) :
    setup.mount.2.logs.map LogEntry.line =
      List.replicate (setup.builders.length - 1) LogEntry.lateRegistration.line ++
        linkWarnings links ∧
    ((setup.after steps).step (.rerun none)).trace.logs.map LogEntry.line = linkWarnings links ∧
    (setup.record steps).map (·.trace.warnings) = linkWarnings links ::
      steps.map (fun step => if step = .rerun none then linkWarnings links else []) ∧
    (setup.record steps).flatMap (·.trace.warnings) =
      (List.replicate (1 + steps.count (.rerun none)) (linkWarnings links)).flatten ∧
    ∀ snap ∈ setup.record steps, ∃ texts, snap.html = some (String.join texts) ∧
      List.Forall₂ (fun link => ShowsWarning (if routed then some ⟨setup.base, snap.path⟩ else none)
        link (link.warning ∈ (setup.record steps).flatMap (·.trace.warnings))) links texts := by
  refine ⟨setup.map_line_mount hscene, ?_, setup.map_warnings_record hscene steps,
    setup.flatMap_warnings_record hscene steps, ?_⟩
  · have hroot := ((setup.reaches_after steps).root_of_linkList hscene).1
    rw [Session.step, Session.rerunRoot, hroot]
    exact map_line_routedWarnings links
  · intro snap hsnap
    obtain ⟨s, trace, outcome, hs, rfl⟩ := Setup.exists_reaches_of_mem_record hsnap
    obtain ⟨hroot, hbase⟩ := hs.root_of_linkList hscene
    have hlocation :
        s.location = if routed then some ⟨setup.base, s.history.current⟩ else none := by
      rw [Session.location, hroot, hbase]
      rfl
    refine ⟨_, Session.html_snapshot_of_linkList hroot trace outcome, ?_⟩
    simp only [setup.mem_warnings_record_iff hscene steps]
    rw [hlocation]
    exact forall₂_showsWarning _ links

/-- A row without a router, of a link that leads nowhere and another one, through a click, a move
that no router takes, and another run. -/
theorem Setup.plain_anchors_are_warned_about_of_rerun :
    ∃ setup : Setup, ∃ steps : List Step,
      setup.scene = .linkList false [⟨"A", "nope"⟩, ⟨"B", "/chat/"⟩] ∧
      steps = [.click ⟨0, .primary, [], "click"⟩, .router (.go (.push "/x")), .rerun none] ∧
      (setup.record steps).map (·.trace.warnings) =
        [[NavLink.warning ⟨"A", "nope"⟩], [], [], [NavLink.warning ⟨"A", "nope"⟩]] ∧
      NavLink.warning ⟨"A", "nope"⟩ = ⟨.warn,
        "unroutable nav target: Route did not match:\nAttempted Matches:\n",
        [("path", "nope")]⟩ ∧
      ∀ snap ∈ setup.record steps, snap.html = some (plainAnchorText ⟨"A", "nope"⟩) := by
  let links : List NavLink := [⟨"A", "nope"⟩, ⟨"B", "/chat/"⟩]
  let setup : Setup := ⟨"/chat", "/docs", false, none, [.span, .active], .linkList false links⟩
  let steps : List Step :=
    [.click ⟨0, .primary, [], "click"⟩, .router (.go (.push "/x")), .rerun none]
  have hnope : Route.parse "nope" = .error ⟨[]⟩ := Route.parse_of_not_isAbsolute (by decide)
  have hslash : Route.parse "/chat/" = .ok .chat := by rfl
  have hwarnings : linkWarnings links = [NavLink.warning ⟨"A", "nope"⟩] := by
    have hdead : linkWarnings links =
        NavLink.warning ⟨"A", "nope"⟩ :: linkWarnings [⟨"B", "/chat/"⟩] :=
      linkWarnings_cons_of_error hnope _
    have hlive : linkWarnings [⟨"B", "/chat/"⟩] = [] := linkWarnings_cons_of_ok hslash []
    rw [hdead, hlive]
  obtain ⟨-, -, hrecord, hall, hshown⟩ :=
    @Setup.plain_anchors_are_warned_about setup false links rfl steps
  have hrun : (setup.record steps).flatMap (·.trace.warnings) =
      [NavLink.warning ⟨"A", "nope"⟩, NavLink.warning ⟨"A", "nope"⟩] := by
    rw [hall, hwarnings]
    rfl
  rw [hwarnings] at hrecord
  refine ⟨setup, steps, rfl, rfl, hrecord, ?_, ?_⟩
  · rw [NavLink.warning, parsedText_of_error hnope]
    rfl
  · intro snap hsnap
    obtain ⟨texts, hhtml, htexts⟩ := hshown snap hsnap
    rw [hrun] at htexts
    obtain ⟨first, rest, hfirst, hrest, rfl⟩ := List.forall₂_cons_left_iff.mp htexts
    obtain ⟨second, others, hsecond, hothers, rfl⟩ := List.forall₂_cons_left_iff.mp hrest
    obtain rfl := List.forall₂_nil_left_iff.mp hothers
    have hanchor := hfirst.plain_iff.mpr List.mem_cons_self
    have hhidden := hsecond.hidden (by simp [NavLink.warning]) rfl
    rw [hhtml, hanchor, hhidden]
    simp [String.join]

end SiteNav
