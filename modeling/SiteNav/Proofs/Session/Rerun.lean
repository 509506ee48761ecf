import SiteNav.Proofs.Session.Crash
import SiteNav.Proofs.Session.FirstBuilder
import SiteNav.Proofs.Session.Warning

/-!
# Running the root again

A document is brought up to date bit by bit, while the history moves on. Even so, to run the root
again changes nothing of what can be seen, as long as the session has not crashed: the app finds a
builder registered and says so, a row of links repeats its warnings, and nothing else comes of it.
That is because nothing was left to be brought up to date. A session that begins where another one
has come to shows the same document, unless the latter shows the failure page.
-/

namespace SiteNav

/-! ### Steps that change nothing -/

section

variable {s : Session} {step : Step} {trace : Trace} {outcome : Outcome}

lemma Session.after_replicate (hs : s.isCrashed = false) (hstep : s.step step = ⟨s, trace, outcome⟩)
    (n : ℕ) : s.after (List.replicate n step) = s := by
  induction n with
  | zero => rfl
  | succ n ih => rw [List.replicate_succ, Session.after_cons hs, hstep, ih]

/-- A step that changes nothing leaves the same record each time it is taken. -/
lemma Session.run_replicate (hs : s.isCrashed = false) (hstep : s.step step = ⟨s, trace, outcome⟩)
    (n : ℕ) : s.run (List.replicate n step) = List.replicate n (s.snapshot trace outcome) := by
  induction n with
  | zero => rfl
  | succ n ih =>
    rw [List.replicate_succ, Session.run_cons hs, hstep, ih, List.replicate_succ]
    rfl

/-- The records of steps that change nothing come in between, and the run goes on as before. -/
lemma Setup.record_replicate_append {setup : Setup} {steps : List Step}
    (hs : (setup.after steps).isCrashed = false)
    (hstep : (setup.after steps).step step = ⟨setup.after steps, trace, outcome⟩) (n : ℕ)
    (more : List Step) :
    setup.record (steps ++ List.replicate n step ++ more) = setup.record steps ++
      List.replicate n ((setup.after steps).snapshot trace outcome) ++
        (setup.after steps).run more := by
  rw [setup.record_append, setup.record_append, setup.after_append, Session.run_replicate hs hstep,
    Session.after_replicate hs hstep]

end

/-! ### Runs of the root -/

/-- What the root logs when it runs again and finds everything in place. -/
def Scene.rerunLogs : Scene → List LogEntry
  | .app => [.lateRegistration]
  | .linkList _ links => links.flatMap routedWarnings
  | .barList _ _ => []

/-- All that the app leaves in the log is one report that it came too late. -/
lemma Scene.map_line_rerunLogs_app :
    Scene.app.rerunLogs.map LogEntry.line = [⟨.trace, "nav builder already registered", []⟩] := rfl

/-- A row repeats the warnings of its mount. -/
lemma Setup.map_line_rerunLogs {setup : Setup} {routed : Bool} {links : List NavLink}
    (hscene : setup.scene = .linkList routed links) :
    setup.scene.rerunLogs.map LogEntry.line = setup.mount.2.warnings := by
  rw [setup.warnings_mount hscene, hscene]
  exact map_line_routedWarnings links

section

variable {setup : Setup} {s : Session}

/-- The app that runs again registers too late, and does nothing else. -/
lemma Setup.Reaches.step_rerun_of_app (hscene : setup.scene = .app) (h : setup.Reaches s) :
    s.step (.rerun none) = ⟨s, { Trace.empty with logs := setup.scene.rerunLogs }, .done⟩ := by
  have happ := h.isApp hscene
  obtain ⟨screen, hroot, -⟩ := happ.follows
  -- a builder has been registered by then, so that the app comes too late with its own
  rw [Session.step, Session.rerunRoot, hroot, hscene, Session.register_of_some happ.builder_eq]
  rfl

/-- A row that runs again warns again, and does nothing else. -/
lemma Setup.Reaches.step_rerun_of_linkList {routed : Bool} {links : List NavLink}
    (hscene : setup.scene = .linkList routed links) (h : setup.Reaches s) :
    s.step (.rerun none) = ⟨s, { Trace.empty with logs := setup.scene.rerunLogs }, .done⟩ := by
  rw [Session.step, Session.rerunRoot, (h.root_of_linkList hscene).1, hscene]
  rfl

/-- To run the app or a row of links again leaves the session as it is. -/
lemma Setup.Reaches.step_rerun
    (hscene : setup.scene = .app ∨ ∃ routed links, setup.scene = .linkList routed links)
    (h : setup.Reaches s) :
    s.step (.rerun none) = ⟨s, { Trace.empty with logs := setup.scene.rerunLogs }, .done⟩ := by
  obtain hscene | ⟨routed, links, hscene⟩ := hscene
  · exact h.step_rerun_of_app hscene
  · exact h.step_rerun_of_linkList hscene

end

/-! ### Beginning where a run has come to -/

/-- The same setup with another path to begin at. -/
def Setup.startingAt (setup : Setup) (path : String) : Setup := { setup with path }

section

variable {setup : Setup} {s : Session}

/-- A page is determined by the builder and the current path. -/
lemma Session.IsApp.root_eq {base : String} {b : Builder} (h : s.IsApp base b)
    (hcrash : s.isCrashed = false) (hfail : s.root ≠ .app .failure) :
    ∃ r, Route.parse s.history.current = .ok r ∧ s.root = .app (.page (.built b) r) := by
  obtain ⟨screen, hroot, hfollows⟩ := h.follows
  cases screen with
  | page bar r =>
    obtain ⟨rfl, hr⟩ := hfollows
    exact ⟨r, hr, hroot⟩
  | failure => exact absurd hroot hfail
  | crashed =>
    rw [Session.isCrashed_iff.mpr hroot] at hcrash
    cases hcrash

/-- The app that is mounted on a path shows what a run shows that has come there. -/
lemma Setup.Reaches.agrees_startingAt_of_app (hscene : setup.scene = .app) (h : setup.Reaches s)
    (hcrash : s.isCrashed = false) (hfail : s.root ≠ .app .failure) :
    (setup.startingAt s.history.current).mount.1.Agrees s := by
  -- navigators and late registrations of the run are forgotten, but they do not show in a page
  let fresh := setup.startingAt s.history.current
  have hfresh : fresh.scene = .app := hscene
  have happ := h.isApp hscene
  obtain ⟨r, hr, hroot⟩ := happ.root_eq hcrash hfail
  refine ⟨?_, ?_, ?_⟩
  · exact (Setup.root_mount_of_app hfresh hr).trans hroot.symm
  · exact (Setup.Reaches.mount.isApp hfresh).base_eq.trans happ.base_eq.symm
  · rw [Setup.history_mount hfresh]
    rfl

/-- A row shows the same on a path, however it has come there. -/
lemma Setup.Reaches.agrees_startingAt_of_linkList {routed : Bool} {links : List NavLink}
    (hscene : setup.scene = .linkList routed links) (h : setup.Reaches s) :
    (setup.startingAt s.history.current).mount.1.Agrees s := by
  let fresh := setup.startingAt s.history.current
  have hfresh : fresh.scene = .linkList routed links := hscene
  obtain ⟨hroot, hbase⟩ := h.root_of_linkList hscene
  obtain ⟨hroot', hbase'⟩ := Setup.root_mount_of_linkList hfresh
  refine ⟨hroot'.trans hroot.symm, hbase'.trans hbase.symm, ?_⟩
  rw [Setup.history_mount_of_linkList hfresh]
  rfl

/-- A session that begins at the current path of another shows what that one shows. -/
lemma Setup.Reaches.agrees_startingAt
    (hscene : setup.scene = .app ∨ ∃ routed links, setup.scene = .linkList routed links)
    (h : setup.Reaches s) (hcrash : s.isCrashed = false) (hfail : s.root ≠ .app .failure) :
    (setup.startingAt s.history.current).mount.1.Agrees s := by
  obtain hscene | ⟨routed, links, hscene⟩ := hscene
  · exact h.agrees_startingAt_of_app hscene hcrash hfail
  · exact h.agrees_startingAt_of_linkList hscene

end

/-! ### Runs of the root show in the log only -/

/-- Wherever an app or a row of links has come to without a crash, each further run of the root is
recorded like the last step, but for the log, and nothing else comes of it however often the root
runs: what follows is recorded as if it had not run again. The app reports that a builder is
registered already, and a row repeats the warnings of its mount. Unless the failure page is shown,
the document is the one with which a session begins at the current path. -/
theorem Setup.reruns_show_in_log_only {setup : Setup}
    (hscene : setup.scene = .app ∨ ∃ routed links, setup.scene = .linkList routed links)
    {steps : List Step} (hcrash : (setup.after steps).isCrashed = false) :
    ∃ last html, (setup.record steps).getLast? = some last ∧ last.html = some html ∧
      (∀ n more, ∃ later, setup.record (steps ++ more) = setup.record steps ++ later ∧
        setup.record (steps ++ List.replicate n (.rerun none) ++ more) = setup.record steps ++
          List.replicate n { last with
            trace := ⟨[], [], [], setup.scene.rerunLogs⟩, outcome := .done } ++ later) ∧
      (setup.scene = .app → setup.scene.rerunLogs.map LogEntry.line =
        [⟨.trace, "nav builder already registered", []⟩]) ∧
      (∀ routed links, setup.scene = .linkList routed links →
        setup.scene.rerunLogs.map LogEntry.line = setup.mount.2.warnings) ∧
      ((setup.after steps).root ≠ .app .failure →
        ∀ snap ∈ (setup.startingAt last.path).record [], snap.html = some html) := by
  have hreach := setup.reaches_after steps
  have hstep := hreach.step_rerun hscene
  obtain ⟨trace, outcome, hlast⟩ := setup.exists_getLast?_record steps
  obtain ⟨html, hhtml⟩ : ∃ html, ((setup.after steps).snapshot trace outcome).html = some html := by
    rw [← Option.ne_none_iff_exists', Ne, Session.html_snapshot_eq_none_iff, hcrash]
    simp
  refine ⟨_, html, hlast, hhtml, fun n more => ?_, fun happ => ?_, fun routed links hlinks => ?_,
    fun hfail snap hsnap => ?_⟩
  · exact ⟨_, setup.record_append steps more, Setup.record_replicate_append hcrash hstep n more⟩
  · rw [happ]
    exact Scene.map_line_rerunLogs_app
  · exact setup.map_line_rerunLogs hlinks
  · rw [Setup.record, Session.run_nil, List.mem_singleton] at hsnap
    rw [hsnap, ← hhtml]
    exact (hreach.agrees_startingAt hscene hcrash hfail).html_snapshot ..

/-- The app with another builder than its own, twice more after a push. -/
theorem Setup.reruns_show_in_log_only_of_active :
    ∃ setup : Setup, ∃ last html,
      setup.scene = .app ∧ setup.builders = [.active] ∧ setup.path = "/" ∧
      (setup.record [.router (.go (.push "/chat?x"))]).getLast? = some last ∧
      last.path = "/chat?x" ∧ last.html = some html ∧
      setup.record [.router (.go (.push "/chat?x")), .rerun none, .rerun none] =
        setup.record [.router (.go (.push "/chat?x"))] ++ List.replicate 2 { last with
          trace := ⟨[], [], [], [.lateRegistration]⟩, outcome := .done } ∧
      ∀ snap ∈ (setup.startingAt "/chat?x").record [], snap.html = some html := by
  let setup : Setup := ⟨"/", "/docs", false, some "root", [.active], .app⟩
  let steps : List Step := [.router (.go (.push "/chat?x"))]
  have hhome : Route.parse setup.path = .ok .home := Route.parse_path .home
  obtain ⟨-, bar, hmount⟩ := @Setup.mount_of_app setup rfl _ hhome
  have hstep : setup.after steps = setup.mount.1.go (.push "/chat?x") := by
    have hcrash : setup.mount.1.isCrashed = false := by
      rw [Session.isCrashed, hmount]
      rfl
    rw [Setup.after, Session.after_cons hcrash, Session.after_nil, Session.step, hmount]
    rfl
  have hpath : (setup.after steps).history.current = "/chat?x" := by
    rw [hstep]
    exact History.current_push _ _
  have hroot : (setup.after steps).root = .app (.page bar .chat) := by
    rw [hstep, Session.go, hmount, History.move, History.current_push, Root.arrive, Screen.arrive,
      parse_chat_query]
  have hcrash : (setup.after steps).isCrashed = false := by
    rw [Session.isCrashed, hroot]
    rfl
  obtain ⟨last, html, hlast, hhtml, hrecord, -, -, hfresh⟩ :=
    @Setup.reruns_show_in_log_only setup (.inl rfl) steps hcrash
  have hshown : last.path = "/chat?x" := by
    obtain ⟨trace, outcome, h⟩ := setup.exists_getLast?_record steps
    rw [hlast] at h
    rw [Option.some.inj h]
    exact hpath
  obtain ⟨later, hlater, hrerun⟩ := hrecord 2 []
  rw [List.append_nil, List.self_eq_append_right] at hlater
  rw [hlater, List.append_nil, List.append_nil] at hrerun
  rw [hshown] at hfresh
  refine ⟨setup, last, html, rfl, rfl, rfl, hlast, hshown, hhtml, hrerun, hfresh ?_⟩
  rw [hroot]
  simp

end SiteNav
