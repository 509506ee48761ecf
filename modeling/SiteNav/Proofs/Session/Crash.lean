import Mathlib.Data.List.Induction
import SiteNav.Proofs.Session.App
import SiteNav.Proofs.Session.Listener

/-!
# When the app crashes

The app crashes when it has to show the page of a path that leads to no route, and at no other time.
Its own anchors visit the paths of routes only, and going back or forward leads to paths where the
history has been before. So, once all paths of the history lead to routes, they go on doing so until
somebody else names a path that does not, and until then the app does not crash.
-/

namespace SiteNav

/-! ### A crash is due to the current path -/

lemma Session.isCrashed_iff {s : Session} : s.isCrashed = true ↔ s.root = .app .crashed := by
  rw [Session.isCrashed]
  constructor
  · intro h
    cases hroot : s.root with
    | app screen => cases screen <;> simp_all [Root.isCrashed]
    | linkList _ _ => simp [hroot, Root.isCrashed] at h
    | barList _ _ _ => simp [hroot, Root.isCrashed] at h
  · intro h
    rw [h]
    rfl

/-- Only a path that is no route makes a root crash. -/
lemma Root.error_of_arrive {root : Root} {path : String} (hroot : root ≠ .app .crashed)
    (h : root.arrive path = .app .crashed) : ∃ e, Route.parse path = .error e := by
  cases root with
  | linkList _ _ => cases h
  | barList _ _ _ => cases h
  | app screen =>
    cases screen with
    | failure => cases h
    | crashed => exact absurd rfl hroot
    | page bar r =>
      cases hp : Route.parse path with
      | error e => exact ⟨e, rfl⟩
      | ok q => simp [Root.arrive, Screen.arrive, hp] at h

/-- A visit to an external address makes no root crash. -/
lemma Root.eq_crashed_of_fail {root : Root} (h : root.fail = .app .crashed) :
    root = .app .crashed := by
  cases root with
  | linkList _ _ => cases h
  | barList _ _ _ => cases h
  | app screen =>
    cases screen with
    | page _ _ => cases h
    | failure => cases h
    | crashed => rfl

/-- Opening the page crashes only on a path that is no route. -/
lemma Session.error_of_openPage {s : Session} (h : s.openPage.1.root = .app .crashed) :
    ∃ e, Route.parse s.openPage.1.history.current = .error e := by
  rw [s.history_openPage]
  rw [Session.openPage] at h
  split at h
  · exact ⟨_, ‹_›⟩
  · cases h

/-- A step that crashes has come to a path that is no route. -/
lemma Session.Change.error_of_isCrashed {s t : Session} {trace : Trace} (h : s.Change t trace)
    (hs : s.isCrashed = false) (ht : t.isCrashed = true) :
    ∃ e, Route.parse t.history.current = .error e := by
  have hroot : s.root ≠ .app .crashed := by
    intro hcrash
    rw [Session.isCrashed_iff.mpr hcrash] at hs
    cases hs
  rw [Session.isCrashed_iff] at ht
  cases h with
  | keep => exact absurd ht hroot
  | activate _ => exact absurd ht hroot
  | visit _ => exact Root.error_of_arrive hroot ht
  | go m _ => exact Root.error_of_arrive hroot ht
  | leave url _ =>
    rw [Session.leave] at ht
    split at ht
    · exact absurd ht hroot
    · exact absurd (Root.eq_crashed_of_fail ht) hroot
  | recover _ => exact Session.error_of_openPage ht
  | register b => exact absurd ht hroot
  | rerun =>
    rw [Session.rerunRoot] at ht
    split at ht
    · exact absurd ht hroot
    · exact absurd ht hroot
    · -- bars side by side run again, and that is no crashed app
      rename_i hbars
      simp [hbars, Root.mapBars] at ht
  | setNavigator navigator => exact absurd ht hroot

section

variable {setup : Setup} (hscene : setup.scene = .app) {s : Session}

include hscene

/-- The mount of the app ends by opening the page at the start of the history. -/
lemma Setup.mount_eq_openPage :
    ∃ s : Session, setup.mount.1 = s.openPage.1 ∧ s.history = .start setup.path := by
  rw [Setup.mount, hscene]
  exact ⟨_, rfl, rfl⟩

lemma Setup.history_mount : setup.mount.1.history = .start setup.path := by
  obtain ⟨s, hs, hhistory⟩ := setup.mount_eq_openPage hscene
  rw [hs, s.history_openPage, hhistory]

lemma Setup.root_mount_ne_failure : setup.mount.1.root ≠ .app .failure := by
  obtain ⟨s, hs, -⟩ := setup.mount_eq_openPage hscene
  rw [hs, Session.openPage]
  split <;> simp

/-- A run of the app that has crashed stands on a path that is no route. -/
lemma Setup.Reaches.error_of_isCrashed (h : setup.Reaches s) (hs : s.isCrashed = true) :
    ∃ e, Route.parse s.history.current = .error e := by
  cases h with
  | mount =>
    obtain ⟨t, ht, -⟩ := setup.mount_eq_openPage hscene
    rw [ht, Session.isCrashed_iff] at hs
    rw [ht]
    exact Session.error_of_openPage hs
  | step h hcrash step =>
    exact (Session.change_step (h.isApp hscene).isBarList step).error_of_isCrashed hcrash hs

/-- Unless it shows the failure page, the app has crashed exactly if the path leads to no route. -/
lemma Setup.Reaches.isCrashed_iff (h : setup.Reaches s) (hs : s.root ≠ .app .failure) :
    s.isCrashed = true ↔ ∃ e, Route.parse s.history.current = .error e := by
  refine ⟨h.error_of_isCrashed hscene, fun ⟨e, he⟩ => ?_⟩
  obtain ⟨screen, hroot, hfollows⟩ := (h.isApp hscene).follows
  cases screen with
  | page bar r =>
    rw [hfollows.2] at he
    cases he
  | failure => exact absurd hroot hs
  | crashed => exact Session.isCrashed_iff.mpr hroot

/-- A move from a page is a crash exactly if it leads to no route. -/
lemma Setup.Reaches.isCrashed_go_iff (h : setup.Reaches s) (hcrash : s.isCrashed = false)
    (hs : s.root ≠ .app .failure) (m : Move) :
    (s.step (.router (.go m))).session.isCrashed = true ↔
      ∃ e, Route.parse (s.history.move m).current = .error e := by
  obtain ⟨screen, hroot, -⟩ := (h.isApp hscene).follows
  have hstep : s.step (.router (.go m)) = .ofRun (s.go m, .empty) .done := by
    rw [Session.step, hroot]
    rfl
  have hnext : setup.Reaches (s.go m) := by
    have := h.step hcrash (.router (.go m))
    rwa [hstep] at this
  have hfail : (s.go m).root ≠ .app .failure := by
    rw [Session.go, hroot, Root.arrive]
    cases screen with
    | page bar r =>
      rw [Screen.arrive]
      split <;> simp
    | failure => exact absurd hroot hs
    | crashed => simp [Screen.arrive]
  rw [hstep]
  exact hnext.isCrashed_iff hscene hfail

end

/-! ### The paths of the history -/

def History.paths (h : History) : List String := h.current :: (h.behind ++ h.ahead)

def History.OnRoutes (h : History) : Prop := ∀ path ∈ h.paths, ∃ r, Route.parse path = .ok r

lemma History.mem_paths_push {h : History} {path p : String} (hp : p ∈ (h.push path).paths) :
    p = path ∨ p ∈ h.paths := by
  rw [History.push] at hp
  split at hp
  · exact .inr hp
  · simp only [History.paths, List.mem_cons, List.mem_append, List.append_nil] at hp ⊢
    tauto

/-- A move only adds the path that it names. -/
lemma History.mem_paths_move {h : History} {m : Move} {p : String} (hp : p ∈ (h.move m).paths) :
    m = .push p ∨ m = .replace p ∨ p ∈ h.paths := by
  cases m with
  | push path =>
    obtain rfl | hp := History.mem_paths_push hp
    · exact .inl rfl
    · exact .inr (.inr hp)
  | replace path =>
    simp only [History.move, History.replace, History.paths, List.mem_cons] at hp ⊢
    obtain rfl | hp := hp
    · exact .inr (.inl rfl)
    · exact .inr (.inr (.inr hp))
  | back =>
    rw [History.move, History.back] at hp
    split at hp
    · exact .inr (.inr hp)
    · simp_all only [History.paths, List.mem_cons, List.mem_append]
      tauto
  | forward =>
    rw [History.move, History.forward] at hp
    split at hp
    · exact .inr (.inr hp)
    · simp_all only [History.paths, List.mem_cons, List.mem_append]
      tauto

lemma History.onRoutes_start {path : String} {r : Route} (h : Route.parse path = .ok r) :
    (History.start path).OnRoutes := by
  intro p hp
  simp only [History.start, History.paths, List.append_nil, List.mem_singleton] at hp
  exact ⟨r, hp ▸ h⟩

/-! ### Steps that lead nowhere else -/

/-- A step names no path other than one of a route. Clicks, moves back and forward, addresses
outside of the site and runs name no path at all. -/
def Step.KeepsToRoutes : Step → Prop
  | .router (.go (.push path)) | .router (.go (.replace path)) => ∃ r, Route.parse path = .ok r
  | .router (.go .back) | .router (.go .forward) | .router (.leave _) | .router .recover => True
  | .click _ | .register _ | .rerun _ | .addBar _ | .removeBar _ | .setNavigator _ _ => True

/-- Steps that keep to routes bring no other path into the history. -/
lemma Session.onRoutes_step {s : Session} (h : s.history.OnRoutes) {step : Step}
    (hstep : step.KeepsToRoutes) : (s.step step).session.history.OnRoutes := by
  intro path hpath
  obtain hh | ⟨m, rfl, hh⟩ | ⟨visited, hvisit, hh⟩ := s.history_step step
  · exact h path (hh ▸ hpath)
  · rw [hh] at hpath
    obtain rfl | rfl | hpath := History.mem_paths_move hpath
    · exact hstep
    · exact hstep
    · exact h path hpath
  · rw [hh] at hpath
    obtain rfl | hpath := History.mem_paths_push hpath
    · cases Session.listens_of_mem_anchors hvisit with
      | visit r => exact ⟨r, Route.parse_path r⟩
    · exact h path hpath

section

variable {setup : Setup} (hscene : setup.scene = .app)

include hscene

/-- Steps that keep to routes never leave them, however they move through the history. -/
lemma Setup.onRoutes_after {r : Route} (hpath : Route.parse setup.path = .ok r) {steps : List Step}
    (hsteps : ∀ step ∈ steps, step.KeepsToRoutes) : (setup.after steps).history.OnRoutes := by
  induction steps using List.reverseRecOn with
  | nil =>
    rw [Setup.after_nil, setup.history_mount hscene]
    exact History.onRoutes_start hpath
  | append_singleton steps step ih =>
    have h := ih fun x hx => hsteps x (List.mem_append_left _ hx)
    cases hs : (setup.after steps).isCrashed with
    | true =>
      rw [setup.after_append, Session.after_of_isCrashed hs]
      exact h
    | false =>
      rw [Setup.after_concat hs]
      exact Session.onRoutes_step h (hsteps step (by simp))

lemma Setup.isCrashed_after {r : Route} (hpath : Route.parse setup.path = .ok r)
    {steps : List Step} (hsteps : ∀ step ∈ steps, step.KeepsToRoutes) :
    (setup.after steps).isCrashed = false := by
  by_contra hcrash
  rw [Bool.not_eq_false] at hcrash
  obtain ⟨e, he⟩ := (setup.reaches_after steps).error_of_isCrashed hscene hcrash
  obtain ⟨q, hq⟩ := setup.onRoutes_after hscene hpath hsteps _ List.mem_cons_self
  rw [hq] at he
  cases he

end

/-! ### The app crashes off its routes only -/

/-- The app crashes at the mount exactly if its first path leads to no route, and whatever a run
comes to has crashed exactly if its path leads to no route and no failure page hides that. A move
through the history that crashes a page ends the run. As long as no step names a path that leads
nowhere, every step is recorded without a crash, and all paths that the history keeps lead to
routes. -/
theorem Setup.app_crashes_off_routes_only {setup : Setup} (hscene : setup.scene = .app) :
    (setup.mount.1.isCrashed = true ↔ ∃ e, Route.parse setup.path = .error e) ∧
    (∀ s, setup.Reaches s → (s.isCrashed = true ↔
      s.root ≠ .app .failure ∧ ∃ e, Route.parse s.history.current = .error e)) ∧
    (∀ s, setup.Reaches s → s.isCrashed = false → s.root ≠ .app .failure → ∀ m : Move,
      let answer := s.step (.router (.go m))
      (answer.session.isCrashed = true ↔
        ∃ e, Route.parse (s.history.move m).current = .error e) ∧
      (answer.session.isCrashed = true →
        ∀ steps, s.run (.router (.go m) :: steps) = [answer.snapshot])) ∧
    ((∃ r, Route.parse setup.path = .ok r) →
      ∀ steps, (∀ step ∈ steps, step.KeepsToRoutes) →
        (setup.record steps).length = steps.length + 1 ∧
        (∀ snap ∈ setup.record steps, snap.html ≠ none) ∧
        (setup.after steps).history.OnRoutes) := by
  refine ⟨?_, fun s hs => ?_, ?_, ?_⟩
  · have h := Setup.Reaches.mount.isCrashed_iff hscene (setup.root_mount_ne_failure hscene)
    rwa [setup.history_mount hscene] at h
  · constructor
    · intro hcrash
      refine ⟨?_, hs.error_of_isCrashed hscene hcrash⟩
      simp [Session.isCrashed_iff.mp hcrash]
    · rintro ⟨hfail, he⟩
      exact (hs.isCrashed_iff hscene hfail).mpr he
  · intro s hs hcrash hfail m
    refine ⟨hs.isCrashed_go_iff hscene hcrash hfail m, fun hnext steps => ?_⟩
    rw [Session.run_cons hcrash, Session.run_of_isCrashed hnext]
  · rintro ⟨r, hr⟩ steps hsteps
    -- each record is one of a session to which the steps before it lead, so prefixes are enough
    have hprefix : ∀ p, p <+: steps → (setup.after p).isCrashed = false := fun p hp =>
      setup.isCrashed_after hscene hr fun step hstep => hsteps step (hp.subset hstep)
    refine ⟨?_, ?_, setup.onRoutes_after hscene hr hsteps⟩
    · rw [Setup.record, List.length_cons, Session.length_run hprefix]
    · intro snap hsnap
      obtain ⟨p, hp, trace, outcome, rfl⟩ := Setup.exists_after_of_mem_record hsnap
      rw [Ne, Session.html_snapshot_eq_none_iff, hprefix p hp]
      simp

/-- A detour over the failure page, with a move behind it, does no harm, while a push of a path
below the chat page ends the run at once. -/
theorem Setup.app_crashes_off_routes_only_of_detour :
    ∃ setup : Setup, setup.scene = .app ∧ setup.builders = [.active] ∧ setup.path = "/chat?x" ∧
      setup.mount.1.isCrashed = false ∧
      (∀ steps, (setup.mount.1.run (.router (.go (.push "/chat/x")) :: steps)).length = 1) ∧
      (setup.record [.router (.leave "elsewhere"), .router (.go .back),
        .click ⟨0, .primary, [], "click"⟩, .rerun none, .click ⟨1, .primary, [], "click"⟩]).length =
          6 := by
  let setup : Setup := ⟨"/chat?x", "/docs", false, some "root", [.active], .app⟩
  obtain ⟨hmount, -, hgo, hrun⟩ := @Setup.app_crashes_off_routes_only setup rfl
  have hcrash : setup.mount.1.isCrashed = false := by
    rw [← Bool.not_eq_true, hmount]
    rintro ⟨e, he⟩
    have h := parse_chat_query.symm.trans he
    cases h
  have hpush :
      ∃ e, Route.parse (setup.mount.1.history.move (.push "/chat/x")).current = .error e := by
    rw [History.move, History.current_push]
    exact ⟨_, rfl⟩
  obtain ⟨hiff, hend⟩ := hgo _ .mount hcrash (setup.root_mount_ne_failure rfl) (.push "/chat/x")
  refine ⟨setup, rfl, rfl, rfl, hcrash, fun steps => ?_, ?_⟩
  · rw [hend (hiff.mpr hpush) steps]
    rfl
  · refine (hrun ⟨_, parse_chat_query⟩ _ ?_).1
    simp [Step.KeepsToRoutes]

end SiteNav
