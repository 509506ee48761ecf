import SiteNav.Proofs.Session.After

/-!
# What a run registers

Builders are registered before the mount, by each run of the app, and by steps that say so. However
these are spread over a run, they do to the registry what registering all of them in a row would do,
and leave the same reports of late registrations in the log.
-/

namespace SiteNav

/-! ### Registering in a row -/

/-- Builders can be registered in two goes. -/
lemma Registry.registerAll_append (registry : Registry) (bs cs : List Builder) :
    registry.registerAll (bs ++ cs) =
      (((registry.registerAll bs).1.registerAll cs).1,
        (registry.registerAll bs).2 ++ ((registry.registerAll bs).1.registerAll cs).2) := by
  induction bs generalizing registry with
  | nil => rfl
  | cons b bs ih => simp [Registry.registerAll, ih]

/-- The builder that was there stays, and otherwise the first one is registered. -/
lemma Registry.builder_registerAll (registry : Registry) (bs : List Builder) :
    (registry.registerAll bs).1.builder = registry.builder.or bs.head? := by
  obtain ⟨builder⟩ := registry
  cases builder with
  | some b => rw [Registry.registerAll_some, Option.some_or]
  | none =>
    cases bs with
    | nil => rfl
    | cons b bs =>
      rw [Registry.registerAll]
      change (Registry.registerAll ⟨some b⟩ bs).1.builder = _
      rw [Registry.registerAll_some]
      rfl

/-- All but the first registration come too late. -/
lemma Registry.registerAll_empty (bs : List Builder) :
    Registry.empty.registerAll bs =
      (⟨bs.head?⟩, List.replicate (bs.length - 1) .lateRegistration) := by
  cases bs with
  | nil => rfl
  | cons b bs => simp [Registry.registerAll, Registry.registerAll_some]

/-- Registering leaves nothing else in the log. -/
lemma Registry.eq_lateRegistration_of_mem {registry : Registry} {bs : List Builder}
    {entry : LogEntry} (h : entry ∈ (registry.registerAll bs).2) : entry = .lateRegistration := by
  induction bs generalizing registry with
  | nil => cases h
  | cons b bs ih =>
    rw [Registry.registerAll, List.mem_append] at h
    rcases h with h | h
    · obtain ⟨_ | c⟩ := registry
      · cases h
      · exact List.mem_singleton.mp h
    · exact ih h

/-! ### Registrations of a run -/

/-- The builders that a run of the root registers. -/
def Root.registrations : Root → List Builder
  | .app _ => [.routed]
  | .linkList _ _ | .barList _ _ _ => []

/-- The builders that a step registers, given those that a run of the root registers. -/
def Step.registrations (ofRoot : List Builder) : Step → List Builder
  | .register b => [b]
  | .rerun none => ofRoot
  | .router _ | .click _ | .rerun (some _) => []
  | .addBar _ | .removeBar _ | .setNavigator _ _ => []

/-- The builders that are registered before the mount, at the mount, and by steps, in order. -/
def Setup.registrations (setup : Setup) (steps : List Step) : List Builder :=
  setup.builders ++ setup.scene.root.registrations ++
    steps.flatMap (Step.registrations setup.scene.root.registrations)

/-- One session comes from another by registering builders and leaves a log, as far as the registry
and late registrations are concerned. -/
structure Session.Registers (s t : Session) (logs : List LogEntry) (bs : List Builder) : Prop where
  registry_eq : t.registry = (s.registry.registerAll bs).1
  late_eq : logs.filter (· = .lateRegistration) = (s.registry.registerAll bs).2
  root_eq : t.root.registrations = s.root.registrations

section

variable {s t u : Session} {logs more : List LogEntry} {bs cs : List Builder}

/-- What one change registers and then another, both together register in that order. -/
lemma Session.Registers.trans (h : s.Registers t logs bs) (h' : t.Registers u more cs) :
    s.Registers u (logs ++ more) (bs ++ cs) where
  registry_eq := by rw [Registry.registerAll_append, h'.registry_eq, h.registry_eq]
  late_eq := by
    rw [Registry.registerAll_append, List.filter_append, h'.late_eq, h.late_eq, h.registry_eq]
  root_eq := h'.root_eq.trans h.root_eq

/-- A change that leaves the registry alone and reports nothing registers nothing. -/
lemma Session.Registers.nothing (hregistry : t.registry = s.registry)
    (hroot : t.root.registrations = s.root.registrations)
    (hlogs : .lateRegistration ∉ logs) : s.Registers t logs [] where
  registry_eq := hregistry
  late_eq := by
    rw [Registry.registerAll, List.filter_eq_nil_iff]
    intro entry hentry
    rw [decide_eq_true_eq]
    rintro rfl
    exact hlogs hentry
  root_eq := hroot

lemma Session.registers_self (s : Session) : s.Registers s [] [] :=
  .nothing rfl rfl List.not_mem_nil

end

/-! ### Registrations of a step -/

@[simp] lemma Root.registrations_arrive (root : Root) (path : String) :
    (root.arrive path).registrations = root.registrations := by cases root <;> rfl

@[simp] lemma Root.registrations_fail (root : Root) :
    root.fail.registrations = root.registrations := by
  cases root with
  | app screen => cases screen <;> rfl
  | linkList _ _ => rfl
  | barList _ _ _ => rfl

@[simp] lemma Root.registrations_mapBars (root : Root) (f : List Bar → List Bar) :
    (root.mapBars f).registrations = root.registrations := by cases root <;> rfl

/-- The runs of a bar are logged at the lowest level. -/
lemma BarLinks.level_of_mem_logs {links : BarLinks} {entry : LogEntry} (h : entry ∈ links.logs) :
    entry.level = .trace := by
  simp only [BarLinks.logs, BarLinks.warnings_eq_nil, List.mem_singleton] at h
  rw [h, LogEntry.level]

@[simp] lemma BarLinks.lateRegistration_notMem_logs (links : BarLinks) :
    LogEntry.lateRegistration ∉ links.logs := by
  simp [BarLinks.logs]

lemma lateRegistration_notMem_routedWarnings (links : List NavLink) :
    LogEntry.lateRegistration ∉ links.flatMap routedWarnings := by
  simp only [List.mem_flatMap, not_exists, not_and]
  intro link _
  rw [routedWarnings]
  split <;> simp

/-- Registering has the one effect that everything else is measured by. -/
lemma Session.registers_register (s : Session) (bs : List Builder) :
    s.Registers (s.register bs).1 (s.register bs).2.logs bs where
  registry_eq := rfl
  late_eq := by
    change (s.registry.registerAll bs).2.filter _ = _
    rw [List.filter_eq_self]
    intro entry hentry
    rw [decide_eq_true_eq]
    exact Registry.eq_lateRegistration_of_mem hentry
  root_eq := rfl

lemma Session.registers_wantHead (s : Session) (es : List HeadElement) :
    s.Registers (s.wantHead es).1 (s.wantHead es).2.logs [] :=
  .nothing rfl rfl List.not_mem_nil

lemma Session.registers_openPage {s : Session} {screen : Screen} (hroot : s.root = .app screen) :
    s.Registers s.openPage.1 s.openPage.2.logs [] := by
  rw [Session.openPage]
  split
  · exact .nothing rfl (by rw [hroot]; rfl) List.not_mem_nil
  · exact .nothing rfl (by rw [hroot]; rfl) (BarLinks.lateRegistration_notMem_logs _)

lemma Session.registers_addBar (s : Session) (navigator : Option String) :
    s.Registers (s.addBar navigator).1 (s.addBar navigator).2.logs [] := by
  rw [Session.addBar]
  split
  · rename_i hroot
    exact .nothing rfl (by rw [hroot]; rfl) (BarLinks.lateRegistration_notMem_logs _)
  · exact s.registers_self
  · exact s.registers_self

lemma Session.registers_addBars (s : Session) (navigators : List (Option String)) :
    s.Registers (s.addBars navigators).1 (s.addBars navigators).2.logs [] := by
  induction navigators generalizing s with
  | nil => exact s.registers_self
  | cons navigator navigators ih => exact (s.registers_addBar navigator).trans (ih _)

lemma Session.registers_leave (s : Session) (url : String) :
    s.Registers (s.leave url).1 (s.leave url).2.logs [] := by
  rw [Session.leave]
  split
  · exact s.registers_self
  · exact .nothing rfl s.root.registrations_fail List.not_mem_nil

lemma Session.registers_go (s : Session) (m : Move) : s.Registers (s.go m) [] [] :=
  .nothing rfl (s.root.registrations_arrive _) List.not_mem_nil

lemma Session.ClickEffect.registers {s t : Session} {trace : Trace} (h : s.ClickEffect t trace) :
    s.Registers t trace.logs [] := by
  cases h with
  | keep => exact s.registers_self
  | activate _ => exact .nothing rfl rfl (by simp [NavLink.activate])
  | visit _ => exact s.registers_go _
  | recover h => exact Session.registers_openPage h

/-- The app registers its builder each time it runs, and nothing else does so by itself. -/
lemma Session.registers_rerunRoot (s : Session) :
    s.Registers s.rerunRoot.1 s.rerunRoot.2.logs s.root.registrations := by
  rw [Session.rerunRoot]
  split
  · rename_i hroot
    rw [hroot]
    exact s.registers_register [.routed]
  · rename_i links hroot
    rw [hroot]
    exact .nothing rfl rfl (lateRegistration_notMem_routedWarnings links)
  · rename_i bars _ hroot
    have hlogs : LogEntry.lateRegistration ∉
        bars.flatMap fun b => (b.rerun s.registry).links.logs := by simp
    rw [hroot]
    exact .nothing rfl (by rw [hroot]; rfl) hlogs

/-- A step about a single bar registers nothing. -/
lemma Step.registrations_of_bar? {step : Step} {id : Nat} (h : step.bar? = some id)
    (ofRoot : List Builder) : step.registrations ofRoot = [] := by
  cases step with
  | rerun bar =>
    cases bar with
    | none => cases h
    | some _ => rfl
  | removeBar _ => rfl
  | setNavigator _ _ => rfl
  | router _ => cases h
  | click _ => cases h
  | register _ => cases h
  | addBar _ => cases h

/-- A step registers what it names, or what the root registers when it runs. -/
lemma Session.StepEffect.registers {s t : Session} {trace : Trace} {step : Step}
    (h : s.StepEffect step t trace) :
    s.Registers t trace.logs (step.registrations s.root.registrations) := by
  cases h with
  | noRouter _ _ => exact s.registers_self
  | go _ m => exact s.registers_go m
  | leave _ url => exact s.registers_leave url
  | recover h => exact h.registers
  | click h _ => exact h.registers
  | register b => exact s.registers_register [b]
  | rerunRoot => exact s.registers_rerunRoot
  | addBar navigator => exact s.registers_addBar navigator
  | setNavigator _ => exact .nothing rfl rfl List.not_mem_nil
  | noSuchBar _ hstep =>
    rw [Step.registrations_of_bar? hstep]
    exact s.registers_self
  | rerunBar _ =>
    exact .nothing rfl (s.root.registrations_mapBars _) (BarLinks.lateRegistration_notMem_logs _)
  | removeBar _ => exact .nothing rfl (s.root.registrations_mapBars _) List.not_mem_nil
  | setBarNavigator _ _ => exact .nothing rfl (s.root.registrations_mapBars _) List.not_mem_nil

lemma Session.registers_step (s : Session) (step : Step) :
    s.Registers (s.step step).session (s.step step).trace.logs
      (step.registrations s.root.registrations) :=
  (s.stepEffect step).registers

/-! ### The registry after a run -/

/-- Only the steps that are recorded register anything. -/
lemma Session.registers_after (s : Session) (steps : List Step) :
    s.Registers (s.after steps) ((s.run steps).flatMap (·.trace.logs))
      ((steps.take (s.run steps).length).flatMap (Step.registrations s.root.registrations)) := by
  induction steps generalizing s with
  | nil => exact s.registers_self
  | cons step steps ih =>
    cases hs : s.isCrashed with
    | true =>
      rw [s.after_of_isCrashed hs, s.run_of_isCrashed hs]
      exact s.registers_self
    | false =>
      have hstep := s.registers_step step
      have hrest := ih (s.step step).session
      -- what a run of the root registers stays the same from step to step
      rw [hstep.root_eq] at hrest
      rw [s.after_cons hs, s.run_cons hs, List.length_cons, List.take_succ_cons, List.flatMap_cons,
        List.flatMap_cons]
      exact hstep.trans hrest

/-- The mount registers what the setup names, and then what the root registers. -/
lemma Setup.registers_mount (setup : Setup) :
    setup.blank.Registers setup.mount.1 setup.mount.2.logs
      (setup.builders ++ setup.scene.root.registrations) := by
  have hbefore := setup.blank.registers_register setup.builders
  rw [Setup.mount]
  refine hbefore.trans ?_
  cases hscene : setup.scene with
  | app =>
    have hroot : ((setup.blank.register setup.builders).1.register [.routed]).1.root =
        .app .crashed := by
      change setup.scene.root = _
      rw [hscene]
      rfl
    have hown := (setup.blank.register setup.builders).1.registers_register [.routed]
    exact (hown.trans (Session.registers_wantHead _ _)).trans (Session.registers_openPage hroot)
  | linkList _ links =>
    exact .nothing rfl rfl (lateRegistration_notMem_routedWarnings links)
  | barList _ navigators => exact Session.registers_addBars _ navigators

/-- The steps of a run that are taken, those before the first crash. -/
def Setup.taken (setup : Setup) (steps : List Step) : List Step :=
  steps.take ((setup.record steps).length - 1)

/-- What a run registers is what it names, up to the step that crashed. -/
lemma Setup.registers_after (setup : Setup) (steps : List Step) :
    setup.blank.Registers (setup.after steps) ((setup.record steps).flatMap (·.trace.logs))
      (setup.registrations (setup.taken steps)) := by
  have hmount := setup.registers_mount
  have hrun := setup.mount.1.registers_after steps
  rw [hmount.root_eq] at hrun
  exact hmount.trans hrun

/-- The builder that is registered is the first one of all. -/
lemma Setup.builder_after (setup : Setup) (steps : List Step) :
    (setup.after steps).registry.builder = (setup.registrations (setup.taken steps)).head? := by
  have h := (setup.registers_after steps).registry_eq
  rw [h]
  change (Registry.empty.registerAll _).1.builder = _
  rw [Registry.registerAll_empty]

end SiteNav
