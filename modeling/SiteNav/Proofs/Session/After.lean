import Mathlib.Data.List.Induction
import SiteNav.Proofs.Session.Change

/-!
# Where steps lead

Steps lead from one session to another, up to the first crash. The records of a run are those of the
mount and of its steps, each taken from the session to which the steps before it lead.

What a step does to the history and to the registry depends on the step alone, apart from a click,
which may visit a path that an anchor shows, and from a run of the app, which registers a builder.
-/

namespace SiteNav

/-- The session to which steps lead; a crashed one is not led any further. -/
def Session.after (s : Session) : List Step → Session
  | [] => s
  | step :: steps => if s.isCrashed then s else (s.step step).session.after steps

def Setup.after (setup : Setup) (steps : List Step) : Session := setup.mount.1.after steps

section

variable {s : Session} {setup : Setup}

@[simp] lemma Session.after_nil (s : Session) : s.after [] = s := rfl

@[simp] lemma Setup.after_nil (setup : Setup) : setup.after [] = setup.mount.1 := rfl

lemma Session.after_cons (h : s.isCrashed = false) (step : Step) (steps : List Step) :
    s.after (step :: steps) = (s.step step).session.after steps := by
  simp [Session.after, h]

/-- A crashed session takes no steps. -/
lemma Session.after_of_isCrashed (h : s.isCrashed = true) (steps : List Step) :
    s.after steps = s := by
  cases steps <;> simp [Session.after, h]

/-- Steps can be taken in two goes, since a crash ends both of them. -/
lemma Session.after_append (s : Session) (p q : List Step) :
    s.after (p ++ q) = (s.after p).after q := by
  induction p generalizing s with
  | nil => rfl
  | cons step p ih =>
    rw [List.cons_append]
    cases hs : s.isCrashed with
    | true => rw [s.after_of_isCrashed hs, s.after_of_isCrashed hs, s.after_of_isCrashed hs]
    | false => rw [s.after_cons hs, s.after_cons hs, ih]

lemma Setup.after_append (setup : Setup) (p q : List Step) :
    setup.after (p ++ q) = (setup.after p).after q :=
  setup.mount.1.after_append p q

/-- For inductions from the end: as long as nothing has crashed, the last step is taken too. -/
lemma Setup.after_concat {p : List Step} (h : (setup.after p).isCrashed = false) (step : Step) :
    setup.after (p ++ [step]) = ((setup.after p).step step).session := by
  rw [setup.after_append, Session.after_cons h]
  rfl

/-- Where steps lead can be reached. -/
lemma Setup.Reaches.after (h : setup.Reaches s) (steps : List Step) :
    setup.Reaches (s.after steps) := by
  induction steps generalizing s with
  | nil => exact h
  | cons step steps ih =>
    cases hs : s.isCrashed with
    | true => rwa [s.after_of_isCrashed hs]
    | false =>
      rw [s.after_cons hs]
      exact ih (h.step hs step)

lemma Setup.reaches_after (setup : Setup) (steps : List Step) :
    setup.Reaches (setup.after steps) :=
  Setup.Reaches.mount.after steps

/-! ### Records -/

/-- What is recorded of more steps is recorded of the session that the first ones lead to. -/
lemma Session.run_append (s : Session) (p q : List Step) :
    s.run (p ++ q) = s.run p ++ (s.after p).run q := by
  induction p generalizing s with
  | nil => rfl
  | cons step p ih =>
    rw [List.cons_append]
    cases hs : s.isCrashed with
    | true => rw [s.after_of_isCrashed hs, s.run_of_isCrashed hs, s.run_of_isCrashed hs,
        s.run_of_isCrashed hs, List.append_nil]
    | false => rw [s.after_cons hs, Session.run_cons hs, Session.run_cons hs, ih, List.cons_append]

lemma Setup.record_append (setup : Setup) (p q : List Step) :
    setup.record (p ++ q) = setup.record p ++ (setup.after p).run q := by
  rw [Setup.record, Setup.record, Session.run_append, List.cons_append]
  rfl

/-- One step more is one record more, as long as nothing has crashed. -/
lemma Setup.record_concat {p : List Step} (h : (setup.after p).isCrashed = false) (step : Step) :
    setup.record (p ++ [step]) = setup.record p ++ [((setup.after p).step step).snapshot] := by
  rw [setup.record_append, Session.run_cons h, Session.run_nil]

/-- The last record is one of the session to which the steps lead. -/
lemma Setup.exists_getLast?_record (setup : Setup) (steps : List Step) :
    ∃ trace outcome,
      (setup.record steps).getLast? = some ((setup.after steps).snapshot trace outcome) := by
  induction steps using List.reverseRecOn with
  | nil => exact ⟨setup.mount.2, .done, rfl⟩
  | append_singleton p step ih =>
    cases hs : (setup.after p).isCrashed with
    | true =>
      rwa [setup.record_append, Session.run_of_isCrashed hs, List.append_nil, setup.after_append,
        Session.after_of_isCrashed hs]
    | false =>
      rw [Setup.record_concat hs, Setup.after_concat hs, List.getLast?_concat]
      exact ⟨_, _, rfl⟩

/-- Every record of a run is that of a step, and of the session before it. -/
lemma Session.exists_step_of_mem_run {steps : List Step} {snap : Snapshot}
    (h : snap ∈ s.run steps) : ∃ p step, p ++ [step] <+: steps ∧
      (s.after p).isCrashed = false ∧ snap = ((s.after p).step step).snapshot := by
  induction steps generalizing s with
  | nil => simp at h
  | cons step steps ih =>
    cases hs : s.isCrashed with
    | true => simp [Session.run_of_isCrashed hs] at h
    | false =>
      rw [Session.run_cons hs, List.mem_cons] at h
      rcases h with rfl | h
      · exact ⟨[], step, by simp, hs, rfl⟩
      · obtain ⟨p, last, hp, hcrash, rfl⟩ := ih h
        refine ⟨step :: p, last, by simpa using hp, ?_, ?_⟩
        · rwa [s.after_cons hs]
        · rw [s.after_cons hs]

/-- A record is that of the mount, or that of a step from where the steps before it lead. -/
lemma Setup.exists_step_of_mem_record {steps : List Step} {snap : Snapshot}
    (h : snap ∈ setup.record steps) :
    snap = setup.mount.1.snapshot setup.mount.2 .done ∨
      ∃ p step, p ++ [step] <+: steps ∧ (setup.after p).isCrashed = false ∧
        snap = ((setup.after p).step step).snapshot := by
  rw [Setup.record, List.mem_cons] at h
  exact h.imp id Session.exists_step_of_mem_run

/-- Each record is one of a session to which some of the first steps lead. -/
lemma Setup.exists_after_of_mem_record {steps : List Step} {snap : Snapshot}
    (h : snap ∈ setup.record steps) :
    ∃ p, p <+: steps ∧ ∃ trace outcome, snap = (setup.after p).snapshot trace outcome := by
  rcases Setup.exists_step_of_mem_record h with rfl | ⟨p, step, hp, hcrash, rfl⟩
  · exact ⟨[], steps.nil_prefix, _, _, rfl⟩
  · let answer := (setup.after p).step step
    refine ⟨p ++ [step], hp, answer.trace, answer.outcome, ?_⟩
    rw [Setup.after_concat hcrash]
    rfl

/-- A run without a crash records every step. -/
lemma Session.length_run {steps : List Step}
    (h : ∀ p, p <+: steps → (s.after p).isCrashed = false) :
    (s.run steps).length = steps.length := by
  induction steps generalizing s with
  | nil => rfl
  | cons step steps ih =>
    have hs : s.isCrashed = false := h [] (List.nil_prefix)
    rw [Session.run_cons hs, List.length_cons, List.length_cons, ih]
    intro p hp
    have := h (step :: p) (by simpa using hp)
    rwa [s.after_cons hs] at this

/-- A document is missing from a record only after a crash. -/
lemma Session.html_snapshot_eq_none_iff (s : Session) (trace : Trace) (outcome : Outcome) :
    (s.snapshot trace outcome).html = none ↔ s.isCrashed = true := by
  rw [Session.snapshot]
  cases s.isCrashed <;> simp

/-- Two sessions have in common what their documents depend on. -/
structure Session.Agrees (s t : Session) : Prop where
  root_eq : s.root = t.root
  base_eq : s.base = t.base
  current_eq : s.history.current = t.history.current

/-- Sessions that agree look the same, whatever has led to them. -/
lemma Session.Agrees.html_snapshot {t : Session} (h : s.Agrees t) (trace trace' : Trace)
    (outcome outcome' : Outcome) :
    (s.snapshot trace outcome).html = (t.snapshot trace' outcome').html := by
  have hdocument : s.document = t.document := by
    rw [Session.document, Session.document, Session.location, Session.location, h.root_eq,
      h.base_eq, h.current_eq]
  rw [Session.snapshot, Session.snapshot, Session.isCrashed, Session.isCrashed, hdocument,
    h.root_eq]

end

/-! ### The history -/

/-- Opening the page reads the current path and moves nowhere. -/
lemma Session.history_openPage (s : Session) : s.openPage.1.history = s.history := by
  rw [Session.openPage]
  split <;> rfl

lemma Session.history_addBar (s : Session) (navigator : Option String) :
    (s.addBar navigator).1.history = s.history := by
  rw [Session.addBar]
  split <;> rfl

lemma Session.history_rerunRoot (s : Session) : s.rerunRoot.1.history = s.history := by
  rw [Session.rerunRoot]
  split <;> rfl

lemma Session.history_leave (s : Session) (url : String) :
    (s.leave url).1.history = s.history := by
  rw [Session.leave]
  split <;> rfl

/-- A click moves through the history by a visit to a path that is shown, or not at all. -/
lemma Session.ClickEffect.history {s t : Session} {trace : Trace} (h : s.ClickEffect t trace) :
    t.history = s.history ∨
      ∃ path, some (.visit path) ∈ s.anchors ∧ t.history = s.history.push path := by
  cases h with
  | keep => exact .inl rfl
  | activate _ => exact .inl rfl
  | visit h => exact .inr ⟨_, h, rfl⟩
  | recover _ => exact .inl s.history_openPage

/-- Only the router and the anchors that visit a path move through the history. -/
lemma Session.StepEffect.history {s t : Session} {trace : Trace} {step : Step}
    (h : s.StepEffect step t trace) : t.history = s.history ∨
      (∃ m, step = .router (.go m) ∧ t.history = s.history.move m) ∨
      ∃ path, some (.visit path) ∈ s.anchors ∧ t.history = s.history.push path := by
  cases h with
  | noRouter _ _ => exact .inl rfl
  | go _ m => exact .inr (.inl ⟨m, rfl, rfl⟩)
  | leave _ url => exact .inl (s.history_leave url)
  | recover h => exact h.history.imp id .inr
  | click h _ => exact h.history.imp id .inr
  | register b => exact .inl rfl
  | rerunRoot => exact .inl s.history_rerunRoot
  | addBar navigator => exact .inl (s.history_addBar navigator)
  | setNavigator _ => exact .inl rfl
  | noSuchBar _ _ => exact .inl rfl
  | rerunBar _ => exact .inl rfl
  | removeBar _ => exact .inl rfl
  | setBarNavigator _ _ => exact .inl rfl

/-- Only the router moves through the history, when it is told to or when an anchor is clicked. -/
lemma Session.history_step (s : Session) (step : Step) :
    (s.step step).session.history = s.history ∨
      (∃ m, step = .router (.go m) ∧ (s.step step).session.history = s.history.move m) ∨
      ∃ path, some (.visit path) ∈ s.anchors ∧
        (s.step step).session.history = s.history.push path :=
  (s.stepEffect step).history

end SiteNav
