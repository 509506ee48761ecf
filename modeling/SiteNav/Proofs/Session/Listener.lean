import SiteNav.Proofs.Anchor
import SiteNav.Proofs.Session.Registration

/-!
# What can be clicked

Whatever a session shows, its anchors listen for one of four things: a bar's own anchor offers a
link of the bar to the navigator that the bar holds, an anchor of the active builder announces such
a link to the builder's navigator, an anchor of the router visits the path of a route, and the
anchor of the failure page leads back.

Hence a step either hands nothing over to any navigator and logs no such thing, or it hands over one
link of the bar, once, with one entry in the log.
-/

namespace SiteNav

/-! ### Listeners -/

def Root.barLinks : Root → List BarLinks
  | .app (.page bar _) => [bar]
  | .app .failure | .app .crashed | .linkList _ _ => []
  | .barList _ bars _ => bars.map (·.links)

/-- What an anchor listens for where some bars are shown. -/
inductive Listens (shown : List BarLinks) : Action → Prop where
  | offer {navigator : Option String} (h : .offering navigator ∈ shown) {link : NavLink}
      (hlink : link ∈ navLinks) : Listens shown (.offer link navigator)
  | announce (h : .built .active ∈ shown) {link : NavLink} (hlink : link ∈ navLinks) :
      Listens shown (.announce link builderNavigator)
  | visit (r : Route) : Listens shown (.visit r.path)
  | dismissFailure : Listens shown .dismissFailure

section

variable {location : Option Location} {action : Action} {shown : List BarLinks}

/-- A link of the routed site listens for a visit to its route, or for nothing. -/
lemma listens_of_mem_routedLink {link : NavLink}
    (h : some action ∈ Html.anchorsAll (routedLink location link)) : Listens shown action := by
  rw [routedLink] at h
  cases hp : Route.parse link.target with
  | error e => simp [hp] at h
  | ok r =>
    cases location with
    | none => simp [hp] at h
    | some l =>
      simp only [hp, Html.anchorsAll_cons, anchors_routerAnchor, Html.anchorsAll_nil,
        List.append_nil, List.mem_singleton, Option.some.injEq] at h
      exact h ▸ .visit r

lemma BarLinks.anchors_html (location : Option Location) (links : BarLinks) :
    (links.html location).anchors =
      navLinks.flatMap fun link => Html.anchorsAll (links.link location link) := by
  rw [BarLinks.html, Html.anchors_element]
  simp [Html.anchorsAll_eq_flatMap, List.flatMap_assoc]

/-- Which anchors a bar has depends on what its links were made from. -/
lemma BarLinks.listens_of_mem_anchors {links : BarLinks} (hshown : links ∈ shown)
    (h : some action ∈ (links.html location).anchors) : Listens shown action := by
  rw [BarLinks.anchors_html, List.mem_flatMap] at h
  obtain ⟨link, hlink, h⟩ := h
  cases links with
  | offering navigator =>
    simp only [BarLinks.link, Html.anchorsAll_cons, anchors_offeringAnchor, Html.anchorsAll_nil,
      List.append_nil, List.mem_singleton, Option.some.injEq] at h
    exact h ▸ .offer hshown hlink
  | built b =>
    cases b with
    | routed => exact listens_of_mem_routedLink h
    | span => simp [BarLinks.link, Builder.link] at h
    | active =>
      simp only [BarLinks.link, Builder.link, Html.anchorsAll_cons, anchors_announcingAnchor,
        Html.anchorsAll_nil, List.append_nil, List.mem_singleton, Option.some.injEq] at h
      exact h ▸ .announce hshown hlink
    | empty => simp [BarLinks.link, Builder.link] at h

end

/-- No document has anchors that listen for anything else. -/
lemma Session.listens_of_mem_anchors {s : Session} {action : Action}
    (h : some action ∈ s.anchors) : Listens s.root.barLinks action := by
  rw [Session.anchors, Session.document] at h
  cases hroot : s.root with
  | app screen =>
    rw [hroot, Root.document] at h
    cases screen with
    | page bar r =>
      simp only [Screen.document, Html.anchorsAll_cons, Route.anchors_page, Html.anchorsAll_nil,
        List.append_nil] at h
      exact BarLinks.listens_of_mem_anchors List.mem_cons_self h
    | failure =>
      simp only [Screen.document, anchorsAll_failurePage, List.mem_singleton,
        Option.some.injEq] at h
      exact h ▸ .dismissFailure
    | crashed => simp [Screen.document] at h
  | linkList routed links =>
    rw [hroot, Root.document, Html.anchorsAll_eq_flatMap, List.flatMap_assoc,
      List.mem_flatMap] at h
    -- a row provides no navigator, and its links are those of the routed builder
    obtain ⟨link, -, h⟩ := h
    rw [← Html.anchorsAll_eq_flatMap] at h
    exact listens_of_mem_routedLink h
  | barList routed bars nextId =>
    rw [hroot, Root.document, Html.anchorsAll_eq_flatMap, List.flatMap_map,
      List.mem_flatMap] at h
    obtain ⟨b, hb, h⟩ := h
    exact BarLinks.listens_of_mem_anchors (List.mem_map_of_mem hb) h

/-! ### Silent steps -/

/-- Nothing was handed over to a navigator, and nothing was logged about it. -/
structure Trace.Silent (t : Trace) : Prop where
  intents_eq : t.intents = []
  level_ne : ∀ entry ∈ t.logs, entry.level ≠ .debug

lemma Trace.silent_empty : Trace.empty.Silent := ⟨rfl, by simp [Trace.empty]⟩

lemma Trace.Silent.append {t u : Trace} (ht : t.Silent) (hu : u.Silent) : (t ++ u).Silent where
  intents_eq := by rw [Trace.intents_append, ht.intents_eq, hu.intents_eq, List.append_nil]
  level_ne entry hentry := by
    rw [Trace.logs_append, List.mem_append] at hentry
    exact hentry.elim (ht.level_ne entry) (hu.level_ne entry)

/-- A bar that runs hands nothing over. -/
lemma BarLinks.level_ne_of_mem_logs {links : BarLinks} {entry : LogEntry}
    (h : entry ∈ links.logs) : entry.level ≠ .debug := by
  simp [BarLinks.level_of_mem_logs h]

lemma Session.silent_register (s : Session) (bs : List Builder) : (s.register bs).2.Silent := by
  refine ⟨rfl, fun entry hentry => ?_⟩
  rw [Registry.eq_lateRegistration_of_mem hentry]
  simp [LogEntry.level]

lemma Session.silent_openPage (s : Session) : s.openPage.2.Silent := by
  rw [Session.openPage]
  split
  · exact Trace.silent_empty
  · exact ⟨rfl, fun entry hentry => BarLinks.level_ne_of_mem_logs hentry⟩

lemma Session.silent_runLinks (s : Session) (links : List NavLink) :
    (s.runLinks links).2.Silent := by
  refine ⟨rfl, fun entry hentry => ?_⟩
  obtain ⟨link, -, hentry⟩ := List.mem_flatMap.mp hentry
  rw [routedWarnings] at hentry
  split at hentry
  · cases hentry
  · simp [List.mem_singleton.mp hentry, LogEntry.level]

lemma Session.silent_addBar (s : Session) (navigator : Option String) :
    (s.addBar navigator).2.Silent := by
  rw [Session.addBar]
  split
  · exact ⟨rfl, fun entry hentry => BarLinks.level_ne_of_mem_logs hentry⟩
  · exact Trace.silent_empty
  · exact Trace.silent_empty

lemma Session.silent_addBars (s : Session) (navigators : List (Option String)) :
    (s.addBars navigators).2.Silent := by
  induction navigators generalizing s with
  | nil => exact Trace.silent_empty
  | cons navigator navigators ih => exact (s.silent_addBar navigator).append (ih _)

lemma Session.silent_rerunRoot (s : Session) : s.rerunRoot.2.Silent := by
  rw [Session.rerunRoot]
  split
  · exact s.silent_register [.routed]
  · exact s.silent_runLinks _
  · refine ⟨rfl, fun entry hentry => ?_⟩
    obtain ⟨b, -, hentry⟩ := List.mem_flatMap.mp hentry
    exact BarLinks.level_ne_of_mem_logs hentry

lemma Setup.silent_mount (setup : Setup) : setup.mount.2.Silent := by
  rw [Setup.mount]
  refine (Session.silent_register _ _).append ?_
  cases setup.scene with
  | app =>
    refine Trace.Silent.append (Trace.Silent.append (Session.silent_register _ _) ?_)
      (Session.silent_openPage _)
    exact ⟨rfl, by simp [Session.wantHead, Trace.empty]⟩
  | linkList _ links => exact Session.silent_runLinks _ links
  | barList _ navigators => exact Session.silent_addBars _ navigators

/-! ### Links that are handed over -/

/-- A trace shows that a link of the bar was handed over, once, by one of the bars shown. -/
inductive Trace.HandsOver (shown : List BarLinks) : Trace → Prop where
  | offer {navigator : String} (h : .offering (some navigator) ∈ shown) {link : NavLink}
      (hlink : link ∈ navLinks) : HandsOver shown (link.activate navigator)
  | announce (h : .built .active ∈ shown) {link : NavLink} (hlink : link ∈ navLinks) :
      HandsOver shown (link.activate builderNavigator)

/-- A click hands over the link of the anchor under it, if that anchor is one of a bar. -/
lemma Session.ClickEffect.silent_or {s t : Session} {trace : Trace} (h : s.ClickEffect t trace) :
    trace.Silent ∨ trace.HandsOver s.root.barLinks := by
  cases h with
  | keep => exact .inl Trace.silent_empty
  | activate h =>
    obtain h | h := h
    · cases Session.listens_of_mem_anchors h with
      | offer hshown hlink => exact .inr (.offer hshown hlink)
    · cases Session.listens_of_mem_anchors h with
      | announce hshown hlink => exact .inr (.announce hshown hlink)
  | visit _ => exact .inl Trace.silent_empty
  | recover _ => exact .inl s.silent_openPage

lemma Session.StepEffect.silent_or {s t : Session} {trace : Trace} {step : Step}
    (h : s.StepEffect step t trace) : trace.Silent ∨ trace.HandsOver s.root.barLinks := by
  cases h with
  | noRouter _ _ => exact .inl Trace.silent_empty
  | go _ _ => exact .inl Trace.silent_empty
  | leave _ _ => exact .inl ⟨rfl, by simp [Session.leave, Trace.empty]⟩
  | recover h => exact h.silent_or
  | click h _ => exact h.silent_or
  | register b => exact .inl (s.silent_register [b])
  | rerunRoot => exact .inl s.silent_rerunRoot
  | addBar navigator => exact .inl (s.silent_addBar navigator)
  | setNavigator _ => exact .inl Trace.silent_empty
  | noSuchBar _ _ => exact .inl Trace.silent_empty
  | rerunBar _ => exact .inl ⟨rfl, fun entry hentry => BarLinks.level_ne_of_mem_logs hentry⟩
  | removeBar _ => exact .inl Trace.silent_empty
  | setBarNavigator _ _ => exact .inl Trace.silent_empty

/-- Components that run again hand nothing over. -/
lemma Session.StepEffect.silent_of_rerun {s t : Session} {trace : Trace} {bar : Option Nat}
    (h : s.StepEffect (.rerun bar) t trace) : trace.Silent := by
  cases h with
  | rerunRoot => exact s.silent_rerunRoot
  | noSuchBar _ _ => exact Trace.silent_empty
  | rerunBar _ => exact ⟨rfl, fun entry hentry => BarLinks.level_ne_of_mem_logs hentry⟩

/-- A step is silent, or it hands one link over. -/
lemma Session.silent_step_or (s : Session) (step : Step) :
    (s.step step).trace.Silent ∨ (s.step step).trace.HandsOver s.root.barLinks :=
  (s.stepEffect step).silent_or

end SiteNav
