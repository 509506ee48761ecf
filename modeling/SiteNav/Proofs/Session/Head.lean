import SiteNav.Proofs.Session.BarList

/-!
# The head of the page over a run

A bar wants a link to its stylesheet and a style in the head when it is mounted, and the app wants a
link to the stylesheet of the pages. A stylesheet is linked only once, but a style comes in each
time. A run wants what its parts want, one after the other, so all that has to be known of it is how
many bars it mounts, and that can be seen from the bars that stand at the root before a step and
after it.
-/

namespace SiteNav

/-! ### Elements that are wanted one after another -/

/-- What comes in second depends on what the first elements have linked. -/
lemma newHead_append (linked : List String) (es fs : List HeadElement) :
    newHead linked (es ++ fs) = newHead linked es ++ newHead (linkedAfter linked es) fs := by
  induction es generalizing linked with
  | nil => rfl
  | cons e es ih =>
    cases e with
    | style contents => rw [List.cons_append, newHead, newHead, linkedAfter, ih, List.cons_append]
    | stylesheetLink href =>
      rw [List.cons_append, newHead, newHead, linkedAfter]
      by_cases h : href ∈ linked
      · rw [if_pos h, if_pos h, if_pos h, ih]
      · rw [if_neg h, if_neg h, if_neg h, ih, List.cons_append]

lemma linkedAfter_append (linked : List String) (es fs : List HeadElement) :
    linkedAfter linked (es ++ fs) = linkedAfter (linkedAfter linked es) fs := by
  induction es generalizing linked with
  | nil => rfl
  | cons e es ih =>
    cases e with
    | style contents => rw [List.cons_append, linkedAfter, linkedAfter, ih]
    | stylesheetLink href =>
      rw [List.cons_append, linkedAfter, linkedAfter]
      by_cases h : href ∈ linked
      · rw [if_pos h, if_pos h, ih]
      · rw [if_neg h, if_neg h, ih]

/-- One session comes from another by wanting some elements in the head, and others come in. -/
structure Session.Wants (s t : Session) (head es : List HeadElement) : Prop where
  head_eq : head = newHead s.linked es
  linked_eq : t.linked = linkedAfter s.linked es

section

variable {s t u : Session} {head more es fs : List HeadElement}

/-- What one change wants and then another, both together want in that order. -/
lemma Session.Wants.trans (h : s.Wants t head es) (h' : t.Wants u more fs) :
    s.Wants u (head ++ more) (es ++ fs) where
  head_eq := by rw [newHead_append, h'.head_eq, h.head_eq, h.linked_eq]
  linked_eq := by rw [linkedAfter_append, h'.linked_eq, h.linked_eq]

lemma Session.Wants.nothing (h : t.linked = s.linked) : s.Wants t [] [] := ⟨rfl, h⟩

lemma Session.wants_wantHead (s : Session) (es : List HeadElement) :
    s.Wants (s.wantHead es).1 (s.wantHead es).2.head es := ⟨rfl, rfl⟩

/-- A change that wants nothing can follow. -/
lemma Session.Wants.andThen {x : Session × Trace} {f : Session → Session × Trace}
    (h : s.Wants x.1 x.2.head es) (hlinked : (f x.1).1.linked = x.1.linked)
    (hhead : (f x.1).2.head = []) :
    s.Wants (Session.andThen x f).1 (Session.andThen x f).2.head es where
  head_eq := by rw [Session.snd_andThen, Trace.head_append, hhead, List.append_nil, h.head_eq]
  linked_eq := hlinked.trans h.linked_eq

end

/-! ### Bars that are mounted -/

/-- The numbers of the bars at a root; the only bar of the app has the number zero. -/
def Root.barIds : Root → List Nat
  | .app (.page _ _) => [0]
  | .app .failure | .app .crashed | .linkList _ _ => []
  | .barList _ bars _ => bars.map (·.id)

/-- How many of the bars at a root were not there before. -/
def Root.newBars (before after : Root) : Nat :=
  after.barIds.countP (· ∉ before.barIds)

/-- How many bars are mounted by steps, up to the first crash. -/
def Session.barMounts (s : Session) : List Step → Nat
  | [] => 0
  | step :: steps =>
    if s.isCrashed then 0
    else s.root.newBars (s.step step).session.root + (s.step step).session.barMounts steps

/-- How many bars are mounted in a run, those at its beginning included. -/
def Setup.barMounts (setup : Setup) (steps : List Step) : Nat :=
  setup.scene.root.newBars setup.mount.1.root + setup.mount.1.barMounts steps

/-- All bars at a root have numbers below the one that is given out next. -/
def Root.IsNumbered : Root → Prop
  | .barList _ bars nextId => ∀ b ∈ bars, b.id < nextId
  | .app _ | .linkList _ _ => True

/-- No bar comes to a root, and the numbers stay in order. -/
structure Root.AddsNoBar (before after : Root) : Prop where
  barIds_subset : after.barIds ⊆ before.barIds
  isNumbered : before.IsNumbered → after.IsNumbered

section

variable {before after : Root}

/-- No bar is new where none has come. -/
lemma Root.AddsNoBar.newBars_eq_zero (h : before.AddsNoBar after) : before.newBars after = 0 := by
  rw [Root.newBars, List.countP_eq_zero]
  intro id hid
  simpa using h.barIds_subset hid

/-- Where there were no bars before, all are new. -/
lemma Root.newBars_of_barIds_eq_nil (h : before.barIds = []) :
    before.newBars after = after.barIds.length := by
  rw [Root.newBars, h, List.countP_eq_length]
  intro id _
  simp

/-- A bar with the number that is given out next is a new one. -/
lemma Root.newBars_concat {routed : Bool} {bars : List Bar} {b : Bar}
    (h : ∀ c ∈ bars, c.id < b.id) :
    (Root.barList routed bars b.id).newBars (.barList routed (bars ++ [b]) (b.id + 1)) = 1 := by
  have hfresh : ∀ c ∈ bars, c.id ≠ b.id := fun c hc => Nat.ne_of_lt (h c hc)
  have hold : (bars.map (·.id)).countP (· ∉ bars.map (·.id)) = 0 := by
    rw [List.countP_eq_zero]
    simp
  rw [Root.newBars, Root.barIds, Root.barIds, List.map_append, List.countP_append, hold]
  simpa using hfresh

lemma Root.addsNoBar_self (root : Root) : root.AddsNoBar root := ⟨List.Subset.refl _, id⟩

/-- A page is exchanged for another one under the same bar. -/
lemma Root.addsNoBar_arrive (root : Root) (path : String) : root.AddsNoBar (root.arrive path) := by
  cases root with
  | linkList routed links => exact Root.addsNoBar_self _
  | barList routed bars nextId => exact Root.addsNoBar_self _
  | app screen =>
    cases screen with
    | failure => exact Root.addsNoBar_self _
    | crashed => exact Root.addsNoBar_self _
    | page bar r =>
      rw [Root.arrive, Screen.arrive]
      cases Route.parse path with
      | error e => exact ⟨List.nil_subset _, fun _ => trivial⟩
      | ok q => exact ⟨List.Subset.refl _, fun _ => trivial⟩

/-- The failure page takes the bar away. -/
lemma Root.addsNoBar_fail (root : Root) : root.AddsNoBar root.fail := by
  cases root with
  | linkList routed links => exact Root.addsNoBar_self _
  | barList routed bars nextId => exact Root.addsNoBar_self _
  | app screen =>
    cases screen with
    | page bar r => exact ⟨List.nil_subset _, fun _ => trivial⟩
    | failure => exact Root.addsNoBar_self _
    | crashed => exact Root.addsNoBar_self _

/-- A change of bars that gives no new number brings no bar. -/
lemma Root.addsNoBar_mapBars (root : Root) {f : List Bar → List Bar}
    (hf : ∀ bars, ∀ b ∈ f bars, ∃ c ∈ bars, c.id = b.id) : root.AddsNoBar (root.mapBars f) := by
  cases root with
  | app screen => exact Root.addsNoBar_self _
  | linkList routed links => exact Root.addsNoBar_self _
  | barList routed bars nextId =>
    refine ⟨?_, ?_⟩
    · intro id hid
      obtain ⟨b, hb, rfl⟩ := List.mem_map.mp hid
      obtain ⟨c, hc, hcb⟩ := hf bars b hb
      exact List.mem_map.mpr ⟨c, hc, hcb⟩
    · intro h b hb
      obtain ⟨c, hc, hcb⟩ := hf bars b hb
      exact hcb ▸ h c hc

lemma Root.addsNoBar_mapBars_map (root : Root) {f : Bar → Bar} (hf : ∀ b, (f b).id = b.id) :
    root.AddsNoBar (root.mapBars (·.map f)) := by
  apply Root.addsNoBar_mapBars
  intro bars b hb
  obtain ⟨c, hc, rfl⟩ := List.mem_map.mp hb
  exact ⟨c, hc, (hf c).symm⟩

end

/-! ### What a step wants in the head -/

/-- The elements that bars want when they are mounted one after another. -/
def barHeads (mounts : Nat) : List HeadElement :=
  (List.replicate mounts barHead).flatten

lemma barHeads_succ (mounts : Nat) :
    barHeads (mounts + 1) =
      .stylesheetLink barStylesheetHref :: .style stylesheet :: barHeads mounts := by
  rw [barHeads, List.replicate_succ, List.flatten_cons]
  rfl

lemma barHeads_one : barHeads 1 = barHead := by
  rw [barHeads, List.replicate_one, List.flatten_singleton]

/-- What some bars want and then others is what all of them want. -/
lemma barHeads_add (m n : Nat) : barHeads (m + n) = barHeads m ++ barHeads n := by
  rw [barHeads, List.replicate_add, List.flatten_append]
  rfl

/-- One session comes from another by mounting bars and by nothing else that has to do with the head
of the page. -/
structure Session.Mounts (s t : Session) (head : List HeadElement) : Prop where
  wants : s.Wants t head (barHeads (s.root.newBars t.root))
  isNumbered : t.root.IsNumbered

section

variable {s t : Session} {trace : Trace} {routed : Bool} {bars : List Bar} {nextId : Nat}

/-- Where no bar comes, nothing is wanted. -/
lemma Session.Mounts.of_addsNoBar (hs : s.root.IsNumbered) (h : s.root.AddsNoBar t.root)
    (hlinked : t.linked = s.linked) : s.Mounts t [] where
  wants := by
    rw [h.newBars_eq_zero]
    exact .nothing hlinked
  isNumbered := h.isNumbered hs

lemma Session.mounts_self (hs : s.root.IsNumbered) : s.Mounts s [] :=
  .of_addsNoBar hs s.root.addsNoBar_self rfl

lemma Session.mounts_go (hs : s.root.IsNumbered) (m : Move) : s.Mounts (s.go m) [] :=
  .of_addsNoBar hs (s.root.addsNoBar_arrive _) rfl

/-- The bar of the app is mounted with the page, if there is one. -/
lemma Session.mounts_openPage {screen : Screen} (hroot : s.root = .app screen)
    (hscreen : (Root.app screen).barIds = []) : s.Mounts s.openPage.1 s.openPage.2.head := by
  have hs : s.root.IsNumbered := by
    rw [hroot]
    trivial
  rw [Session.openPage]
  split
  · exact .of_addsNoBar hs ⟨List.nil_subset _, fun _ => trivial⟩ rfl
  · refine ⟨?_, trivial⟩
    rw [Root.newBars_of_barIds_eq_nil (hroot ▸ hscreen)]
    change s.Wants _ _ (barHeads 1)
    rw [barHeads_one]
    exact (s.wants_wantHead barHead).andThen rfl rfl

lemma Session.wants_addBar (hroot : s.root = .barList routed bars nextId)
    (navigator : Option String) :
    s.Wants (s.addBar navigator).1 (s.addBar navigator).2.head barHead := by
  rw [Session.addBar, hroot]
  exact (s.wants_wantHead barHead).andThen rfl rfl

/-- A bar that is added is the only new one. -/
lemma Session.mounts_addBar (hs : s.root.IsNumbered) (navigator : Option String) :
    s.Mounts (s.addBar navigator).1 (s.addBar navigator).2.head := by
  cases hroot : s.root with
  | app screen =>
    rw [s.addBar_of_isBarList (by rw [hroot]; rfl)]
    exact Session.mounts_self hs
  | linkList routed links =>
    rw [s.addBar_of_isBarList (by rw [hroot]; rfl)]
    exact Session.mounts_self hs
  | barList routed bars nextId =>
    rw [hroot] at hs
    have hadded : (s.addBar navigator).1.root = .barList routed (bars ++ [⟨nextId, navigator,
        BarLinks.mount s.registry (navigator.or s.navigator)⟩]) (nextId + 1) := by
      rw [Session.addBar, hroot]
      rfl
    refine ⟨?_, ?_⟩
    · rw [hadded, hroot, Root.newBars_concat (b := ⟨nextId, _, _⟩) hs, barHeads_one]
      exact Session.wants_addBar hroot navigator
    · rw [hadded]
      intro b hb
      rcases List.mem_append.mp hb with hb | hb
      · exact Nat.lt_succ_of_lt (hs b hb)
      · rw [List.mem_singleton.mp hb]
        exact Nat.lt_succ_self nextId

lemma Session.mounts_leave (hs : s.root.IsNumbered) (url : String) :
    s.Mounts (s.leave url).1 (s.leave url).2.head := by
  rw [Session.leave]
  split
  · exact Session.mounts_self hs
  · exact .of_addsNoBar hs s.root.addsNoBar_fail rfl

/-- Bars that run again are not mounted again. -/
lemma Session.mounts_rerunRoot (hs : s.root.IsNumbered) :
    s.Mounts s.rerunRoot.1 s.rerunRoot.2.head := by
  rw [Session.rerunRoot]
  split
  · exact .of_addsNoBar hs s.root.addsNoBar_self rfl
  · exact Session.mounts_self hs
  · exact .of_addsNoBar hs (s.root.addsNoBar_mapBars_map fun b => rfl) rfl

lemma Session.ClickEffect.mounts (h : s.ClickEffect t trace) (hs : s.root.IsNumbered) :
    s.Mounts t trace.head := by
  cases h with
  | keep => exact Session.mounts_self hs
  | activate _ => exact Session.mounts_self hs
  | visit _ => exact Session.mounts_go hs _
  | recover hroot => exact Session.mounts_openPage hroot rfl

/-- Of all steps only three mount a bar: two that open the page and the one that adds a bar. -/
lemma Session.StepEffect.mounts {step : Step} (h : s.StepEffect step t trace)
    (hs : s.root.IsNumbered) : s.Mounts t trace.head := by
  cases h with
  | noRouter _ _ => exact Session.mounts_self hs
  | go _ m => exact Session.mounts_go hs m
  | leave _ url => exact Session.mounts_leave hs url
  | recover h => exact h.mounts hs
  | click h _ => exact h.mounts hs
  | register b => exact .of_addsNoBar hs s.root.addsNoBar_self rfl
  | rerunRoot => exact Session.mounts_rerunRoot hs
  | addBar navigator => exact Session.mounts_addBar hs navigator
  | setNavigator _ => exact .of_addsNoBar hs s.root.addsNoBar_self rfl
  | noSuchBar _ _ => exact Session.mounts_self hs
  | rerunBar _ =>
    exact .of_addsNoBar hs (s.root.addsNoBar_mapBars_map fun b => by split <;> rfl) rfl
  | removeBar _ =>
    refine .of_addsNoBar hs (s.root.addsNoBar_mapBars ?_) rfl
    intro bars b hb
    exact ⟨b, List.mem_of_mem_filter hb, rfl⟩
  | setBarNavigator _ _ =>
    exact .of_addsNoBar hs (s.root.addsNoBar_mapBars_map fun b => by split <;> rfl) rfl

/-- A step wants in the head what the bars want that it mounts. -/
lemma Session.mounts_step (hs : s.root.IsNumbered) (step : Step) :
    s.Mounts (s.step step).session (s.step step).trace.head :=
  (s.stepEffect step).mounts hs

/-- Running a component again brings nothing into the head. -/
lemma Session.head_rerun (s : Session) (bar : Option Nat) :
    (s.step (.rerun bar)).trace.head = [] := by
  cases bar with
  | none =>
    change s.rerunRoot.2.head = []
    rw [Session.rerunRoot]
    split <;> rfl
  | some id =>
    rw [Session.step, Session.rerunBar, Session.onBar]
    split <;> rfl

/-! ### What a run wants in the head -/

lemma Session.wants_after (hs : s.root.IsNumbered) (steps : List Step) :
    s.Wants (s.after steps) ((s.run steps).flatMap (·.trace.head))
      (barHeads (s.barMounts steps)) := by
  induction steps generalizing s with
  | nil => exact .nothing rfl
  | cons step steps ih =>
    cases hcrash : s.isCrashed with
    | true =>
      rw [s.after_of_isCrashed hcrash, s.run_of_isCrashed hcrash, Session.barMounts,
        if_pos hcrash]
      exact .nothing rfl
    | false =>
      have hstep := Session.mounts_step hs step
      rw [s.after_cons hcrash, s.run_cons hcrash, Session.barMounts, hcrash, List.flatMap_cons,
        if_neg Bool.false_ne_true, barHeads_add]
      exact hstep.wants.trans (ih hstep.isNumbered)

/-- Bars that are added one after another want each their link and their style. -/
lemma Session.wants_addBars (hroot : s.root = .barList routed bars nextId)
    (navigators : List (Option String)) :
    s.Wants (s.addBars navigators).1 (s.addBars navigators).2.head
      (barHeads navigators.length) := by
  induction navigators generalizing s bars nextId with
  | nil => exact .nothing rfl
  | cons navigator navigators ih =>
    have hadded := (s.stepEffect (.addBar navigator)).root_of_barList hroot
    rw [List.length_cons, Nat.add_comm, barHeads_add, barHeads_one]
    exact (Session.wants_addBar hroot navigator).trans (ih hadded)

end

/-- The elements that a scene wants in the head before any bar is mounted. -/
def Scene.head : Scene → List HeadElement
  | .app => [.stylesheetLink pageStylesheetHref]
  | .linkList _ _ | .barList _ _ => []

section

variable {setup : Setup}

/-- One bar is mounted at the beginning for each navigator. -/
lemma Setup.newBars_mount_of_barList {routed : Bool} {navigators : List (Option String)}
    (hscene : setup.scene = .barList routed navigators) :
    setup.scene.root.newBars setup.mount.1.root = navigators.length := by
  obtain ⟨bars, hbars, -, hmap⟩ := setup.hasBars_mount hscene
  have hlength := congrArg List.length hmap
  rw [List.length_map, List.length_map] at hlength
  rw [Root.newBars_of_barIds_eq_nil (by rw [hscene]; rfl), hbars.root_eq, Root.barIds,
    List.length_map, hlength]

/-- The app wants the stylesheet of the pages first, and then what its bar wants. -/
lemma Session.wants_mountApp {s : Session} (hroot : s.root = .app .crashed) :
    s.Wants s.mountApp.1 s.mountApp.2.head
        (.stylesheetLink pageStylesheetHref :: barHeads (s.root.newBars s.mountApp.1.root)) ∧
      s.mountApp.1.root.IsNumbered := by
  let ready := (s.register [.routed]).1.wantHead [.stylesheetLink pageStylesheetHref]
  have hready : s.Wants ready.1 ready.2.head [.stylesheetLink pageStylesheetHref] := ⟨rfl, rfl⟩
  have hopen : ready.1.Mounts ready.1.openPage.1 ready.1.openPage.2.head :=
    Session.mounts_openPage hroot rfl
  exact ⟨hready.trans hopen.wants, hopen.isNumbered⟩

/-- Whatever the scene, the mount wants the elements of the scene and those of its bars. -/
lemma Setup.wants_mount (setup : Setup) :
    setup.blank.Wants setup.mount.1 setup.mount.2.head
        (setup.scene.head ++ barHeads (setup.scene.root.newBars setup.mount.1.root)) ∧
      setup.mount.1.root.IsNumbered := by
  have hbefore : setup.blank.Wants (setup.blank.register setup.builders).1 [] [] := .nothing rfl
  cases hscene : setup.scene with
  | app =>
    have hroot : (setup.blank.register setup.builders).1.root = .app .crashed := by
      change setup.scene.root = _
      rw [hscene]
      rfl
    have hmount := Session.wants_mountApp hroot
    rw [hroot] at hmount
    rw [Setup.mount, hscene]
    exact ⟨hbefore.trans hmount.1, hmount.2⟩
  | linkList routed links =>
    have hroot : setup.mount.1.root = .linkList routed links := by
      rw [Setup.mount, hscene]
      change setup.scene.root = _
      rw [hscene]
      rfl
    rw [hroot]
    refine ⟨?_, trivial⟩
    rw [Setup.mount, hscene]
    exact .nothing rfl
  | barList routed navigators =>
    obtain ⟨bars, hbars, -⟩ := setup.hasBars_mount hscene
    refine ⟨?_, ?_⟩
    · rw [← hscene, setup.newBars_mount_of_barList hscene, Setup.mount, hscene]
      exact hbefore.trans (Session.wants_addBars (setup.hasBars_blank hscene).root_eq navigators)
    · rw [hbars.root_eq]
      exact hbars.id_lt

/-! ### How many bars stand side by side are mounted -/

/-- Side by side, only a step that adds a bar brings a new one. -/
lemma Session.HasBars.newBars_step {s : Session} {routed : Bool} {bars : List Bar} {nextId : Nat}
    (h : s.HasBars routed bars nextId) (step : Step) :
    s.root.newBars (s.step step).session.root = addedBars [step] := by
  have hmap : ∀ f : Bar → Bar, (∀ b, (f b).id = b.id) →
      (Root.barList routed bars nextId).newBars (.barList routed (bars.map f) nextId) = 0 :=
    fun f hf => (Root.addsNoBar_mapBars_map (.barList routed bars nextId) hf).newBars_eq_zero
  have hsame := (Root.barList routed bars nextId).addsNoBar_self.newBars_eq_zero
  rw [(h.step step).root_eq, h.root_eq]
  cases step with
  | router r => exact hsame
  | click c => exact hsame
  | register b => exact hsame
  | rerun bar =>
    cases bar with
    | none => exact hmap _ fun b => rfl
    | some id => exact hmap _ fun b => by split <;> rfl
  | addBar navigator => exact Root.newBars_concat (b := ⟨nextId, _, _⟩) h.id_lt
  | removeBar id =>
    have hfilter : (Root.barList routed bars nextId).AddsNoBar
        ((Root.barList routed bars nextId).mapBars (·.filter (·.id ≠ id))) :=
      Root.addsNoBar_mapBars _ fun bars b hb => ⟨b, List.mem_of_mem_filter hb, rfl⟩
    exact hfilter.newBars_eq_zero
  | setNavigator navigator bar =>
    cases bar with
    | none => exact hsame
    | some id => exact hmap _ fun b => by split <;> rfl

lemma Session.HasBars.barMounts_eq {s : Session} {routed : Bool} {bars : List Bar} {nextId : Nat}
    (h : s.HasBars routed bars nextId) (steps : List Step) :
    s.barMounts steps = addedBars steps := by
  induction steps generalizing s bars nextId with
  | nil => rfl
  | cons step steps ih =>
    rw [Session.barMounts, h.isCrashed, if_neg Bool.false_ne_true, h.newBars_step step,
      ih (h.step step), ← addedBars_append, List.singleton_append]

/-- Side by side, the bars of the beginning are mounted and those that are added. -/
lemma Setup.barMounts_of_barList {routed : Bool} {navigators : List (Option String)}
    (hscene : setup.scene = .barList routed navigators) (steps : List Step) :
    setup.barMounts steps = navigators.length + addedBars steps := by
  obtain ⟨bars, hbars, -⟩ := setup.hasBars_mount hscene
  rw [Setup.barMounts, setup.newBars_mount_of_barList hscene, hbars.barMounts_eq]

/-! ### How many bars are mounted elsewhere -/

/-- No other entry of the log reads like the run of a bar. -/
lemma LogEntry.message_eq_iff (entry : LogEntry) :
    entry.message = "NavigationBar render" ↔ entry = .barRun := by
  cases entry with
  | barRun => exact iff_of_true rfl rfl
  | lateRegistration => decide
  | intent link =>
    have hne : "nav intent" ≠ "NavigationBar render" := by decide
    exact iff_of_false hne LogEntry.noConfusion
  | unroutable target error =>
    have hne : "unroutable nav target: " ++ error.message ≠ "NavigationBar render" := by
      intro h
      have hhead := congrArg (fun text : String => text.toList.head?) h
      simp at hhead
    exact iff_of_false hne LogEntry.noConfusion

lemma countP_message_barRun (logs : List LogEntry) :
    logs.countP (·.message = "NavigationBar render") = logs.count .barRun := by
  rw [List.count]
  congr
  funext entry
  simp [LogEntry.message_eq_iff, beq_eq_decide]

/-- No bars stand side by side after a change, and as many bars come with it as runs of bars are
logged. -/
structure Session.LogsMounts (s t : Session) (logs : List LogEntry) : Prop where
  isBarList_eq : t.root.isBarList = false
  count_eq : logs.count .barRun = s.root.newBars t.root

section

variable {s t : Session} {logs : List LogEntry} {trace : Trace}

/-- Where no bar comes, no run may be logged. -/
lemma Session.LogsMounts.of_addsNoBar (ht : t.root.isBarList = false)
    (h : s.root.AddsNoBar t.root) (hlogs : .barRun ∉ logs) : s.LogsMounts t logs where
  isBarList_eq := ht
  count_eq := by rw [h.newBars_eq_zero, List.count_eq_zero.mpr hlogs]

/-- What is done before without a change of the root, and without a run of a bar, does not count. -/
lemma Session.LogsMounts.of_quiet {u : Session} {more : List LogEntry} (h : t.LogsMounts u logs)
    (hroot : t.root = s.root) (hmore : .barRun ∉ more) : s.LogsMounts u (more ++ logs) where
  isBarList_eq := h.isBarList_eq
  count_eq := by
    rw [List.count_append, List.count_eq_zero.mpr hmore, Nat.zero_add, h.count_eq, hroot]

lemma Session.barRun_notMem_register (s : Session) (bs : List Builder) :
    .barRun ∉ (s.register bs).2.logs := by
  intro h
  cases Registry.eq_lateRegistration_of_mem h

lemma Session.barRun_notMem_runLinks (s : Session) (links : List NavLink) :
    .barRun ∉ (s.runLinks links).2.logs := by
  intro h
  obtain ⟨link, -, hentry⟩ := List.mem_flatMap.mp h
  rw [routedWarnings] at hentry
  split at hentry
  · cases hentry
  · cases List.mem_singleton.mp hentry

lemma Session.logsMounts_self (hs : s.root.isBarList = false) : s.LogsMounts s [] :=
  .of_addsNoBar hs s.root.addsNoBar_self List.not_mem_nil

lemma Session.logsMounts_go (hs : s.root.isBarList = false) (m : Move) :
    s.LogsMounts (s.go m) [] := by
  refine .of_addsNoBar ?_ (s.root.addsNoBar_arrive _) List.not_mem_nil
  rw [Session.go]
  cases hroot : s.root with
  | app screen => rfl
  | linkList routed links => rfl
  | barList routed bars nextId =>
    rw [hroot] at hs
    exact hs

lemma Session.logsMounts_leave (hs : s.root.isBarList = false) (url : String) :
    s.LogsMounts (s.leave url).1 (s.leave url).2.logs := by
  rw [Session.leave]
  split
  · exact Session.logsMounts_self hs
  · refine .of_addsNoBar ?_ s.root.addsNoBar_fail List.not_mem_nil
    cases hroot : s.root with
    | app screen => cases screen <;> rfl
    | linkList routed links => rfl
    | barList routed bars nextId =>
      rw [hroot] at hs
      exact hs

/-- Opening the page mounts a bar and logs its run, or does neither. -/
lemma Session.logsMounts_openPage {screen : Screen} (hroot : s.root = .app screen)
    (hscreen : (Root.app screen).barIds = []) : s.LogsMounts s.openPage.1 s.openPage.2.logs := by
  rw [Session.openPage]
  split
  · exact .of_addsNoBar rfl ⟨List.nil_subset _, fun _ => trivial⟩ List.not_mem_nil
  · refine ⟨rfl, ?_⟩
    rw [Root.newBars_of_barIds_eq_nil (hroot ▸ hscreen)]
    change (BarLinks.logs _).count .barRun = 1
    rw [BarLinks.logs, BarLinks.warnings_eq_nil, List.count_singleton_self]

/-- Only bars side by side run again with the root. -/
lemma Session.logsMounts_rerunRoot (hs : s.root.isBarList = false) :
    s.LogsMounts s.rerunRoot.1 s.rerunRoot.2.logs := by
  rw [Session.rerunRoot]
  split
  · exact .of_addsNoBar hs s.root.addsNoBar_self (s.barRun_notMem_register _)
  · exact .of_addsNoBar hs s.root.addsNoBar_self (s.barRun_notMem_runLinks _)
  · -- bars that run again would be logged, although none of them is mounted
    rename_i hroot
    rw [hroot] at hs
    cases hs

/-- Whatever a step does, it logs the run of a bar exactly if it mounts one. -/
lemma Session.Change.logsMounts (h : s.Change t trace) (hs : s.root.isBarList = false) :
    s.LogsMounts t trace.logs := by
  cases h with
  | keep => exact Session.logsMounts_self hs
  | activate _ => exact .of_addsNoBar hs s.root.addsNoBar_self (by simp [NavLink.activate])
  | visit _ => exact Session.logsMounts_go hs _
  | go m _ => exact Session.logsMounts_go hs m
  | leave url _ => exact Session.logsMounts_leave hs url
  | recover hroot => exact Session.logsMounts_openPage hroot rfl
  | register b => exact .of_addsNoBar hs s.root.addsNoBar_self (s.barRun_notMem_register _)
  | rerun => exact Session.logsMounts_rerunRoot hs
  | setNavigator _ => exact .of_addsNoBar hs s.root.addsNoBar_self List.not_mem_nil

/-- Over a run, as many bars are mounted as runs of bars are logged. -/
lemma Session.count_barRun_run (hs : s.root.isBarList = false) (steps : List Step) :
    ((s.run steps).flatMap (·.trace.logs)).count .barRun = s.barMounts steps := by
  induction steps generalizing s with
  | nil => rfl
  | cons step steps ih =>
    cases hcrash : s.isCrashed with
    | true =>
      rw [s.run_of_isCrashed hcrash, Session.barMounts, if_pos hcrash]
      rfl
    | false =>
      have hstep := (Session.change_step hs step).logsMounts hs
      rw [s.run_cons hcrash, List.flatMap_cons, List.count_append, ih hstep.isBarList_eq,
        Session.barMounts, hcrash, if_neg Bool.false_ne_true, ← hstep.count_eq]
      rfl

end

lemma Session.logsMounts_mountApp {s : Session} (hroot : s.root = .app .crashed) :
    s.LogsMounts s.mountApp.1 s.mountApp.2.logs := by
  let ready := (s.register [.routed]).1.wantHead [.stylesheetLink pageStylesheetHref]
  have hopen : ready.1.LogsMounts ready.1.openPage.1 ready.1.openPage.2.logs :=
    Session.logsMounts_openPage hroot rfl
  have hquiet : .barRun ∉ (s.register [.routed]).2.logs ++ [] := by
    rw [List.append_nil]
    exact s.barRun_notMem_register _
  exact hopen.of_quiet rfl hquiet

lemma Setup.logsMounts_mount (hscene : setup.scene.root.isBarList = false) :
    setup.blank.LogsMounts setup.mount.1 setup.mount.2.logs := by
  have hquiet := setup.blank.barRun_notMem_register setup.builders
  cases hkind : setup.scene with
  | app =>
    have happ : (setup.blank.register setup.builders).1.root = .app .crashed :=
      congrArg Scene.root hkind
    rw [Setup.mount, hkind]
    exact (Session.logsMounts_mountApp happ).of_quiet rfl hquiet
  | linkList routed links =>
    have hrow : ((setup.blank.register setup.builders).1.runLinks links).1.root.isBarList =
        false := hscene
    rw [Setup.mount, hkind]
    refine Session.LogsMounts.of_quiet ?_ rfl hquiet
    exact .of_addsNoBar hrow (Root.addsNoBar_self _) (Session.barRun_notMem_runLinks _ links)
  | barList routed navigators =>
    rw [hkind] at hscene
    cases hscene

/-- Where no bars stand side by side, no bar runs again, so that the bars that are mounted can be
counted in the log. -/
lemma Setup.barMounts_of_log (hscene : setup.scene.root.isBarList = false) (steps : List Step) :
    setup.barMounts steps = ((setup.record steps).flatMap (·.trace.logs)).countP
      (·.message = "NavigationBar render") := by
  have hmount := setup.logsMounts_mount hscene
  rw [countP_message_barRun, Setup.record, List.flatMap_cons, List.count_append,
    Session.count_barRun_run hmount.isBarList_eq, Setup.barMounts]
  exact congrArg (· + _) hmount.count_eq.symm

/-! ### What comes into the head -/

/-- The elements that come into the head with bars: one link, and a style with each of them. -/
def mountedHead : Nat → List HeadElement
  | 0 => []
  | mounts + 1 =>
    .stylesheetLink barStylesheetHref :: List.replicate (mounts + 1) (.style stylesheet)

def Setup.head (setup : Setup) (steps : List Step) : List HeadElement :=
  (setup.record steps).flatMap (·.trace.head)

lemma pageStylesheetHref_ne : pageStylesheetHref ≠ barStylesheetHref := by decide

/-- Once the stylesheet is linked, further bars bring styles only. -/
lemma newHead_barHeads_of_mem {linked : List String} (h : barStylesheetHref ∈ linked)
    (mounts : Nat) :
    newHead linked (barHeads mounts) = List.replicate mounts (.style stylesheet) := by
  induction mounts with
  | zero => rfl
  | succ mounts ih =>
    rw [barHeads_succ, newHead, if_pos h, newHead, ih, List.replicate_succ]

/-- The first bar brings the link, and every bar a style. -/
lemma newHead_barHeads {linked : List String} (h : barStylesheetHref ∉ linked) (mounts : Nat) :
    newHead linked (barHeads mounts) = mountedHead mounts := by
  cases mounts with
  | zero => rfl
  | succ mounts =>
    rw [barHeads_succ, newHead, if_neg h, newHead, newHead_barHeads_of_mem List.mem_cons_self,
      mountedHead, List.replicate_succ]

lemma Scene.newHead_head (scene : Scene) : newHead [] scene.head = scene.head := by
  cases scene <;> rfl

/-- No scene links the stylesheet of the bar by itself. -/
lemma Scene.barStylesheetHref_notMem (scene : Scene) :
    barStylesheetHref ∉ linkedAfter [] scene.head := by
  rw [mem_linkedAfter]
  cases scene <;> simp [Scene.head, pageStylesheetHref_ne.symm]

/-- The head after a run is known from the scene and the number of bars that were mounted. -/
lemma Setup.head_eq (setup : Setup) (steps : List Step) :
    setup.head steps = setup.scene.head ++ mountedHead (setup.barMounts steps) := by
  -- the scene wants its own elements, and mount and run together want those of all bars
  obtain ⟨hmount, hnumbered⟩ := setup.wants_mount
  have hrun := (hmount.trans (Session.wants_after hnumbered steps)).head_eq
  rw [List.append_assoc, ← barHeads_add, newHead_append] at hrun
  change setup.head steps = newHead [] _ ++ newHead (linkedAfter [] _) _ at hrun
  rw [hrun, setup.scene.newHead_head, newHead_barHeads setup.scene.barStylesheetHref_notMem]
  rfl

end

/-! ### Counting -/

/-- Bars link one stylesheet, and link it once. -/
lemma count_stylesheetLink_mountedHead (mounts : Nat) (href : String) :
    (mountedHead mounts).count (.stylesheetLink href) =
      if 0 < mounts ∧ barStylesheetHref = href then 1 else 0 := by
  cases mounts with
  | zero => simp [mountedHead]
  | succ mounts => simp [mountedHead, List.count_cons, List.count_replicate]

lemma Scene.count_stylesheetLink_head (scene : Scene) (href : String) :
    scene.head.count (.stylesheetLink href) =
      if scene = .app ∧ pageStylesheetHref = href then 1 else 0 := by
  cases scene <;> simp [Scene.head, List.count_cons]

lemma Scene.tag_ne_style {scene : Scene} {e : HeadElement} (h : e ∈ scene.head) :
    e.tag ≠ "style" := by
  cases scene with
  | app =>
    rw [List.mem_singleton.mp h]
    decide
  | linkList _ _ => cases h
  | barList _ _ => cases h

lemma eq_stylesheet_of_mem_mountedHead {mounts : Nat} {contents : String}
    (h : .style contents ∈ mountedHead mounts) : contents = stylesheet := by
  cases mounts with
  | zero => cases h
  | succ mounts => simpa [mountedHead] using h

/-- Each bar that is mounted brings a style of its own. -/
lemma countP_style_mountedHead (mounts : Nat) :
    (mountedHead mounts).countP (·.tag = "style") = mounts := by
  cases mounts with
  | zero => rfl
  | succ mounts => simp [mountedHead, HeadElement.tag, List.countP_replicate]

/-- Every element of some kind has a given one somewhere before it. -/
def HeadElement.Leads (e : HeadElement) (p : HeadElement → Prop) (head : List HeadElement) : Prop :=
  ∀ before f after, head = before ++ f :: after → p f → e ∈ before

section

variable {e : HeadElement} {p : HeadElement → Prop} {es head : List HeadElement}

lemma HeadElement.leads_nil : e.Leads p [] := by
  intro before f after h
  simp at h

lemma HeadElement.leads_cons (he : ¬ p e) : e.Leads p (e :: es) := by
  intro before f after h hf
  cases before with
  | nil =>
    rw [List.nil_append, List.cons.injEq] at h
    exact absurd (h.1 ▸ hf) he
  | cons d before =>
    rw [List.cons_append, List.cons.injEq] at h
    rw [h.1]
    exact List.mem_cons_self

/-- Elements of another kind can come first. -/
lemma HeadElement.Leads.append_left (h : e.Leads p head) (hes : ∀ f ∈ es, ¬ p f) :
    e.Leads p (es ++ head) := by
  intro before f after heq hf
  rw [List.append_eq_append_iff] at heq
  obtain ⟨rest, hbefore, hhead⟩ | ⟨rest, hes', hrest⟩ := heq
  · rw [hbefore]
    exact List.mem_append_right _ (h rest f after hhead hf)
  · -- the element comes from the front only if it is the first one behind it
    cases rest with
    | nil =>
      have hmem := h [] f after hrest.symm hf
      exact absurd hmem List.not_mem_nil
    | cons d rest =>
      rw [List.cons_append, List.cons.injEq] at hrest
      refine absurd hf (hes f ?_)
      rw [hes', hrest.1]
      exact List.mem_append_right _ List.mem_cons_self

end

lemma leads_mountedHead (mounts : Nat) :
    (HeadElement.stylesheetLink barStylesheetHref).Leads (·.tag = "style")
      (mountedHead mounts) := by
  cases mounts with
  | zero => exact HeadElement.leads_nil
  | succ mounts => exact HeadElement.leads_cons (by simp [HeadElement.tag])

/-- However bars are mounted, run again and removed in a run, no stylesheet is linked twice. That of
the bar is linked exactly if a bar was ever mounted, and that of the pages exactly in the app, and
before everything else. There are as many styles as bars that were mounted, each with the text of
the stylesheet and none before the link to it, and running a component again adds nothing. The bars
that are mounted are those that are asked for at the beginning and those that are added, or, where
none stand side by side, as many as runs of bars are logged. -/
theorem Setup.head_counts_mounts (setup : Setup) (steps : List Step) :
    (∀ href, (setup.head steps).count (.stylesheetLink href) ≤ 1) ∧
    ((setup.head steps).count (.stylesheetLink barStylesheetHref) = 1 ↔
      0 < setup.barMounts steps) ∧
    ((setup.head steps).count (.stylesheetLink pageStylesheetHref) = 1 ↔ setup.scene = .app) ∧
    (setup.scene = .app → (HeadElement.stylesheetLink pageStylesheetHref).Leads
      (· ≠ .stylesheetLink pageStylesheetHref) (setup.head steps)) ∧
    (setup.head steps).countP (·.tag = "style") = setup.barMounts steps ∧
    (∀ contents, .style contents ∈ setup.head steps → contents = stylesheet) ∧
    (HeadElement.stylesheetLink barStylesheetHref).Leads (·.tag = "style") (setup.head steps) ∧
    (∀ bar, ((setup.after steps).step (.rerun bar)).trace.head = []) ∧
    (∀ routed navigators, setup.scene = .barList routed navigators →
      setup.barMounts steps = navigators.length + addedBars steps) ∧
    (setup.scene.root.isBarList = false → setup.barMounts steps =
      ((setup.record steps).flatMap (·.trace.logs)).countP
        (·.message = "NavigationBar render")) := by
  -- each of the two stylesheets has a part of the head to itself
  have hcount : ∀ href, (setup.head steps).count (.stylesheetLink href) =
      (if setup.scene = .app ∧ pageStylesheetHref = href then 1 else 0) +
        if 0 < setup.barMounts steps ∧ barStylesheetHref = href then 1 else 0 := by
    intro href
    rw [setup.head_eq, List.count_append, Scene.count_stylesheetLink_head,
      count_stylesheetLink_mountedHead]
  refine ⟨?_, ?_, ?_, ?_, ?_, ?_, ?_, fun bar => Session.head_rerun _ bar,
    fun routed navigators hscene => setup.barMounts_of_barList hscene steps,
    fun hscene => setup.barMounts_of_log hscene steps⟩
  · intro href
    rw [hcount]
    by_cases hpage : pageStylesheetHref = href
    · subst hpage
      simp only [pageStylesheetHref_ne.symm, and_false, if_false]
      split <;> omega
    · simp only [hpage, and_false, if_false]
      split <;> omega
  · rw [hcount]
    simp [pageStylesheetHref_ne, Nat.pos_iff_ne_zero]
  · rw [hcount]
    simp [pageStylesheetHref_ne.symm]
  · intro hscene
    rw [setup.head_eq, hscene]
    exact HeadElement.leads_cons (not_not_intro rfl)
  · have hscene : setup.scene.head.countP (·.tag = "style") = 0 := by
      rw [List.countP_eq_zero]
      intro e he
      simpa using Scene.tag_ne_style he
    rw [setup.head_eq, List.countP_append, hscene, countP_style_mountedHead, Nat.zero_add]
  · intro contents h
    rw [setup.head_eq, List.mem_append] at h
    rcases h with h | h
    · exact absurd rfl (Scene.tag_ne_style h)
    · exact eq_stylesheet_of_mem_mountedHead h
  · rw [setup.head_eq]
    exact (leads_mountedHead _).append_left fun f hf => Scene.tag_ne_style hf

end SiteNav
