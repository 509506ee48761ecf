import SiteNav.Proofs.Session.Delivery

/-!
# What bars show

Where there is no router, a bar shows what the builder that was registered when the bar last ran
makes of the two links, or else anchors of its own. So a bar that runs again shows what a new bar
would show, and until then it shows and does what it did before, whatever is registered.

Navigators and clicks leave no trace in the document. A board keeps of a session only what its bars
show, and follows every step without a look at either of them.
-/

namespace SiteNav

/-! ### The text of bars without a router -/

/-- A link of a bar where there is no router, as text: what the builder that the bar found when it
ran makes of the link, or a plain anchor. -/
def barLinkText : Option Builder → NavLink → String
  | none, link => plainAnchorText link
  | some b, link => Html.renderAll (b.link none link)

/-- A bar where there is no router, as text, by the builder that it found when it ran. -/
def unroutedBarText (builder : Option Builder) : String :=
  "<nav id=\"navbar\" class=\"navbar\">" ++ barLinkText builder .home ++
    barLinkText builder .chat ++ "</nav>"

/-- A bar as it is shown where there is no router, as text. -/
def Bar.text (b : Bar) : String := (b.links.html none).render

/-- The text of a link is known from the builder that its bar has found. -/
lemma BarLinks.renderAll_link (links : BarLinks) (link : NavLink) :
    Html.renderAll (links.link none link) = barLinkText links.builder? link := by
  cases links with
  | offering navigator =>
    rw [BarLinks.link, Html.renderAll_cons, Html.renderAll_nil, render_offeringAnchor,
      render_plainAnchor, String.append_empty, BarLinks.builder?_offering, barLinkText]
  | built b => rw [BarLinks.link, BarLinks.builder?_built, barLinkText]

/-- The text of a bar is known from the builder that the bar has found. -/
lemma Bar.text_eq (b : Bar) : b.text = unroutedBarText b.links.builder? := by
  have hlinks : Html.renderAll (navLinks.flatMap (b.links.link none)) =
      barLinkText b.links.builder? .home ++ barLinkText b.links.builder? .chat := by
    simp only [navLinks, List.flatMap_cons, List.flatMap_nil, List.append_nil,
      Html.renderAll_append, BarLinks.renderAll_link]
  unfold unroutedBarText
  rw [Bar.text, BarLinks.html, Html.render_element, hlinks, ← String.toList_inj]
  simp [attributesText, classAttribute, barId, barClass]

lemma renderAll_map_bars (bars : List Bar) :
    Html.renderAll (bars.map fun b => b.links.html none) = String.join (bars.map Bar.text) := by
  rw [Html.renderAll_eq_join, List.map_map]
  rfl

/-- What is recorded of bars without a router is their texts, one after another. -/
lemma Session.HasBars.html_snapshot {s : Session} {bars : List Bar} {nextId : Nat}
    (h : s.HasBars false bars nextId) (trace : Trace) (outcome : Outcome) :
    (s.snapshot trace outcome).html = some (String.join (bars.map Bar.text)) := by
  have hlocation : s.location = none := by
    rw [Session.location, h.root_eq]
    rfl
  rw [Session.snapshot, h.isCrashed, Session.document, hlocation, h.root_eq, Root.document,
    renderAll_map_bars]
  rfl

/-! ### Boards -/

/-- What a session of bars shows: the builder that is registered, the number of the next bar, and
with the number of each bar the builder by which its links were made. -/
structure Board where
  builder : Option Builder
  nextId : Nat
  bars : List (Nat × Option Builder)

def Board.step (board : Board) : Step → Board
  | .register b => { board with builder := board.builder.or (some b) }
  | .rerun none => { board with bars := board.bars.map fun x => (x.1, board.builder.or x.2) }
  | .rerun (some id) =>
    { board with
      bars := board.bars.map fun x => if x.1 = id then (x.1, board.builder.or x.2) else x }
  | .addBar _ =>
    { board with nextId := board.nextId + 1, bars := board.bars ++ [(board.nextId, board.builder)] }
  | .removeBar id => { board with bars := board.bars.filter (·.1 ≠ id) }
  | .router _ | .click _ | .setNavigator _ _ => board

def boardOf (registry : Registry) (bars : List Bar) (nextId : Nat) : Board :=
  ⟨registry.builder, nextId, bars.map fun b => (b.id, b.links.builder?)⟩

/-- The board knows what the document shows. -/
lemma map_text_eq_map_boardOf (registry : Registry) (bars : List Bar) (nextId : Nat) :
    bars.map Bar.text = (boardOf registry bars nextId).bars.map fun x => unroutedBarText x.2 := by
  rw [boardOf, List.map_map]
  exact List.map_congr_left fun b _ => b.text_eq

/-- A step registers on the board what it registers in the session. -/
lemma Board.builder_step (board : Board) (step : Step) :
    (board.step step).builder = board.builder.or (step.registrations []).head? := by
  cases step with
  | register b => rfl
  | rerun bar => cases bar <;> exact Option.or_none.symm
  | router _ => exact Option.or_none.symm
  | click _ => exact Option.or_none.symm
  | addBar _ => exact Option.or_none.symm
  | removeBar _ => exact Option.or_none.symm
  | setNavigator _ _ => exact Option.or_none.symm

/-- The board follows every step of the session. -/
lemma Session.HasBars.board_step {s : Session} {routed : Bool} {bars : List Bar} {nextId : Nat}
    (h : s.HasBars routed bars nextId) (step : Step) :
    boardOf (s.step step).session.registry (s.barsAfter bars nextId step)
      (nextId + addedBars [step]) = (boardOf s.registry bars nextId).step step := by
  have hregistry := (s.registers_step step).registry_eq
  rw [h.root_eq] at hregistry
  have hbuilder : (s.step step).session.registry.builder =
      ((boardOf s.registry bars nextId).step step).builder := by
    rw [hregistry, Registry.builder_registerAll, Board.builder_step]
    rfl
  rw [boardOf, hbuilder]
  cases step with
  | router r => rfl
  | click c => rfl
  | register b => rfl
  | rerun bar =>
    cases bar with
    | none => simp [boardOf, Board.step, Session.barsAfter, Bar.rerun, addedBars]
    | some id =>
      simp only [boardOf, Board.step, Session.barsAfter, Bar.rerun, addedBars, List.map_map]
      refine congrArg (Board.mk _ _) (List.map_congr_left fun b _ => ?_)
      rw [Function.comp_apply, Function.comp_apply]
      split
      · simp
      · rfl
  | addBar navigator => simp [boardOf, Board.step, Session.barsAfter, addedBars]
  | removeBar id =>
    simp [boardOf, Board.step, Session.barsAfter, addedBars, List.filter_map, Function.comp_def]
  | setNavigator navigator bar =>
    cases bar with
    | none => rfl
    | some id =>
      simp only [boardOf, Board.step, Session.barsAfter, addedBars, List.map_map]
      refine congrArg (Board.mk _ _) (List.map_congr_left fun b _ => ?_)
      rw [Function.comp_apply]
      split <;> rfl

lemma Session.HasBars.board_after {s : Session} {routed : Bool} {bars : List Bar} {nextId : Nat}
    (h : s.HasBars routed bars nextId) (steps : List Step) :
    ∃ bars' nextId', (s.after steps).HasBars routed bars' nextId' ∧
      boardOf (s.after steps).registry bars' nextId' =
        steps.foldl Board.step (boardOf s.registry bars nextId) := by
  induction steps generalizing s bars nextId with
  | nil => exact ⟨bars, nextId, h, rfl⟩
  | cons step steps ih =>
    rw [s.after_cons h.isCrashed, List.foldl_cons, ← h.board_step step]
    exact ih (h.step step)

/-- What the bars of a mount show is the same as if they had been added one by one. -/
lemma Session.HasBars.addBars_eq_after {s : Session} {routed : Bool} {bars : List Bar}
    {nextId : Nat} (h : s.HasBars routed bars nextId) (navigators : List (Option String)) :
    (s.addBars navigators).1 = s.after (navigators.map .addBar) := by
  induction navigators generalizing s bars nextId with
  | nil => rfl
  | cons navigator navigators ih =>
    rw [List.map_cons, s.after_cons h.isCrashed]
    exact ih (h.step (.addBar navigator))

/-- The board of a run is that of its steps, once the bars of the mount are added by steps too. -/
lemma Setup.board_after {setup : Setup} {routed : Bool} {navigators : List (Option String)}
    (hscene : setup.scene = .barList routed navigators) (steps : List Step) :
    ∃ bars nextId, (setup.after steps).HasBars routed bars nextId ∧
      boardOf (setup.after steps).registry bars nextId =
        (navigators.map Step.addBar ++ steps).foldl Board.step ⟨setup.builders.head?, 0, []⟩ := by
  have hblank := setup.hasBars_blank hscene
  have hafter : setup.after steps =
      (setup.blank.register setup.builders).1.after (navigators.map .addBar ++ steps) := by
    rw [Session.after_append, ← hblank.addBars_eq_after, Setup.after, Setup.mount, hscene]
    rfl
  obtain ⟨bars, nextId, hbars, hboard⟩ := hblank.board_after (navigators.map .addBar ++ steps)
  rw [setup.registry_blank] at hboard
  rw [hafter]
  exact ⟨bars, nextId, hbars, hboard⟩

/-! ### Steps that do not show -/

/-- A step without what does not show where there is no router: clicks, moves through the history,
and navigators. -/
def Step.core? : Step → Option Step
  | .register b => some (.register b)
  | .rerun bar => some (.rerun bar)
  | .addBar _ => some (.addBar none)
  | .removeBar id => some (.removeBar id)
  | .router _ | .click _ | .setNavigator _ _ => none

/-- What does not show can be left out of the steps of a board. -/
lemma Board.foldl_core? (board : Board) (steps : List Step) :
    (steps.filterMap Step.core?).foldl Board.step board = steps.foldl Board.step board := by
  rw [List.foldl_filterMap]
  congr
  funext board step
  cases step <;> rfl

/-- Which navigators the first bars have does not show. -/
lemma filterMap_core?_map_addBar (navigators : List (Option String)) :
    (navigators.map Step.addBar).filterMap Step.core? =
      List.replicate navigators.length (.addBar none) := by
  rw [List.filterMap_map, ← List.map_const', ← List.filterMap_eq_map]
  rfl

/-- What bars show depends neither on navigators nor on steps that do not show. -/
lemma Setup.map_text_congr {setup setup' : Setup} {routed routed' : Bool}
    {navigators navigators' : List (Option String)}
    (hscene : setup.scene = .barList routed navigators)
    (hscene' : setup'.scene = .barList routed' navigators')
    (hbuilders : setup'.builders = setup.builders)
    (hlength : navigators'.length = navigators.length) {steps steps' : List Step}
    (hcore : steps'.filterMap Step.core? = steps.filterMap Step.core?) :
    (setup'.after steps').root.bars.map Bar.text = (setup.after steps).root.bars.map Bar.text := by
  obtain ⟨bars, nextId, hbars, hboard⟩ := setup.board_after hscene steps
  obtain ⟨bars', nextId', hbars', hboard'⟩ := setup'.board_after hscene' steps'
  rw [← Board.foldl_core?, List.filterMap_append, filterMap_core?_map_addBar] at hboard hboard'
  rw [hbuilders, hlength, hcore, ← hboard] at hboard'
  rw [hbars.bars_eq, hbars'.bars_eq]
  calc bars'.map Bar.text
      = (boardOf (setup'.after steps').registry bars' nextId').bars.map
          fun x => unroutedBarText x.2 := map_text_eq_map_boardOf _ _ _
    _ = (boardOf (setup.after steps).registry bars nextId).bars.map
          fun x => unroutedBarText x.2 := by rw [hboard']
    _ = bars.map Bar.text := (map_text_eq_map_boardOf _ _ _).symm

/-! ### Bars that run again -/

section

variable {setup : Setup} {routed : Bool} {navigators : List (Option String)}
  (hscene : setup.scene = .barList routed navigators)

include hscene

/-- A bar shows no builder while none is registered. -/
lemma Setup.builder_or_builder? {steps : List Step} {b : Bar}
    (hb : b ∈ (setup.after steps).root.bars) :
    (setup.after steps).registry.builder.or b.links.builder? =
      (setup.after steps).registry.builder := by
  obtain ⟨p, q, rfl, -, -, hbuilder⟩ := Setup.exists_lastRun hscene hb
  rw [setup.builder_after_of_barList hscene, hbuilder, setup.head?_registrations_or]

/-- A bar that runs again shows what a new one would show. -/
lemma Setup.text_rerun_eq_text_fresh {steps : List Step} {b : Bar}
    (hb : b ∈ (setup.after steps).root.bars) {step : Step} (hstep : step.Reruns b.id)
    (navigator : Option String) :
    ∃ again fresh, (setup.after (steps ++ [step])).root.bar? b.id = some again ∧
      (setup.after (steps ++ [.addBar navigator])).root.bars =
        (setup.after steps).root.bars ++ [fresh] ∧ again.text = fresh.text := by
  obtain ⟨bars, hbars⟩ := setup.hasBars_after hscene steps
  have hbuilder := setup.builder_or_builder? hscene hb
  rw [hbars.bars_eq] at hb ⊢
  rw [Setup.after_concat hbars.isCrashed, Setup.after_concat hbars.isCrashed]
  refine ⟨b.rerun (setup.after steps).registry, _,
    (hbars.step step).bar?_eq (Session.rerun_mem_barsAfter hb hstep),
    (hbars.step (.addBar navigator)).bars_eq, ?_⟩
  rw [Bar.text_eq, Bar.text_eq, Bar.rerun, BarLinks.builder?_rerun, BarLinks.builder?_mount,
    hbuilder]

end

/-! ### Bars that do not run again -/

/-- A step neither runs the bar with a given number again nor removes it. -/
def Step.Spares (id : Nat) : Step → Prop
  | .rerun none => False
  | .rerun (some other) | .removeBar other => other ≠ id
  | .router _ | .click _ | .register _ | .addBar _ | .setNavigator _ _ => True

/-- A bar that a step spares keeps its number and its links. -/
lemma Session.exists_mem_barsAfter {s : Session} {bars : List Bar} {nextId : Nat} {step : Step}
    {b : Bar} (hb : b ∈ bars) (h : step.Spares b.id) :
    ∃ c ∈ s.barsAfter bars nextId step, c.id = b.id ∧ c.links = b.links := by
  cases step with
  | router r => exact ⟨b, hb, rfl, rfl⟩
  | click c => exact ⟨b, hb, rfl, rfl⟩
  | register c => exact ⟨b, hb, rfl, rfl⟩
  | rerun bar =>
    cases bar with
    | none => cases h
    | some other => exact ⟨b, List.mem_map.mpr ⟨b, hb, if_neg (Ne.symm h)⟩, rfl, rfl⟩
  | addBar navigator => exact ⟨b, List.mem_append_left _ hb, rfl, rfl⟩
  | removeBar other =>
    exact ⟨b, List.mem_filter.mpr ⟨hb, decide_eq_true (Ne.symm h)⟩, rfl, rfl⟩
  | setNavigator navigator bar =>
    cases bar with
    | none => exact ⟨b, hb, rfl, rfl⟩
    | some other =>
      refine ⟨_, List.mem_map_of_mem hb, ?_, ?_⟩
      · split <;> rfl
      · split <;> rfl

/-- A bar that steps spare keeps its number and its links. -/
lemma Setup.exists_mem_bars_after {setup : Setup} {routed : Bool}
    {navigators : List (Option String)} (hscene : setup.scene = .barList routed navigators)
    {steps : List Step} {b : Bar} (hb : b ∈ (setup.after steps).root.bars) {more : List Step}
    (hmore : ∀ step ∈ more, step.Spares b.id) :
    ∃ c ∈ (setup.after (steps ++ more)).root.bars, c.id = b.id ∧ c.links = b.links := by
  induction more using List.reverseRecOn with
  | nil => exact ⟨b, by rwa [List.append_nil], rfl, rfl⟩
  | append_singleton more step ih =>
    obtain ⟨c, hc, hid, hlinks⟩ := ih fun x hx => hmore x (List.mem_append_left _ hx)
    have hstep : step.Spares c.id := hid ▸ hmore step (by simp)
    obtain ⟨bars, hbars⟩ := setup.hasBars_after hscene (steps ++ more)
    rw [hbars.bars_eq] at hc
    obtain ⟨d, hd, hid', hlinks'⟩ := Session.exists_mem_barsAfter hc hstep
    rw [← List.append_assoc, Setup.after_concat hbars.isCrashed, (hbars.step step).bars_eq]
    exact ⟨d, hd, hid'.trans hid, hlinks'.trans hlinks⟩

/-- A bar that shows its own anchors goes on to show them, for the same navigator. -/
lemma Setup.offering_kept {setup : Setup} {routed : Bool} {navigators : List (Option String)}
    (hscene : setup.scene = .barList routed navigators) {steps : List Step} {b : Bar}
    (hb : b ∈ (setup.after steps).root.bars) {m : Option String} (hm : b.links = .offering m)
    {more : List Step} (hmore : ∀ step ∈ more, step.Spares b.id) :
    ∃ c, (setup.after (steps ++ more)).root.bar? b.id = some c ∧ c.text = unroutedBarText none ∧
      (setup.after (steps ++ more)).AnswersClicks c (offerAnswer m) := by
  obtain ⟨c, hc, hid, hlinks⟩ := setup.exists_mem_bars_after hscene hb hmore
  obtain ⟨bars, hbars⟩ := setup.hasBars_after hscene (steps ++ more)
  rw [hbars.bars_eq] at hc
  rw [hm] at hlinks
  refine ⟨c, hid ▸ hbars.bar?_eq hc, ?_, Session.answersClicks_of_offering hbars.root_eq hlinks⟩
  rw [Bar.text_eq, hlinks, BarLinks.builder?_offering]

/-! ### Bars show their last run -/

lemma Setup.html_after {setup : Setup} {navigators : List (Option String)}
    (hscene : setup.scene = .barList false navigators) (steps : List Step) (trace : Trace)
    (outcome : Outcome) : ((setup.after steps).snapshot trace outcome).html =
      some (String.join ((setup.after steps).root.bars.map Bar.text)) := by
  obtain ⟨bars, hbars⟩ := setup.hasBars_after hscene steps
  rw [hbars.html_snapshot, hbars.bars_eq]

/-- Among bars side by side without a router, however registrations, new bars, renewed runs and
clicks follow one another, the document is that of the bars in order, and a bar shows what was
registered first when it last ran, or plain anchors if nothing was. Hence a bar that runs again
shows what a new bar would show. A bar that shows its own anchors goes on to show them, and to offer
them to the same navigator, until it runs again. Navigators and clicks do not show. -/
theorem Setup.bars_show_last_run {setup : Setup} {navigators : List (Option String)}
    (hscene : setup.scene = .barList false navigators) (steps : List Step) :
    (∀ trace outcome, ((setup.after steps).snapshot trace outcome).html =
      some (String.join ((setup.after steps).root.bars.map Bar.text))) ∧
    (∀ b ∈ (setup.after steps).root.bars,
      (∃ p q, steps = p ++ q ∧ RunsAtEnd navigators.length p b.id ∧
        (∀ step ∈ q, ¬ step.Reruns b.id) ∧
        b.text = unroutedBarText (setup.registrations p).head?) ∧
      (∀ step : Step, step.Reruns b.id → ∀ navigator, ∃ again fresh,
        (setup.after (steps ++ [step])).root.bar? b.id = some again ∧
        (setup.after (steps ++ [.addBar navigator])).root.bars =
          (setup.after steps).root.bars ++ [fresh] ∧
        again.text = fresh.text) ∧
      (∀ m, b.links = .offering m → ∀ more : List Step, (∀ step ∈ more, step.Spares b.id) → ∃ c,
        (setup.after (steps ++ more)).root.bar? b.id = some c ∧ c.text = unroutedBarText none ∧
        (setup.after (steps ++ more)).AnswersClicks c (offerAnswer m))) ∧
    ∀ (setup' : Setup) (navigators' : List (Option String)) (steps' : List Step),
      setup'.scene = .barList false navigators' → setup'.builders = setup.builders →
      navigators'.length = navigators.length →
      steps'.filterMap Step.core? = steps.filterMap Step.core? →
      ∀ trace outcome, ((setup'.after steps').snapshot trace outcome).html =
        ((setup.after steps).snapshot trace outcome).html := by
  refine ⟨setup.html_after hscene steps, fun b hb => ⟨?_, ?_, ?_⟩, ?_⟩
  · obtain ⟨p, q, hsteps, hlast, hq, hbuilder⟩ := Setup.exists_lastRun hscene hb
    exact ⟨p, q, hsteps, hlast, hq, by rw [Bar.text_eq, hbuilder]⟩
  · exact fun step hstep => setup.text_rerun_eq_text_fresh hscene hb hstep
  · exact fun m hm more hmore => setup.offering_kept hscene hb hm hmore
  · intro setup' navigators' steps' hscene' hbuilders hlength hcore trace outcome
    rw [setup'.html_after hscene', setup.html_after hscene,
      setup.map_text_congr hscene hscene' hbuilders hlength hcore]

/-- A builder comes late, and only the second bar runs again: the first one keeps its anchors and
their navigator, and a session without navigators or clicks shows the same. -/
theorem Setup.bars_show_last_run_of_late_builder :
    ∃ setup silent : Setup, setup.scene = .barList false [none, some "own"] ∧
      setup.navigator = some "root" ∧ silent.scene = .barList false [none, none] ∧
      silent.navigator = none ∧
      (∀ trace outcome, ((setup.after [.click ⟨0, .primary, [], "click"⟩, .register .span,
        .rerun (some 1)]).snapshot trace outcome).html =
          some (String.join [unroutedBarText none, unroutedBarText (some .span)])) ∧
      (∃ c, (setup.after [.click ⟨0, .primary, [], "click"⟩, .register .span,
        .rerun (some 1)]).root.bar? 0 = some c ∧ c.text = unroutedBarText none ∧
        (setup.after [.click ⟨0, .primary, [], "click"⟩, .register .span,
          .rerun (some 1)]).AnswersClicks c (offerAnswer (some "root"))) ∧
      ∀ trace outcome, ((silent.after [.register .span, .rerun (some 1)]).snapshot
        trace outcome).html = ((setup.after [.click ⟨0, .primary, [], "click"⟩, .register .span,
          .rerun (some 1)]).snapshot trace outcome).html := by
  let setup : Setup := ⟨"/", "", false, some "root", [], .barList false [none, some "own"]⟩
  let silent : Setup := ⟨"/", "", false, none, [], .barList false [none, none]⟩
  let click : Step := .click ⟨0, .primary, [], "click"⟩
  let late : List Step := [.register .span, .rerun (some 1)]
  let first : Bar := ⟨0, none, .offering (some "root")⟩
  let second : Bar := ⟨1, some "own", .built .span⟩
  have hscene : setup.scene = .barList false [none, some "own"] := rfl
  have hbars : (setup.after (click :: late)).root.bars = [first, second] := rfl
  have hfirst : first ∈ (setup.after [click]).root.bars := List.mem_cons_self
  have hspares : ∀ step ∈ late, step.Spares 0 := by
    intro step hstep
    simp only [late, List.mem_cons, List.not_mem_nil, or_false] at hstep
    rcases hstep with rfl | rfl
    · exact trivial
    · exact Nat.one_ne_zero
  have htexts : [first, second].map Bar.text =
      [unroutedBarText none, unroutedBarText (some .span)] := by
    rw [List.map_cons, List.map_singleton, Bar.text_eq, Bar.text_eq]
    rfl
  obtain ⟨hhtml, -, hsame⟩ := Setup.bars_show_last_run hscene (click :: late)
  obtain ⟨-, -, hkept⟩ := (Setup.bars_show_last_run hscene [click]).2.1 first hfirst
  refine ⟨setup, silent, rfl, rfl, rfl, rfl, fun trace outcome => ?_, hkept _ rfl late hspares,
    hsame silent [none, none] late rfl rfl rfl rfl⟩
  rw [← htexts, ← hbars]
  exact hhtml trace outcome

end SiteNav
