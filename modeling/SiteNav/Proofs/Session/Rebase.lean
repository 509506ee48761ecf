import Mathlib.Data.List.Forall2
import SiteNav.Proofs.Session.After

/-!
# Sites under another base

The base is what the address of every path starts with: an element that visits a path has one
address, the base with the path behind it. A document is rebased by exchanging these addresses and
nothing else. Every step commutes with an exchange of the base: what is listened for, where a click
leads, what is marked and what is logged are the same, and the documents are rebased.
-/

namespace SiteNav

/-! ### Addresses -/

mutual
/-- Every element that visits a path has one address, and that is the path under a base. -/
def Html.IsAddressed (base : String) : Html Action → Prop
  | .text _ => True
  | .element _ attributes listener children =>
    (∀ path, listener = some (.visit path) →
      attributes.filter (·.1 = "href") = [("href", base ++ path)]) ∧
    Html.AllAddressed base children

def Html.AllAddressed (base : String) : Document → Prop
  | [] => True
  | h :: hs => h.IsAddressed base ∧ Html.AllAddressed base hs
end

section

variable {base : String}

@[simp] lemma Html.isAddressed_text (content : String) :
    (Html.text content).IsAddressed base := by simp [Html.IsAddressed]

@[simp] lemma Html.isAddressed_element {tag : String} {attributes : List (String × String)}
    {listener : Option Action} {children : Document} :
    (Html.element tag attributes listener children).IsAddressed base ↔
      (∀ path, listener = some (.visit path) →
        attributes.filter (·.1 = "href") = [("href", base ++ path)]) ∧
      Html.AllAddressed base children := by simp [Html.IsAddressed]

@[simp] lemma Html.allAddressed_nil : Html.AllAddressed base [] := by simp [Html.AllAddressed]

@[simp] lemma Html.allAddressed_cons {h : Html Action} {hs : Document} :
    Html.AllAddressed base (h :: hs) ↔ h.IsAddressed base ∧ Html.AllAddressed base hs := by
  simp [Html.AllAddressed]

/-- Pieces can be looked at one by one. -/
lemma Html.allAddressed_iff {hs : Document} :
    Html.AllAddressed base hs ↔ ∀ h ∈ hs, h.IsAddressed base := by
  induction hs with
  | nil => simp
  | cons h hs ih => rw [Html.allAddressed_cons, ih, List.forall_mem_cons]

lemma Html.allAddressed_flatMap {α : Type} {xs : List α} {f : α → Document}
    (h : ∀ x ∈ xs, Html.AllAddressed base (f x)) : Html.AllAddressed base (xs.flatMap f) := by
  rw [Html.allAddressed_iff]
  intro piece hpiece
  obtain ⟨x, hx, hpiece⟩ := List.mem_flatMap.mp hpiece
  exact Html.allAddressed_iff.mp (h x hx) piece hpiece

/-- The mark of an anchor adds no second address to it. -/
lemma isAddressed_routerAnchor (location : Location) (r : Route) (label : String) :
    (routerAnchor location r label).IsAddressed location.base := by
  have hmark : (currentMark location r).filter (·.1 = "href") = [] := by
    rw [currentMark]
    split <;> simp
  rw [routerAnchor, Html.isAddressed_element]
  refine ⟨fun path hpath => ?_, by simp⟩
  cases hpath
  rw [List.filter_append, hmark]
  simp [classAttribute]

section

variable {location : Option Location} (hlocation : ∀ l ∈ location, l.base = base)

include hlocation

lemma allAddressed_routedLink (link : NavLink) :
    Html.AllAddressed base (routedLink location link) := by
  rw [routedLink]
  cases Route.parse link.target with
  | error e => simp [plainAnchor]
  | ok r =>
    cases location with
    | none => simp
    | some l =>
      have hanchor := isAddressed_routerAnchor l r link.label
      rw [hlocation l rfl] at hanchor
      simpa using hanchor

lemma BarLinks.allAddressed_link (links : BarLinks) (link : NavLink) :
    Html.AllAddressed base (links.link location link) := by
  cases links with
  | offering navigator => simp [BarLinks.link, offeringAnchor, plainAnchor]
  | built b =>
    cases b with
    | routed => exact allAddressed_routedLink hlocation link
    | span => simp [BarLinks.link, Builder.link, spanLink]
    | active => simp [BarLinks.link, Builder.link, announcingAnchor]
    | empty => simp [BarLinks.link, Builder.link]

/-- Of the builders only the routed one makes anchors that visit a path. -/
lemma BarLinks.isAddressed_html (links : BarLinks) : (links.html location).IsAddressed base := by
  rw [BarLinks.html, Html.isAddressed_element]
  refine ⟨by simp, Html.allAddressed_flatMap fun link _ => ?_⟩
  exact links.allAddressed_link hlocation link

/-- Whatever is mounted at a root, the address of each router link follows the base of the place. -/
lemma Root.allAddressed_document (root : Root) :
    Html.AllAddressed base (root.document location) := by
  cases root with
  | app screen =>
    cases screen with
    | page bar r =>
      have hpage : r.page.IsAddressed base := by
        cases r <;> simp [Route.page, pageSection, textElement]
      simpa [Root.document, Screen.document, hpage] using bar.isAddressed_html hlocation
    | failure => simp [Root.document, Screen.document, failurePage, textElement]
    | crashed => simp [Root.document, Screen.document]
  | linkList routed links =>
    exact Html.allAddressed_flatMap fun link _ => allAddressed_routedLink hlocation link
  | barList routed bars nextId =>
    rw [Root.document, Html.allAddressed_iff]
    intro html hhtml
    obtain ⟨b, -, rfl⟩ := List.mem_map.mp hhtml
    exact b.links.isAddressed_html hlocation

end

end

/-- The router links of a session have their addresses under its base. -/
lemma Session.allAddressed_document (s : Session) : Html.AllAddressed s.base s.document := by
  refine Root.allAddressed_document (fun l hl => ?_) s.root
  rw [Session.location] at hl
  split at hl
  · cases hl
    rfl
  · cases hl

/-! ### Documents -/

/-- The attributes of an element that listens for a click, with the address of the path that it
visits, if it visits one, put under a base. -/
def rebaseAttributes (base : String) (attributes : List (String × String)) :
    Option Action → List (String × String)
  | some (.visit path) => attributes.map fun a => if a.1 = "href" then ("href", base ++ path) else a
  | some (.offer _ _) | some (.announce _ _) | some .dismissFailure | none => attributes

mutual
/-- A piece of a document, with the addresses of the anchors of the router put under a base. -/
def Html.rebase (base : String) : Html Action → Html Action
  | .text content => .text content
  | .element tag attributes listener children =>
    .element tag (rebaseAttributes base attributes listener) listener (Html.rebaseAll base children)

def Html.rebaseAll (base : String) : Document → Document
  | [] => []
  | h :: hs => h.rebase base :: Html.rebaseAll base hs
end

section

variable (base : String)

@[simp] lemma Html.rebase_text (content : String) :
    (Html.text content).rebase base = .text content := by simp [Html.rebase]

@[simp] lemma Html.rebase_element (tag : String) (attributes : List (String × String))
    (listener : Option Action) (children : Document) :
    (Html.element tag attributes listener children).rebase base =
      .element tag (rebaseAttributes base attributes listener) listener
        (Html.rebaseAll base children) := by simp [Html.rebase]

lemma Html.rebaseAll_eq_map (hs : Document) :
    Html.rebaseAll base hs = hs.map (Html.rebase base) := by
  induction hs with
  | nil => simp [Html.rebaseAll]
  | cons h hs ih => rw [Html.rebaseAll, ih, List.map_cons]

@[simp] lemma Html.rebaseAll_nil : Html.rebaseAll base [] = [] := by simp [Html.rebaseAll]

@[simp] lemma Html.rebaseAll_cons (h : Html Action) (hs : Document) :
    Html.rebaseAll base (h :: hs) = h.rebase base :: Html.rebaseAll base hs := by
  simp [Html.rebaseAll]

mutual
/-- A rebased document can be clicked like the one that it comes from. -/
lemma Html.anchors_rebase (h : Html Action) : (h.rebase base).anchors = h.anchors := by
  match h with
  | .text content => simp
  | .element tag attributes listener children =>
    rw [Html.rebase_element, Html.anchors_element, Html.anchors_element,
      Html.anchorsAll_rebaseAll children]

lemma Html.anchorsAll_rebaseAll (hs : Document) :
    Html.anchorsAll (Html.rebaseAll base hs) = Html.anchorsAll hs := by
  match hs with
  | [] => simp
  | h :: hs =>
    rw [Html.rebaseAll_cons, Html.anchorsAll_cons, Html.anchorsAll_cons, Html.anchors_rebase h,
      Html.anchorsAll_rebaseAll hs]
end

def Location.withBase (location : Location) (base : String) : Location := { location with base }

/-- The mark stays where it is, as it depends on the path alone. -/
lemma rebase_routerAnchor (location : Location) (r : Route) (label : String) :
    (routerAnchor location r label).rebase base =
      routerAnchor (location.withBase base) r label := by
  by_cases h : r.path = location.path
  · simp [routerAnchor, rebaseAttributes, currentMark, Location.withBase, classAttribute, h]
  · simp [routerAnchor, rebaseAttributes, currentMark, Location.withBase, classAttribute, h]

/-- A target that is no route is shown as it is spelled under every base. -/
lemma rebaseAll_routedLink (location : Option Location) (link : NavLink) :
    Html.rebaseAll base (routedLink location link) =
      routedLink (location.map (·.withBase base)) link := by
  rw [routedLink, routedLink]
  cases Route.parse link.target with
  | error e => simp [plainAnchor, rebaseAttributes]
  | ok r =>
    cases location with
    | none => simp
    | some l => simp [rebase_routerAnchor]

/-- Anchors that visit no path keep their addresses. -/
lemma rebaseAll_link (location : Option Location) (links : BarLinks) (link : NavLink) :
    Html.rebaseAll base (links.link location link) =
      links.link (location.map (·.withBase base)) link := by
  cases links with
  | offering navigator => simp [BarLinks.link, offeringAnchor, plainAnchor, rebaseAttributes]
  | built b =>
    cases b with
    | routed => exact rebaseAll_routedLink base location link
    | span => simp [BarLinks.link, Builder.link, spanLink, rebaseAttributes]
    | active => simp [BarLinks.link, Builder.link, announcingAnchor, rebaseAttributes]
    | empty => simp [BarLinks.link, Builder.link]

lemma rebaseAll_flatMap {α : Type} (xs : List α) (f : α → Document) :
    Html.rebaseAll base (xs.flatMap f) = xs.flatMap fun x => Html.rebaseAll base (f x) := by
  rw [Html.rebaseAll_eq_map, List.map_flatMap]
  simp [Html.rebaseAll_eq_map]

lemma BarLinks.rebase_html (location : Option Location) (links : BarLinks) :
    (links.html location).rebase base = links.html (location.map (·.withBase base)) := by
  rw [BarLinks.html, BarLinks.html, Html.rebase_element, rebaseAll_flatMap]
  simp [rebaseAll_link, rebaseAttributes]

/-- The pages have no addresses. -/
lemma Route.rebase_page (r : Route) : r.page.rebase base = r.page := by
  cases r <;> simp [Route.page, pageSection, textElement, rebaseAttributes]

/-- Documents are made with the base or rebased afterwards, which is the same. -/
lemma Root.rebaseAll_document (location : Option Location) (root : Root) :
    Html.rebaseAll base (root.document location) =
      root.document (location.map (·.withBase base)) := by
  cases root with
  | app screen =>
    cases screen with
    | page bar r =>
      simp [Root.document, Screen.document, BarLinks.rebase_html, Route.rebase_page]
    | failure =>
      simp [Root.document, Screen.document, failurePage, textElement, rebaseAttributes]
    | crashed => simp [Root.document, Screen.document]
  | linkList routed links =>
    rw [Root.document, Root.document, rebaseAll_flatMap]
    simp [rebaseAll_routedLink]
  | barList routed bars nextId =>
    rw [Root.document, Root.document, Html.rebaseAll_eq_map, List.map_map]
    exact List.map_congr_left fun b _ => BarLinks.rebase_html base location b.links

/-! ### Sessions -/

/-- The session under another base. -/
def Session.withBase (s : Session) (base : String) : Session := { s with base }

def Setup.withBase (setup : Setup) (base : String) : Setup := { setup with base }

/-- A session under another base, with its trace. -/
def Session.rebased (base : String) (x : Session × Trace) : Session × Trace :=
  (x.1.withBase base, x.2)

def Answer.withBase (a : Answer) (base : String) : Answer :=
  { a with session := a.session.withBase base }

@[simp] lemma Session.root_withBase (s : Session) : (s.withBase base).root = s.root := rfl

@[simp] lemma Session.history_withBase (s : Session) : (s.withBase base).history = s.history := rfl

@[simp] lemma Session.isCrashed_withBase (s : Session) :
    (s.withBase base).isCrashed = s.isCrashed := rfl

/-- The document under another base is the rebased one. -/
lemma Session.document_withBase (s : Session) :
    (s.withBase base).document = Html.rebaseAll base s.document := by
  rw [Session.document, Session.document, Root.rebaseAll_document, Session.root_withBase]
  congr
  rw [Session.location, Session.location, Session.root_withBase]
  split <;> rfl

/-- The same can be clicked under every base. -/
lemma Session.anchors_withBase (s : Session) : (s.withBase base).anchors = s.anchors := by
  rw [Session.anchors, Session.anchors, Session.document_withBase, Html.anchorsAll_rebaseAll]

/-! ### Steps under another base -/

/-- What commutes with an exchange of the base can be done in a row. -/
lemma Session.andThen_rebased (x : Session × Trace) {f : Session → Session × Trace}
    (hf : ∀ s, f (s.withBase base) = Session.rebased base (f s)) :
    Session.andThen (Session.rebased base x) f = Session.rebased base (Session.andThen x f) := by
  rw [Session.andThen, Session.rebased, hf]
  rfl

/-- The base plays no part in the choice of the page. -/
lemma Session.openPage_withBase (s : Session) :
    (s.withBase base).openPage = Session.rebased base s.openPage := by
  rw [Session.openPage, Session.openPage, Session.history_withBase]
  cases Route.parse s.history.current <;> rfl

lemma Session.recover_withBase (s : Session) :
    (s.withBase base).recover = Session.rebased base s.recover := by
  rw [Session.recover, Session.recover, Session.root_withBase]
  split
  · exact s.openPage_withBase base
  · rfl
  · rfl
  · rfl
  · rfl

lemma Session.addBar_withBase (s : Session) (navigator : Option String) :
    (s.withBase base).addBar navigator =
      Session.rebased base (s.addBar navigator) := by
  rw [Session.addBar, Session.addBar, Session.root_withBase]
  cases s.root <;> rfl

lemma Session.addBars_withBase (s : Session) (navigators : List (Option String)) :
    (s.withBase base).addBars navigators =
      Session.rebased base (s.addBars navigators) := by
  induction navigators generalizing s with
  | nil => rfl
  | cons navigator navigators ih =>
    rw [Session.addBars, Session.addBar_withBase]
    exact Session.andThen_rebased base _ ih

/-- A visit goes to the path, not to its address. -/
lemma Session.act_withBase (s : Session) (c : Click) (action : Action) :
    (s.withBase base).act c action = Session.rebased base (s.act c action) := by
  cases action with
  | offer link navigator => cases navigator <;> rfl
  | announce link navigator => rfl
  | visit path =>
    rw [Session.act, Session.act]
    split <;> rfl
  | dismissFailure => exact s.recover_withBase base

lemma Session.click_withBase (s : Session) (c : Click) :
    (s.withBase base).click c = (s.click c).withBase base := by
  -- a click looks for a listener and never at an address
  have hanchors := s.anchors_withBase base
  rw [Session.anchors, Session.anchors] at hanchors
  rw [Session.click, Session.click, hanchors]
  split
  · rfl
  · rfl
  · split
    · rw [Session.act_withBase]
      rfl
    · rfl

lemma Session.leave_withBase (s : Session) (url : String) :
    (s.withBase base).leave url = Session.rebased base (s.leave url) := by
  obtain ⟨registry, history, base', opensExternal, navigator, linked, root⟩ := s
  cases opensExternal <;> rfl

lemma Session.tellRouter_withBase (s : Session) (r : RouterStep) :
    (s.withBase base).tellRouter r = (s.tellRouter r).withBase base := by
  cases r with
  | go m => rfl
  | leave url =>
    rw [Session.tellRouter, Session.leave_withBase]
    rfl
  | recover =>
    rw [Session.tellRouter, Session.recover_withBase]
    rfl

lemma Session.rerunRoot_withBase (s : Session) :
    (s.withBase base).rerunRoot = Session.rebased base s.rerunRoot := by
  rw [Session.rerunRoot, Session.rerunRoot, Session.root_withBase]
  split <;> rfl

lemma Session.onBar_withBase {s : Session} (id : Nat) {f g : Bar → Session × Trace}
    (h : ∀ b, g b = Session.rebased base (f b)) :
    (s.withBase base).onBar id g = (s.onBar id f).withBase base := by
  rw [Session.onBar, Session.onBar, Session.root_withBase]
  split
  · rfl
  · rw [h]
    rfl

/-- Steps commute with an exchange of the base. -/
lemma Session.step_withBase (s : Session) (step : Step) :
    (s.withBase base).step step = (s.step step).withBase base := by
  cases step with
  | router r =>
    rw [Session.step, Session.step, Session.root_withBase]
    split
    · exact s.tellRouter_withBase base r
    · rfl
  | click c => exact s.click_withBase base c
  | register b => rfl
  | rerun bar =>
    cases bar with
    | none =>
      rw [Session.step, Session.rerunRoot_withBase]
      rfl
    | some id => exact Session.onBar_withBase base id fun b => rfl
  | addBar navigator =>
    rw [Session.step, Session.addBar_withBase]
    rfl
  | removeBar id => exact Session.onBar_withBase base id fun b => rfl
  | setNavigator navigator bar =>
    cases bar with
    | none => rfl
    | some id => exact Session.onBar_withBase base id fun b => rfl

lemma Session.register_withBase (s : Session) (bs : List Builder) :
    (s.withBase base).register bs = Session.rebased base (s.register bs) := rfl

lemma Session.wantHead_withBase (es : List HeadElement) (s : Session) :
    (s.withBase base).wantHead es = Session.rebased base (s.wantHead es) := rfl

lemma Session.mountApp_withBase (s : Session) :
    (s.withBase base).mountApp = Session.rebased base s.mountApp := by
  rw [Session.mountApp, Session.register_withBase,
    Session.andThen_rebased base _ (Session.wantHead_withBase base _),
    Session.andThen_rebased base _ (Session.openPage_withBase base), Session.mountApp]

lemma Setup.mount_withBase (setup : Setup) :
    (setup.withBase base).mount = Session.rebased base setup.mount := by
  have hscene : ∀ s : Session, setup.scene.mount (s.withBase base) =
      Session.rebased base (setup.scene.mount s) := by
    intro s
    cases setup.scene with
    | app => exact s.mountApp_withBase base
    | linkList routed links => rfl
    | barList routed navigators => exact s.addBars_withBase base navigators
  exact Session.andThen_rebased base (setup.blank.register setup.builders) hscene

lemma Session.after_withBase (s : Session) (steps : List Step) :
    (s.withBase base).after steps = (s.after steps).withBase base := by
  induction steps generalizing s with
  | nil => rfl
  | cons step steps ih =>
    rw [Session.after, Session.after, Session.isCrashed_withBase]
    split
    · rfl
    · rw [Session.step_withBase]
      exact ih _

/-! ### Records under another base -/

/-- A record is like another one, but for the base that the addresses of the anchors of the router
start with. -/
structure Snapshot.DiffersInBase (base base' : String) (snap snap' : Snapshot) : Prop where
  path_eq : snap'.path = snap.path
  canGoBack_eq : snap'.canGoBack = snap.canGoBack
  canGoForward_eq : snap'.canGoForward = snap.canGoForward
  trace_eq : snap'.trace = snap.trace
  outcome_eq : snap'.outcome = snap.outcome
  exists_document : ∃ document : Option Document,
    (∀ d ∈ document, Html.AllAddressed base (Html.rebaseAll base d) ∧
      Html.AllAddressed base' (Html.rebaseAll base' d)) ∧
    snap.html = document.map (fun d => Html.renderAll (Html.rebaseAll base d)) ∧
    snap'.html = document.map (fun d => Html.renderAll (Html.rebaseAll base' d))

/-- Under any base, the document is recorded as the rebased one. -/
lemma Session.html_snapshot_withBase (s : Session) (trace : Trace) (outcome : Outcome) :
    ((s.withBase base).snapshot trace outcome).html =
      (if s.isCrashed then none else some s.document).map fun d =>
        Html.renderAll (Html.rebaseAll base d) := by
  rw [Session.snapshot, Session.isCrashed_withBase, Session.document_withBase]
  cases s.isCrashed <;> rfl

variable (base' : String)

/-- The records of a session under two bases differ in the base alone. -/
lemma Session.differsInBase_snapshot (s : Session) (trace : Trace) (outcome : Outcome) :
    ((s.withBase base).snapshot trace outcome).DiffersInBase base base'
      ((s.withBase base').snapshot trace outcome) := by
  refine ⟨rfl, rfl, rfl, rfl, rfl, _, fun d hd => ?_, s.html_snapshot_withBase base trace outcome,
    s.html_snapshot_withBase base' trace outcome⟩
  obtain rfl : s.document = d := by
    split at hd
    · cases hd
    · exact Option.some.inj hd
  rw [← Session.document_withBase, ← Session.document_withBase]
  exact ⟨(s.withBase base).allAddressed_document, (s.withBase base').allAddressed_document⟩

lemma Session.forall₂_run_withBase (s : Session) (steps : List Step) :
    List.Forall₂ (Snapshot.DiffersInBase base base') ((s.withBase base).run steps)
      ((s.withBase base').run steps) := by
  induction steps generalizing s with
  | nil => exact .nil
  | cons step steps ih =>
    cases hs : s.isCrashed with
    | true =>
      rw [(s.withBase base).run_of_isCrashed hs, (s.withBase base').run_of_isCrashed hs]
      exact .nil
    | false =>
      rw [(s.withBase base).run_cons hs, (s.withBase base').run_cons hs, Session.step_withBase,
        Session.step_withBase]
      exact .cons (Session.differsInBase_snapshot base base' _ _ _) (ih _)

end

/-- Two sessions that differ in the base alone take the same steps to sessions that differ in the
base alone. In their documents every element that visits a path has one address, the base of the
session followed by that path, and all else is the same, what can be clicked included. In their
records nothing else differs. -/
theorem Setup.base_reaches_addresses_only (setup : Setup) (base : String) (steps : List Step) :
    (setup.withBase base).after steps = (setup.after steps).withBase base ∧
    Html.rebaseAll setup.base (setup.after steps).document = (setup.after steps).document ∧
    Html.AllAddressed setup.base (setup.after steps).document ∧
    ((setup.withBase base).after steps).document =
      Html.rebaseAll base (setup.after steps).document ∧
    Html.AllAddressed base ((setup.withBase base).after steps).document ∧
    ((setup.withBase base).after steps).anchors = (setup.after steps).anchors ∧
    List.Forall₂ (Snapshot.DiffersInBase setup.base base) (setup.record steps)
      ((setup.withBase base).record steps) := by
  have hmount := setup.mount_withBase
  have hafter : ∀ base, (setup.withBase base).after steps = (setup.after steps).withBase base := by
    intro base
    rw [Setup.after, hmount base]
    exact Session.after_withBase base _ steps
  have hown : setup.after steps = (setup.after steps).withBase setup.base := hafter setup.base
  refine ⟨hafter base, ?_, ?_, ?_, ?_, ?_, ?_⟩
  · rw [← Session.document_withBase, ← hown]
  · rw [hown]
    exact ((setup.after steps).withBase setup.base).allAddressed_document
  · rw [hafter, Session.document_withBase]
  · rw [hafter]
    exact ((setup.after steps).withBase base).allAddressed_document
  · rw [hafter, Session.anchors_withBase]
  · -- the session itself is the one under its own base
    change List.Forall₂ _ ((setup.withBase setup.base).record steps) _
    rw [Setup.record, Setup.record, hmount setup.base, hmount base]
    exact .cons (Session.differsInBase_snapshot _ _ _ _ _)
      (Session.forall₂_run_withBase _ _ _ _)

end SiteNav
