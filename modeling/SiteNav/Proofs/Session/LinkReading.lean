import SiteNav.Proofs.Html
import SiteNav.Proofs.Session.LinkList

/-!
# Rows of links tell their links apart

Two rows at the same path and under the same base look the same only if they hold the same links:
the same labels, and targets that lead to the same routes, or else are spelled the same. Labels may
hold any markup, since they are escaped. A base may hold any text as well, since both rows have the
same one. Only a target that is shown as it is spelled must not end the attribute that it stands in.
-/

namespace SiteNav

/-- A link has the label of another one, and its target leads to the same route, or it leads to none
and is spelled the same. -/
def NavLink.LooksLike (link other : NavLink) : Prop :=
  link.label = other.label ∧
    ((∃ r, Route.parse link.target = .ok r ∧ Route.parse other.target = .ok r) ∨
      ∃ e e', Route.parse link.target = .error e ∧ Route.parse other.target = .error e' ∧
        link.target = other.target)

/-- A target that is shown as it is spelled holds no quote. -/
def NavLink.IsQuotable (link : NavLink) : Prop :=
  (∃ e, Route.parse link.target = .error e) → '"' ∉ link.target.toList

lemma NavLink.LooksLike.routedElement_eq {link other : NavLink} (h : link.LooksLike other)
    (location : Location) : routedElement location link = routedElement location other := by
  obtain ⟨hlabel, ⟨r, hr, hr'⟩ | ⟨e, e', he, he', htarget⟩⟩ := h
  · rw [routedElement_of_ok hr, routedElement_of_ok hr', hlabel]
  · have hlink : link = other := by
      cases link
      cases other
      rw [NavLink.mk.injEq]
      exact ⟨hlabel, htarget⟩
    rw [hlink]

/-! ### Reading a link back -/

lemma Route.path_append_inj {r q : Route} {rest rest' : List Char}
    (h : r.path.toList ++ '"' :: rest = q.path.toList ++ '"' :: rest') : r = q ∧ rest = rest' := by
  have hquote : ∀ r : Route, '"' ∉ r.path.toList := by
    intro r
    cases r <;> decide
  obtain ⟨hpath, hrest⟩ := append_cons_inj_of_notMem (hquote r) (hquote q) h
  exact ⟨Route.path_injective (String.toList_inj.mp hpath), hrest⟩

lemma toList_routerAnchorText_append (base path : String) (r : Route) (label : String)
    (rest : List Char) : (routerAnchorText base path r label).toList ++ rest =
      "<a href=\"".toList ++ (base.toList ++ (r.path.toList ++ '"' ::
        (" class=\"navbar__link\"".toList ++ ((markText path r).toList ++ '>' ::
          ((escape label).toList ++ '<' :: ("/a>".toList ++ rest)))))) := by
  unfold routerAnchorText
  simp

lemma toList_plainAnchorText_append (link : NavLink) (rest : List Char) :
    (plainAnchorText link).toList ++ rest =
      "<a class=\"navbar__link\" href=\"".toList ++ (link.target.toList ++ '"' ::
        ('>' :: ((escape link.label).toList ++ '<' :: ("/a>".toList ++ rest)))) := by
  unfold plainAnchorText
  simp

section

variable {base path : String} {rest rest' : List Char}

lemma routerAnchorText_append_inj {r q : Route} {label label' : String}
    (h : (routerAnchorText base path r label).toList ++ rest =
      (routerAnchorText base path q label').toList ++ rest') :
    r = q ∧ label = label' ∧ rest = rest' := by
  rw [toList_routerAnchorText_append, toList_routerAnchorText_append] at h
  -- the base is the same on both sides, whatever it looks like
  obtain ⟨rfl, h⟩ := Route.path_append_inj (List.append_cancel_left (List.append_cancel_left h))
  have hmark := List.append_cancel_left (List.append_cancel_left h)
  obtain ⟨hlabel, h⟩ := escape_append_inj (List.cons.inj hmark).2
  exact ⟨rfl, hlabel, List.append_cancel_left h⟩

lemma plainAnchorText_append_inj {link other : NavLink} (hlink : '"' ∉ link.target.toList)
    (hother : '"' ∉ other.target.toList)
    (h : (plainAnchorText link).toList ++ rest = (plainAnchorText other).toList ++ rest') :
    link.target = other.target ∧ link.label = other.label ∧ rest = rest' := by
  rw [toList_plainAnchorText_append, toList_plainAnchorText_append] at h
  obtain ⟨htarget, h⟩ := append_cons_inj_of_notMem hlink hother (List.append_cancel_left h)
  obtain ⟨hlabel, h⟩ := escape_append_inj (List.cons.inj h).2
  exact ⟨String.toList_inj.mp htarget, hlabel, List.append_cancel_left h⟩

/-- The order of the attributes tells the two kinds of anchors apart. -/
lemma routerAnchorText_append_ne (r : Route) (label : String) (link : NavLink) :
    (routerAnchorText base path r label).toList ++ rest ≠
      (plainAnchorText link).toList ++ rest' := by
  rw [toList_routerAnchorText_append, toList_plainAnchorText_append]
  simp

/-- A link can be read off the beginning of a text. -/
lemma routedLinkText_append_inj {link other : NavLink} (hlink : link.IsQuotable)
    (hother : other.IsQuotable)
    (h : (routedLinkText base path link).toList ++ rest =
      (routedLinkText base path other).toList ++ rest') :
    link.LooksLike other ∧ rest = rest' := by
  rw [routedLinkText, routedLinkText] at h
  cases hp : Route.parse link.target with
  | ok r =>
    cases hp' : Route.parse other.target with
    | ok q =>
      rw [hp, hp'] at h
      obtain ⟨rfl, hlabel, hrest⟩ := routerAnchorText_append_inj h
      exact ⟨⟨hlabel, .inl ⟨r, hp, hp'⟩⟩, hrest⟩
    | error e =>
      rw [hp, hp'] at h
      exact absurd h (routerAnchorText_append_ne r link.label other)
  | error e =>
    cases hp' : Route.parse other.target with
    | ok q =>
      rw [hp, hp'] at h
      exact absurd h.symm (routerAnchorText_append_ne q other.label link)
    | error e' =>
      rw [hp, hp'] at h
      obtain ⟨htarget, hlabel, hrest⟩ :=
        plainAnchorText_append_inj (hlink ⟨e, hp⟩) (hother ⟨e', hp'⟩) h
      exact ⟨⟨hlabel, .inr ⟨e, e', hp, hp', htarget⟩⟩, hrest⟩

lemma routedLinkText_ne_nil (base path : String) (link : NavLink) :
    (routedLinkText base path link).toList ≠ [] := by
  rw [routedLinkText]
  cases Route.parse link.target with
  | ok r =>
    unfold routerAnchorText
    simp
  | error e =>
    unfold plainAnchorText
    simp

/-- A row can be read off its text, link by link. -/
lemma forall₂_looksLike_of_text_eq {links others : List NavLink}
    (hlinks : ∀ link ∈ links, link.IsQuotable) (hothers : ∀ link ∈ others, link.IsQuotable)
    (h : (links.map (routedLinkText base path)).flatMap String.toList =
      (others.map (routedLinkText base path)).flatMap String.toList) :
    List.Forall₂ NavLink.LooksLike links others := by
  induction links generalizing others with
  | nil =>
    cases others with
    | nil => exact .nil
    | cons other others =>
      -- no link is shown as the empty text, so that a shorter row shows a shorter one
      have hnil := List.append_eq_nil_iff.mp (List.flatMap_cons ▸ h).symm
      exact absurd hnil.1 (routedLinkText_ne_nil base path other)
  | cons link links ih =>
    cases others with
    | nil =>
      have hnil := List.append_eq_nil_iff.mp (List.flatMap_cons ▸ h)
      exact absurd hnil.1 (routedLinkText_ne_nil base path link)
    | cons other others =>
      rw [List.forall_mem_cons] at hlinks hothers
      rw [List.map_cons, List.map_cons, List.flatMap_cons, List.flatMap_cons] at h
      obtain ⟨hlooks, hrest⟩ := routedLinkText_append_inj hlinks.1 hothers.1 h
      exact .cons hlooks (ih hlinks.2 hothers.2 hrest)

end

/-! ### Reading a row back -/

lemma map_routedElement_eq {links others : List NavLink}
    (h : List.Forall₂ NavLink.LooksLike links others) (location : Location) :
    links.map (routedElement location) = others.map (routedElement location) := by
  induction h with
  | nil => rfl
  | cons hlink _ ih => rw [List.map_cons, List.map_cons, hlink.routedElement_eq, ih]

/-- Two rows under the same base that have come to the same path show the same text exactly if they
hold the same number of links, with the same labels in the same places and with targets that lead to
the same routes or are spelled the same. Then they are made of the same elements, so that no label
passes for a part of another link. -/
theorem Setup.Reaches.html_eq_iff_links_alike {setup other : Setup} {links others : List NavLink}
    (hscene : setup.scene = .linkList true links) (hother : other.scene = .linkList true others)
    (hbase : setup.base = other.base) (hlinks : ∀ link ∈ links, link.IsQuotable)
    (hothers : ∀ link ∈ others, link.IsQuotable) {s t : Session} (hs : setup.Reaches s)
    (ht : other.Reaches t) (hpath : s.history.current = t.history.current)
    (trace trace' : Trace) (outcome outcome' : Outcome) :
    ((s.snapshot trace outcome).html = (t.snapshot trace' outcome').html ↔
      List.Forall₂ NavLink.LooksLike links others) ∧
    ((s.snapshot trace outcome).html = (t.snapshot trace' outcome').html →
      s.document = t.document) := by
  have hrow := hs.isRow hscene
  have hrow' := ht.isRow hother
  have hread : (s.snapshot trace outcome).html = (t.snapshot trace' outcome').html →
      List.Forall₂ NavLink.LooksLike links others := by
    intro hhtml
    rw [hrow.html_snapshot, hrow'.html_snapshot, hbase, hpath, Option.some.injEq,
      ← String.toList_inj, String.toList_join, String.toList_join] at hhtml
    exact forall₂_looksLike_of_text_eq hlinks hothers hhtml
  have hdocument : List.Forall₂ NavLink.LooksLike links others → s.document = t.document := by
    intro halike
    rw [hrow.document, hrow'.document, hbase, hpath]
    exact map_routedElement_eq halike _
  refine ⟨⟨hread, fun halike => ?_⟩, fun hhtml => hdocument (hread hhtml)⟩
  rw [Session.snapshot, Session.snapshot, hrow.isCrashed, hrow'.isCrashed, hdocument halike]

/-- Under a base that ends its attribute, labels full of markup still tell rows apart, while another
spelling of the chat page's path does not. -/
theorem Setup.Reaches.html_eq_iff_links_alike_of_markup :
    ∃ setup other escaped : Setup, ∃ s t u : Session,
      setup.scene = .linkList true [⟨"</a><a>", "/%63hat?x"⟩, ⟨"<", "no<pe"⟩] ∧
      other.scene = .linkList true [⟨"</a><a>", "/chat"⟩, ⟨"<", "no<pe"⟩] ∧
      escaped.scene = .linkList true [⟨"</a><a>", "/chat"⟩, ⟨"&lt;", "no<pe"⟩] ∧
      setup.base = "\">" ∧ other.base = "\">" ∧ escaped.base = "\">" ∧
      setup.Reaches s ∧ other.Reaches t ∧ escaped.Reaches u ∧
      (∀ trace outcome, (s.snapshot trace outcome).html = (t.snapshot trace outcome).html) ∧
      ∀ trace outcome, (s.snapshot trace outcome).html ≠ (u.snapshot trace outcome).html := by
  let links : List NavLink := [⟨"</a><a>", "/%63hat?x"⟩, ⟨"<", "no<pe"⟩]
  let others : List NavLink := [⟨"</a><a>", "/chat"⟩, ⟨"<", "no<pe"⟩]
  let escaped : List NavLink := [⟨"</a><a>", "/chat"⟩, ⟨"&lt;", "no<pe"⟩]
  let setup : Setup := ⟨"/zzz", "\">", false, none, [.span], .linkList true links⟩
  let start (row : List NavLink) : Setup := ⟨"/chat", "\">", true, none, [], .linkList true row⟩
  have hscene : setup.scene = .linkList true links := rfl
  have hreach : setup.Reaches (setup.mount.1.step (.router (.go (.push "/chat")))).session :=
    .step .mount rfl _
  have hquotable : ∀ row ∈ [links, others, escaped], ∀ link ∈ row, link.IsQuotable := by
    have hquote : ∀ row ∈ [links, others, escaped], ∀ link ∈ row, '"' ∉ link.target.toList := by
      decide
    exact fun row hrow link hlink _ => hquote row hrow link hlink
  have hread (row : List NavLink) (hrow : ∀ link ∈ row, link.IsQuotable) :=
    Setup.Reaches.html_eq_iff_links_alike hscene (rfl : (start row).scene = .linkList true row) rfl
      (hquotable links (by simp)) hrow hreach .mount rfl
  have halike : List.Forall₂ NavLink.LooksLike links others := by
    have hspelled : Route.parse "/%63hat?x" = .ok .chat := by
      refine Route.parse_eq_chat_iff.mpr ⟨"%63hat", "", "?x", ?_, by simp, by decide, by decide⟩
      exact ⟨"%63", by simp, "h", by simp, "a", by simp, "t", by simp, by decide⟩
    have hplain : Route.parse "no<pe" = .error ⟨[]⟩ := Route.parse_of_not_isAbsolute (by decide)
    refine .cons ⟨rfl, .inl ⟨.chat, hspelled, Route.parse_path .chat⟩⟩ (.cons ⟨rfl, .inr ?_⟩ .nil)
    exact ⟨_, _, hplain, hplain, rfl⟩
  have hdiffer : ¬ List.Forall₂ NavLink.LooksLike links escaped := by
    intro h
    have hsecond := (List.forall₂_cons.mp (List.forall₂_cons.mp h).2).1
    exact absurd hsecond.1 (by decide)
  refine ⟨setup, start others, start escaped, _, _, _, rfl, rfl, rfl, rfl, rfl, rfl, hreach, .mount,
    .mount, ?_, ?_⟩
  · intro trace outcome
    exact (hread others (hquotable others (by simp)) trace trace outcome outcome).1.mpr halike
  · intro trace outcome hhtml
    exact hdiffer ((hread escaped (hquotable escaped (by simp)) _ _ _ _).1.mp hhtml)

end SiteNav
