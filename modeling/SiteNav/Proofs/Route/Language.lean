import SiteNav.Proofs.Route.Segments

/-!
# The paths that lead to a route

Only two shapes of paths lead to a route. The home page is led to by the bare slash, the chat page
by the slash and a spelling of its segment, possibly with one more slash; a tail may follow either.
Any other text, absolute or not, is reported.
-/

namespace SiteNav

/-! ### Spellings of the chat segment -/

/-- The chat segment, each of its letters written as itself or as its escape. -/
def SpellsChat (p : String) : Prop :=
  ∃ c ∈ ["c", "%63"], ∃ h ∈ ["h", "%68"], ∃ a ∈ ["a", "%61"], ∃ t ∈ ["t", "%74"],
    p = c ++ h ++ a ++ t

lemma encodes_nil_iff {e : List Char} : Encodes [] e ↔ e = [] := by
  constructor
  · rintro ⟨⟩
    rfl
  · rintro rfl
    exact .nil

lemma encodes_cons_iff {c : Char} {cs e : List Char} :
    Encodes (c :: cs) e ↔ ∃ ds es, EncodesChar c ds ∧ Encodes cs es ∧ e = ds ++ es := by
  constructor
  · rintro (_ | ⟨hc, h⟩)
    exact ⟨_, _, hc, h, rfl⟩
  · rintro ⟨ds, es, hc, h, rfl⟩
    exact .cons hc h

/-- A plain character is written as itself or as one escape. -/
lemma encodesChar_iff {c : Char} (hlt : c.toNat < 0x80) (hres : c ∉ reservedChars)
    {ds : List Char} :
    EncodesChar c ds ↔ ds = [c] ∨ ∃ high ∈ hexSpellings (c.toNat / 16),
      ∃ low ∈ hexSpellings (c.toNat % 16), ds = ['%', high, low] := by
  have hbyte : (UInt8.ofNat c.toNat).toNat = c.toNat := by
    rw [UInt8.toNat_ofNat', Nat.mod_eq_of_lt (by omega)]
  constructor
  · rintro (_ | h)
    · exact .inl rfl
    · rw [utf8EncodeChar_of_lt hlt] at h
      obtain _ | ⟨hhigh, hlow, ⟨⟩⟩ := h
      rw [hbyte] at hhigh hlow
      exact .inr ⟨_, hhigh, _, hlow, rfl⟩
  · rintro (rfl | ⟨high, hhigh, low, hlow, rfl⟩)
    · exact .literal hres
    · refine .escaped ?_
      rw [utf8EncodeChar_of_lt hlt]
      exact .cons (by rwa [hbyte]) (by rwa [hbyte]) .nil

/-- A letter whose number is written with decimal digits has two spellings. -/
lemma encodesChar_iff_of_decimal {c high low : Char} (hlt : c.toNat < 0x80)
    (hres : c ∉ reservedChars) (hhigh : hexSpellings (c.toNat / 16) = [high, high])
    (hlow : hexSpellings (c.toNat % 16) = [low, low]) {ds : List Char} :
    EncodesChar c ds ↔ ∃ x ∈ [String.ofList [c], String.ofList ['%', high, low]],
      ds = x.toList := by
  rw [encodesChar_iff hlt hres, hhigh, hlow]
  simp

/-- The chat segment is spelled letter by letter. -/
lemma encodes_chatSegment_iff {p : String} :
    Encodes chatSegment.toList p.toList ↔ SpellsChat p := by
  have hsegment : chatSegment.toList = ['c', 'h', 'a', 't'] := by decide
  have hc (ds : List Char) : EncodesChar 'c' ds ↔ ∃ x ∈ ["c", "%63"], ds = x.toList :=
    encodesChar_iff_of_decimal (by decide) (by decide) (by decide) (by decide)
  have hh (ds : List Char) : EncodesChar 'h' ds ↔ ∃ x ∈ ["h", "%68"], ds = x.toList :=
    encodesChar_iff_of_decimal (by decide) (by decide) (by decide) (by decide)
  have ha (ds : List Char) : EncodesChar 'a' ds ↔ ∃ x ∈ ["a", "%61"], ds = x.toList :=
    encodesChar_iff_of_decimal (by decide) (by decide) (by decide) (by decide)
  have ht (ds : List Char) : EncodesChar 't' ds ↔ ∃ x ∈ ["t", "%74"], ds = x.toList :=
    encodesChar_iff_of_decimal (by decide) (by decide) (by decide) (by decide)
  rw [hsegment]
  simp only [encodes_cons_iff, encodes_nil_iff, hc, hh, ha, ht, SpellsChat]
  constructor
  · rintro ⟨_, _, ⟨c, hc, rfl⟩, ⟨_, _, ⟨h, hh, rfl⟩, ⟨_, _, ⟨a, ha, rfl⟩,
      ⟨_, _, ⟨t, ht, rfl⟩, rfl, rfl⟩, rfl⟩, rfl⟩, hp⟩
    refine ⟨c, hc, h, hh, a, ha, t, ht, ?_⟩
    rw [← String.toList_inj, hp]
    simp
  · rintro ⟨c, hc, h, hh, a, ha, t, ht, rfl⟩
    refine ⟨_, _, ⟨c, hc, rfl⟩, ⟨_, _, ⟨h, hh, rfl⟩, ⟨_, _, ⟨a, ha, rfl⟩,
      ⟨_, _, ⟨t, ht, rfl⟩, rfl, rfl⟩, rfl⟩, rfl⟩, ?_⟩
    simp

/-! ### The two shapes -/

def IsHomePath (s : String) : Prop := ∃ t : String, IsTail t.toList ∧ s = "/" ++ t

def IsChatPath (s : String) : Prop :=
  ∃ p e t : String, SpellsChat p ∧ e ∈ ["", "/"] ∧ IsTail t.toList ∧ s = "/" ++ p ++ e ++ t

/-- A path leads to a route exactly if it is absolute and has the segments of that route. -/
lemma Route.parse_eq_ok_iff {s : String} {r : Route} :
    Route.parse s = .ok r ↔ ∃ rest, s.toList = '/' :: rest ∧
      pathSegments ('/' :: rest) = r.segments := by
  rw [Route.parse]
  split_ifs with h
  · rw [Route.ofSegments_eq_ok_iff]
    obtain ⟨rest, hrest⟩ := (isAbsolute_iff _).mp h
    rw [hrest]
    constructor
    · intro hr
      exact ⟨rest, rfl, hr⟩
    · rintro ⟨rest', heq, hr⟩
      rwa [heq]
  · refine ⟨fun he => by simp at he, ?_⟩
    rintro ⟨rest, hrest, _⟩
    exact absurd ((isAbsolute_iff _).mpr ⟨rest, hrest⟩) h

/-- Behind the slash of the home page there is nothing but a tail. -/
lemma pathSegments_eq_nil_iff {rest : List Char} :
    pathSegments ('/' :: rest) = [] ↔ IsTail rest := by
  rw [pathSegments_cons]
  split_ifs with h
  · rw [trunk_eq_iff] at h
    obtain ⟨_, _, t, ht, rfl⟩ := h
    simpa using ht
  · refine ⟨fun h => ?_, fun ht => absurd (trunk_of_isTail ht) h⟩
    simp at h

lemma isPlain_chatSegment : IsPlain chatSegment.toList := by decide

/-- What is left when a last slash has gone is all one segment, since no encoding has a slash. -/
lemma pathSegments_eq_chat_iff {rest : List Char} :
    pathSegments ('/' :: rest) = [chatSegment] ↔
      Encodes chatSegment.toList (dropOneLast '/' (trunk rest)) := by
  rw [pathSegments_cons]
  split_ifs with h
  · rw [h, dropOneLast_nil, ← percentDecode_eq_iff isPlain_chatSegment, percentDecode_nil]
    decide
  · generalize dropOneLast '/' (trunk rest) = v
    constructor
    · intro hmap
      obtain ⟨p, hp, hdec⟩ := List.map_eq_singleton_iff.mp hmap
      have hv : v = p := by
        have hjoin : ['/'].intercalate (v.splitOn '/') = v := List.intercalate_splitOn '/'
        rw [hp, List.intercalate_singleton] at hjoin
        exact hjoin.symm
      rw [hv, ← percentDecode_eq_iff isPlain_chatSegment, ← hdec, String.toList_ofList]
    · intro henc
      rw [List.splitOn_eq_singleton (henc.notMem (by decide)), List.map_singleton,
        henc.percentDecode, String.ofList_toList]

/-- All paths to the home page, and no others. -/
lemma Route.parse_eq_home_iff {s : String} : Route.parse s = .ok .home ↔ IsHomePath s := by
  rw [Route.parse_eq_ok_iff]
  constructor
  · rintro ⟨rest, hs, hseg⟩
    have ht := pathSegments_eq_nil_iff.mp hseg
    refine ⟨String.ofList rest, by rwa [String.toList_ofList], ?_⟩
    rw [← String.toList_inj, hs]
    simp
  · rintro ⟨t, ht, rfl⟩
    exact ⟨t.toList, by simp, pathSegments_eq_nil_iff.mpr ht⟩

/-- Neither a spelling of the chat segment nor a slash behind it begins a tail. -/
lemma notMem_spelling {p e : String} (hp : SpellsChat p) (he : e ∈ ["", "/"]) {x : Char}
    (hx : x ∈ ['?', '#']) : x ∉ p.toList ++ e.toList := by
  have henc := encodes_chatSegment_iff.mpr hp
  rw [List.mem_append, not_or]
  refine ⟨henc.notMem (List.mem_cons_of_mem _ hx), ?_⟩
  rcases List.mem_pair.mp he with rfl | rfl
  · exact List.not_mem_nil
  · rcases List.mem_pair.mp hx with rfl | rfl <;> decide

/-- All paths to the chat page, and no others. -/
lemma Route.parse_eq_chat_iff {s : String} : Route.parse s = .ok .chat ↔ IsChatPath s := by
  rw [Route.parse_eq_ok_iff]
  constructor
  · -- what is left of the path is put together again from the segment, the slash and the tail
    rintro ⟨rest, hs, hseg⟩
    have henc := pathSegments_eq_chat_iff.mp hseg
    obtain ⟨_, _, t, ht, hrest⟩ := trunk_eq_iff.mp (Eq.refl (trunk rest))
    generalize hv : dropOneLast '/' (trunk rest) = v at henc
    obtain ⟨e, he, htrunk⟩ : ∃ e ∈ ["", "/"], trunk rest = v ++ e.toList := by
      rcases (dropOneLast_eq_iff (henc.notMem (by decide))).mp hv with htrunk | htrunk
      · exact ⟨"", by simp, by simpa using htrunk⟩
      · exact ⟨"/", by simp, by simpa using htrunk⟩
    have hp : SpellsChat (String.ofList v) :=
      encodes_chatSegment_iff.mp (by rwa [String.toList_ofList])
    refine ⟨String.ofList v, e, String.ofList t, hp, he, by rwa [String.toList_ofList], ?_⟩
    rw [← String.toList_inj, hs, hrest, htrunk]
    simp
  · rintro ⟨p, e, t, hp, he, ht, rfl⟩
    have henc := encodes_chatSegment_iff.mpr hp
    refine ⟨p.toList ++ e.toList ++ t.toList, by simp, pathSegments_eq_chat_iff.mpr ?_⟩
    rw [trunk_append (notMem_spelling hp he (by decide)) (notMem_spelling hp he (by decide)) ht,
      (dropOneLast_eq_iff (henc.notMem (by decide))).mpr]
    · exact henc
    · rcases List.mem_pair.mp he with rfl | rfl
      · exact .inl (by simp)
      · exact .inr (by simp)

/-- A path leads to the home page or to the chat page exactly if it has the shape of such a path,
and any other text is reported. -/
theorem Route.parse_language (s : String) :
    (Route.parse s = .ok .home ↔ IsHomePath s) ∧
      (Route.parse s = .ok .chat ↔ IsChatPath s) ∧
      ((∃ e, Route.parse s = .error e) ↔ ¬IsHomePath s ∧ ¬IsChatPath s) := by
  refine ⟨Route.parse_eq_home_iff, Route.parse_eq_chat_iff, ?_⟩
  rw [← Route.parse_eq_home_iff, ← Route.parse_eq_chat_iff]
  cases h : Route.parse s with
  | ok r => cases r <;> simp
  | error e => simp

end SiteNav
