import SiteNav.Proofs.Text.Encoding

/-!
# What percent decoding means

An escape stands wherever a percent sign is followed by two hexadecimal digits, and no two escapes
overlap. All of them are replaced at once: in the place of each there is the byte that it is of, and
every byte outside of them is kept. That is what the scan puts out, and nothing that it has put out
is looked at again. If the outcome is no text, the piece is left as it was.
-/

namespace SiteNav

/-! ### Escapes and their places -/

/-- The bytes begin with an escape of a byte. -/
def StartsEscape (bs : List UInt8) (b : UInt8) : Prop := ∃ cs, Escapes [b] cs ∧ utf8 cs <+: bs

/-- An escape of a byte stands at a position of the bytes. -/
def EscapeAt (bs : List UInt8) (i : Nat) (b : UInt8) : Prop := StartsEscape (bs.drop i) b

/-- No digit is a percent sign. -/
lemma ne_percentByte_of_hexValue? {c v : UInt8} (h : hexValue? c = some v) : c ≠ percentByte := by
  rintro rfl
  rw [hexValue?_percentByte] at h
  cases h

lemma Escapes.exists_utf8_eq {b : UInt8} {cs : List Char} (h : Escapes [b] cs) :
    ∃ c d v w, utf8 cs = [percentByte, c, d] ∧ hexValue? c = some v ∧ hexValue? d = some w ∧
      16 * v + w = b := by
  cases h with
  | cons hhigh hlow h =>
    cases h
    exact utf8_escape hhigh hlow

lemma utf8_digits {c d : UInt8} (hc : c.toNat < 0x80) (hd : d.toNat < 0x80) :
    utf8 ['%', Char.ofNat c.toNat, Char.ofNat d.toNat] = [percentByte, c, d] := by
  have hall : ∀ n < 0x80, String.utf8EncodeChar (Char.ofNat n) = [UInt8.ofNat n] := by decide
  have hpercent : String.utf8EncodeChar '%' = [percentByte] := by decide
  simp only [utf8_cons, utf8_nil, hpercent, hall _ hc, hall _ hd, UInt8.ofNat_toNat,
    List.cons_append, List.nil_append]

/-- Two digits behind a percent sign are an escape, in whichever case they are written. -/
lemma startsEscape_of_hexValue? {c d v w : UInt8} (hc : hexValue? c = some v)
    (hd : hexValue? d = some w) (rest : List UInt8) :
    StartsEscape (percentByte :: c :: d :: rest) (16 * v + w) := by
  obtain ⟨hv, hmem₁⟩ := mem_hexSpellings_of_hexValue? hc
  obtain ⟨hw, hmem₂⟩ := mem_hexSpellings_of_hexValue? hd
  refine ⟨_, escapes_digits hv hw hmem₁ hmem₂, rest, ?_⟩
  rw [utf8_digits (lt_of_hexValue? hc) (lt_of_hexValue? hd)]
  rfl

/-- An escape is a percent sign and two digits. -/
lemma StartsEscape.exists_eq {bs : List UInt8} {b : UInt8} (h : StartsEscape bs b) :
    ∃ c d v w rest, bs = percentByte :: c :: d :: rest ∧ hexValue? c = some v ∧
      hexValue? d = some w ∧ 16 * v + w = b := by
  obtain ⟨cs, hcs, rest, rfl⟩ := h
  obtain ⟨c, d, v, w, hbytes, hc, hd, hsum⟩ := hcs.exists_utf8_eq
  exact ⟨c, d, v, w, rest, by rw [hbytes]; rfl, hc, hd, hsum⟩

lemma StartsEscape.unique {bs : List UInt8} {b b' : UInt8} (h : StartsEscape bs b)
    (h' : StartsEscape bs b') : b = b' := by
  obtain ⟨c, d, v, w, rest, rfl, hc, hd, rfl⟩ := h.exists_eq
  obtain ⟨c', d', v', w', rest', heq, hc', hd', rfl⟩ := h'.exists_eq
  simp only [List.cons.injEq, true_and] at heq
  obtain ⟨rfl, rfl, -⟩ := heq
  rw [hc, Option.some_inj] at hc'
  rw [hd, Option.some_inj] at hd'
  rw [hc', hd']

/-- A digit is no percent sign, so that no escape begins inside of another one. -/
lemma StartsEscape.three_le {bs : List UInt8} {b b' : UInt8} {k : Nat} (h : StartsEscape bs b)
    (hk : 0 < k) (h' : EscapeAt bs k b') : 3 ≤ k := by
  obtain ⟨c, d, v, w, rest, rfl, hc, hd, -⟩ := h.exists_eq
  obtain ⟨_, _, _, _, _, heq, -⟩ := h'.exists_eq
  rcases Nat.lt_or_ge k 3 with hlt | hle
  · obtain rfl | rfl : k = 1 ∨ k = 2 := by omega
    · exact absurd (List.cons.inj heq).1 (ne_percentByte_of_hexValue? hc)
    · exact absurd (List.cons.inj heq).1 (ne_percentByte_of_hexValue? hd)
  · exact hle

/-- Two escapes are three bytes apart. -/
lemma EscapeAt.add_three_le {bs : List UInt8} {b b' : UInt8} {k i : Nat} (h : EscapeAt bs k b)
    (hk : k < i) (h' : EscapeAt bs i b') : k + 3 ≤ i := by
  have hdrop : EscapeAt (bs.drop k) (i - k) b' := by
    rw [EscapeAt, List.drop_drop, Nat.add_sub_cancel' (by omega)]
    exact h'
  have := StartsEscape.three_le h (by omega) hdrop
  omega

/-! ### All escapes at once -/

/-- What the byte at a position becomes: all of an escape that begins there, nothing inside of an
escape, and itself outside of all escapes. -/
inductive PartAt (bs : List UInt8) (i : Nat) : List UInt8 → Prop where
  | escape {b : UInt8} (h : EscapeAt bs i b) : PartAt bs i [b]
  | inside {k : Nat} {b : UInt8} (hk : k < i) (hi : i < k + 3) (h : EscapeAt bs k b) :
      PartAt bs i []
  | kept {b : UInt8} (hb : bs[i]? = some b)
      (h : ∀ k a, k ≤ i → i < k + 3 → ¬EscapeAt bs k a) : PartAt bs i [b]

/-- All escapes are replaced by the bytes that they are of. -/
def Replaced (bs out : List UInt8) : Prop :=
  ∃ parts : List (List UInt8), parts.length = bs.length ∧
    (∀ i part, parts[i]? = some part → PartAt bs i part) ∧ out = parts.flatten

/-- What becomes of a byte is settled, since no two escapes overlap. -/
lemma PartAt.unique {bs : List UInt8} {i : Nat} {p q : List UInt8} (h : PartAt bs i p)
    (h' : PartAt bs i q) : p = q := by
  cases h with
  | escape h =>
    cases h' with
    | escape h' => rw [h.unique h']
    | inside hk hi h' => have := h'.add_three_le hk h; omega
    | kept _ h' => exact absurd h (h' i _ (Nat.le_refl i) (by omega))
  | inside hk hi h =>
    cases h' with
    | escape h' => have := h.add_three_le hk h'; omega
    | inside => rfl
    | kept _ h' => exact absurd h (h' _ _ (Nat.le_of_lt hk) hi)
  | kept hb h =>
    cases h' with
    | escape h' => exact absurd h' (h i _ (Nat.le_refl i) (by omega))
    | inside hk hi h' => exact absurd h' (h _ _ (Nat.le_of_lt hk) hi)
    | kept hb' => rw [hb, Option.some_inj] at hb'; rw [hb']

/-- Replacing all escapes has at most one outcome. -/
lemma Replaced.unique {bs out out' : List UInt8} (h : Replaced bs out) (h' : Replaced bs out') :
    out = out' := by
  obtain ⟨parts, hlen, hparts, rfl⟩ := h
  obtain ⟨parts', hlen', hparts', rfl⟩ := h'
  congr 1
  apply List.ext_getElem (hlen.trans hlen'.symm)
  intro i hi hi'
  have hpart := hparts i _ (List.getElem?_eq_getElem hi)
  exact hpart.unique (hparts' i _ (List.getElem?_eq_getElem hi'))

/-! ### The scan -/

/-- Bytes are made up of escapes and of bytes that begin none. -/
@[elab_as_elim]
theorem escape_induction {motive : List UInt8 → Prop} (nil : motive [])
    (escape : ∀ c d v w rest, hexValue? c = some v → hexValue? d = some w → motive rest →
      motive (percentByte :: c :: d :: rest))
    (kept : ∀ b rest, (∀ a, ¬StartsEscape (b :: rest) a) → motive rest → motive (b :: rest))
    (bs : List UInt8) : motive bs := by
  match bs with
  | [] => exact nil
  | b :: bs =>
    by_cases h : ∃ a, StartsEscape (b :: bs) a
    · obtain ⟨a, ha⟩ := h
      obtain ⟨c, d, v, w, rest, hbs, hc, hd, -⟩ := ha.exists_eq
      have hlt : rest.length < (b :: bs).length := by
        rw [hbs]
        simp only [List.length_cons]
        omega
      rw [hbs]
      exact escape c d v w rest hc hd (escape_induction nil escape kept rest)
    · exact kept b bs (not_exists.mp h) (escape_induction nil escape kept bs)
termination_by bs.length
decreasing_by
  · exact hlt
  · exact Nat.lt_succ_self bs.length

/-- Whatever keeps a byte from beginning an escape, it is put out, and the scan goes on at the byte
that follows it. -/
lemma unescape_cons_of_not_startsEscape {b : UInt8} {bs : List UInt8}
    (h : ∀ a, ¬StartsEscape (b :: bs) a) : unescape (b :: bs) = b :: unescape bs := by
  by_cases hb : b = percentByte
  · subst hb
    match bs with
    | [] => rfl
    | [_] => rfl
    | c :: d :: rest =>
      cases hc : hexValue? c with
      | none => exact unescape_percent_of_none hc (d :: rest)
      | some v =>
        cases hd : hexValue? d with
        | none =>
          -- the digit is kept too, since it is no percent sign
          rw [unescape_percent_digit_of_none hc hd,
            unescape_cons_of_ne (ne_percentByte_of_hexValue? hc)]
        | some w => exact absurd (startsEscape_of_hexValue? hc hd rest) (h _)
  · exact unescape_cons_of_ne hb bs

/-- A byte that begins no escape changes nothing for those behind it. -/
lemma PartAt.cons {b : UInt8} {bs part : List UInt8} {i : Nat}
    (hb : ∀ a, ¬StartsEscape (b :: bs) a) (h : PartAt bs i part) :
    PartAt (b :: bs) (i + 1) part := by
  cases h with
  | escape h => exact .escape h
  | @inside k _ hk hi h => exact .inside (k := k + 1) (by omega) (by omega) h
  | kept hbyte h =>
    refine .kept hbyte fun k a hk hi hescape => ?_
    cases k with
    | zero => exact hb a hescape
    | succ k => exact h k a (by omega) (by omega) hescape

lemma PartAt.behind {c d v w : UInt8} {bs part : List UInt8} {i : Nat} (hc : hexValue? c = some v)
    (hd : hexValue? d = some w) (h : PartAt bs i part) :
    PartAt (percentByte :: c :: d :: bs) (i + 3) part := by
  have hstart := startsEscape_of_hexValue? hc hd bs
  cases h with
  | escape h => exact .escape h
  | @inside k _ hk hi h => exact .inside (k := k + 3) (by omega) (by omega) h
  | kept hbyte h =>
    refine .kept hbyte fun k a hk hi hescape => ?_
    -- an escape that reaches this far begins behind the first one
    obtain ⟨k, rfl⟩ := Nat.exists_eq_add_of_le' (hstart.three_le (by omega) hescape)
    exact h k a (by omega) (by omega) hescape

lemma replaced_unescape (bs : List UInt8) : Replaced bs (unescape bs) := by
  induction bs using escape_induction with
  | nil => exact ⟨[], rfl, by simp, rfl⟩
  | escape c d v w rest hc hd ih =>
    obtain ⟨parts, hlen, hparts, hout⟩ := ih
    have hstart : EscapeAt (percentByte :: c :: d :: rest) 0 (16 * v + w) :=
      startsEscape_of_hexValue? hc hd rest
    refine ⟨[16 * v + w] :: [] :: [] :: parts, by simp [hlen], fun i part hi => ?_, ?_⟩
    · -- of the three positions of an escape, the first stands for its byte
      match i with
      | 0 => cases hi; exact .escape hstart
      | 1 => cases hi; exact .inside Nat.zero_lt_one (by decide) hstart
      | 2 => cases hi; exact .inside Nat.zero_lt_two (by decide) hstart
      | i + 3 => exact (hparts i part hi).behind hc hd
    · rw [unescape_escape hc hd, hout]
      rfl
  | kept b rest hb ih =>
    obtain ⟨parts, hlen, hparts, hout⟩ := ih
    refine ⟨[b] :: parts, by simp [hlen], fun i part hi => ?_, ?_⟩
    · cases i with
      | zero =>
        cases hi
        refine .kept rfl fun k a hk _ hescape => ?_
        obtain rfl : k = 0 := by omega
        exact hb a hescape
      | succ i => exact (hparts i part hi).cons hb
    · rw [unescape_cons_of_not_startsEscape hb, hout]
      rfl

/-- The scan puts out the only outcome that there is. -/
lemma replaced_iff {bs out : List UInt8} : Replaced bs out ↔ out = unescape bs := by
  refine ⟨fun h => h.unique (replaced_unescape bs), ?_⟩
  rintro rfl
  exact replaced_unescape bs

/-! ### Nothing is looked at again -/

/-- In front of a percent sign, an escape is over. -/
lemma StartsEscape.of_append {b a : UInt8} {front back : List UInt8}
    (h : StartsEscape (b :: (front ++ percentByte :: back)) a) : StartsEscape (b :: front) a := by
  obtain ⟨c, d, v, w, rest, heq, hc, hd, hsum⟩ := h.exists_eq
  obtain ⟨rfl, hrest⟩ := List.cons.inj heq
  match front with
  | [] => exact absurd (List.cons.inj hrest).1.symm (ne_percentByte_of_hexValue? hc)
  | [_] =>
    exact absurd (List.cons.inj (List.cons.inj hrest).2).1.symm (ne_percentByte_of_hexValue? hd)
  | c' :: d' :: front =>
    simp only [List.cons_append, List.cons.injEq] at hrest
    obtain ⟨rfl, rfl, -⟩ := hrest
    exact hsum ▸ startsEscape_of_hexValue? hc hd front

/-- The byte that an escape is of is put out as it is, and what stands before the escape and what
stands behind it are read each on its own. -/
lemma unescape_append_escape {b : UInt8} {cs : List Char} (h : Escapes [b] cs)
    (front back : List UInt8) :
    unescape (front ++ utf8 cs ++ back) = unescape front ++ b :: unescape back := by
  induction front using escape_induction with
  | nil => exact h.unescape back
  | escape c d v w rest hc hd ih =>
    simp only [List.cons_append] at ih ⊢
    rw [unescape_escape hc hd, unescape_escape hc hd, ih, List.cons_append]
  | kept a rest ha ih =>
    obtain ⟨c, d, -, -, hbytes, -⟩ := h.exists_utf8_eq
    have hkept : ∀ x, ¬StartsEscape (a :: (rest ++ utf8 cs ++ back)) x := by
      intro x hx
      rw [hbytes, List.append_assoc] at hx
      exact ha x hx.of_append
    simp only [List.cons_append]
    rw [unescape_cons_of_not_startsEscape hkept, unescape_cons_of_not_startsEscape ha, ih,
      List.cons_append]

lemma EscapeAt.exists_eq_append {bs : List UInt8} {i : Nat} {b : UInt8} (h : EscapeAt bs i b) :
    ∃ front cs back, bs = front ++ utf8 cs ++ back ∧ Escapes [b] cs := by
  obtain ⟨cs, hcs, back, hback⟩ := h
  refine ⟨bs.take i, cs, back, ?_, hcs⟩
  rw [List.append_assoc, hback, List.take_append_drop]

/-- The scan puts out no more bytes than it reads. -/
lemma length_unescape_le (bs : List UInt8) : (unescape bs).length ≤ bs.length := by
  induction bs using escape_induction with
  | nil => exact Nat.le_refl 0
  | escape c d v w rest hc hd ih =>
    rw [unescape_escape hc hd]
    simp only [List.length_cons]
    omega
  | kept b rest hb ih =>
    rw [unescape_cons_of_not_startsEscape hb]
    exact Nat.succ_le_succ ih

/-- The scan changes something exactly if there is an escape. -/
lemma unescape_eq_self_iff {bs : List UInt8} : unescape bs = bs ↔ ∀ i b, ¬EscapeAt bs i b := by
  constructor
  · intro hself i b hescape
    obtain ⟨front, cs, back, rfl, hcs⟩ := hescape.exists_eq_append
    obtain ⟨c, d, -, -, hbytes, -⟩ := hcs.exists_utf8_eq
    -- the three bytes of the escape have become one
    have hlength := congrArg List.length hself
    rw [unescape_append_escape hcs, hbytes] at hlength
    simp only [List.length_append, List.length_cons] at hlength
    have hfront := length_unescape_le front
    have hback := length_unescape_le back
    omega
  · intro h
    induction bs using escape_induction with
    | nil => rfl
    | escape c d v w rest hc hd ih =>
      exact absurd (startsEscape_of_hexValue? hc hd rest) (h 0 _)
    | kept b rest hb ih =>
      rw [unescape_cons_of_not_startsEscape hb, ih fun i => h (i + 1)]

/-! ### Decoding -/

section

variable {piece : List Char}

lemma percentDecode_of_utf8_eq {text : List Char} (h : utf8 text = unescape (utf8 piece)) :
    percentDecode piece = text := by
  rw [percentDecode, ← h, ofUtf8?_utf8, Option.getD_some]

/-- A piece whose bytes come out as no text is left as it was. -/
lemma percentDecode_of_forall_ne (h : ∀ text, utf8 text ≠ unescape (utf8 piece)) :
    percentDecode piece = piece := by
  rw [percentDecode]
  cases hread : ofUtf8? (unescape (utf8 piece)) with
  | none => rfl
  | some text => exact absurd (utf8_of_ofUtf8? hread) (h text)

lemma percentDecode_ne_self_iff : percentDecode piece ≠ piece ↔
    (∃ i b, EscapeAt (utf8 piece) i b) ∧ ∃ text, utf8 text = unescape (utf8 piece) := by
  by_cases htext : ∃ text, utf8 text = unescape (utf8 piece)
  · obtain ⟨text, h⟩ := htext
    have hself : percentDecode piece = piece ↔ unescape (utf8 piece) = utf8 piece := by
      rw [percentDecode_of_utf8_eq h, ← h]
      exact ⟨fun h => by rw [h], utf8_injective⟩
    rw [ne_eq, hself, unescape_eq_self_iff]
    simp only [Classical.not_forall, Classical.not_not]
    exact (and_iff_left ⟨text, h⟩).symm
  · have hself := percentDecode_of_forall_ne (not_exists.mp htext)
    exact iff_of_false (fun h => h hself) fun h => htext h.2

end

/-- There is exactly one outcome of replacing all escapes of a piece at once, and the scan puts it
out. If it is the bytes of a text, the piece is decoded to that text, and else to itself. So it is
changed exactly if there is an escape in it and the outcome is a text. No byte that comes out of an
escape is looked at again. -/
theorem percentDecode_replaces_escapes (piece : List Char) :
    ∃ bytes, (∀ out, Replaced (utf8 piece) out ↔ out = bytes) ∧
      unescape (utf8 piece) = bytes ∧
      (∀ text, utf8 text = bytes → percentDecode piece = text) ∧
      ((∀ text, utf8 text ≠ bytes) → percentDecode piece = piece) ∧
      (percentDecode piece ≠ piece ↔
        (∃ i b, EscapeAt (utf8 piece) i b) ∧ ∃ text, utf8 text = bytes) ∧
      ∀ front cs back b, Escapes [b] cs → utf8 piece = front ++ utf8 cs ++ back →
        bytes = unescape front ++ b :: unescape back := by
  refine ⟨unescape (utf8 piece), fun out => replaced_iff, rfl,
    fun text => percentDecode_of_utf8_eq, percentDecode_of_forall_ne, percentDecode_ne_self_iff, ?_⟩
  intro front cs back b hcs hpiece
  rw [hpiece, unescape_append_escape hcs]

/-- A percent sign in front of an escape, one with a single digit, one that is escaped itself, and
one at the end; the first escape splits the scan in two. A byte that is in no text leaves the piece
as it was. -/
theorem percentDecode_replaces_escapes_of_malformed :
    utf8 "%A%4A%41%".toList = unescape (utf8 "%%41%4%41%2541%".toList) ∧
      percentDecode "%%41%4%41%2541%".toList = "%A%4A%41%".toList ∧
      Escapes [0x41] "%41".toList ∧
      unescape (utf8 "%%41%4%41%2541%".toList) =
        unescape (utf8 "%".toList) ++ 0x41 :: unescape (utf8 "%4%41%2541%".toList) ∧
      (∀ text, utf8 text ≠ unescape (utf8 "%41%FF".toList)) ∧
      percentDecode "%41%FF".toList = "%41%FF".toList := by
  have hbytes : utf8 "%A%4A%41%".toList = unescape (utf8 "%%41%4%41%2541%".toList) := by
    decide +kernel
  have hescape : Escapes [0x41] "%41".toList := .cons (by decide) (by decide) .nil
  have hno (text : List Char) : utf8 text ≠ unescape (utf8 "%41%FF".toList) := by
    intro htext
    have hread : ofUtf8? (unescape (utf8 "%41%FF".toList)) = none := by decide +kernel
    rw [← htext, ofUtf8?_utf8] at hread
    cases hread
  obtain ⟨_, -, rfl, htext, -, -, hsplit⟩ :=
    percentDecode_replaces_escapes "%%41%4%41%2541%".toList
  obtain ⟨_, -, rfl, -, hself, -⟩ := percentDecode_replaces_escapes "%41%FF".toList
  exact ⟨hbytes, htext _ hbytes, hescape, hsplit _ _ _ _ hescape (by decide +kernel), hno,
    hself hno⟩

end SiteNav
