import Mathlib.Tactic.Lemma
import Mathlib.Tactic.SplitIfs
import SiteNav.Text.Percent

/-!
# Encodings of a text

An encoding of a text writes each character as itself or as the percent escapes of all of its bytes,
with hexadecimal digits in either case. The characters that give a path its shape, and the percent
sign, are never written as themselves, so that an encoding can stand between slashes.

Decoding undoes every encoding, and a plain text is decoded from its encodings only.
-/

namespace SiteNav

/-! ### Bytes of ASCII characters -/

lemma utf8EncodeChar_of_lt {c : Char} (hc : c.toNat < 0x80) :
    String.utf8EncodeChar c = [UInt8.ofNat c.toNat] := by
  have hv : c.val.toNat ≤ 0x7f := Nat.le_of_lt_succ hc
  rw [String.utf8EncodeChar, if_pos hv]
  rfl

lemma le_of_mem_utf8EncodeChar {c : Char} (hc : 0x80 ≤ c.toNat) {b : UInt8}
    (hb : b ∈ String.utf8EncodeChar c) : 0x80 ≤ b.toNat := by
  have hv : ¬ c.val.toNat ≤ 0x7f := by
    have : c.val.toNat = c.toNat := rfl
    omega
  rw [String.utf8EncodeChar, if_neg hv] at hb
  split at hb
  · simp only [List.mem_cons, List.not_mem_nil, or_false] at hb
    rcases hb with rfl | rfl <;> rw [UInt8.toNat_ofNat'] <;> omega
  · split at hb <;> simp only [List.mem_cons, List.not_mem_nil, or_false] at hb
    · rcases hb with rfl | rfl | rfl <;> rw [UInt8.toNat_ofNat'] <;> omega
    · rcases hb with rfl | rfl | rfl | rfl <;> rw [UInt8.toNat_ofNat'] <;> omega

/-- A text whose first byte is below `0x80` starts with the character of that number. -/
lemma eq_cons_of_utf8_eq_cons {cs : List Char} {b : UInt8} {bs : List UInt8}
    (hb : b.toNat < 0x80) (h : utf8 cs = b :: bs) :
    ∃ c ds, cs = c :: ds ∧ c.toNat = b.toNat ∧ utf8 ds = bs := by
  cases cs with
  | nil => simp at h
  | cons c ds =>
    rw [utf8_cons] at h
    rcases Nat.lt_or_ge c.toNat 0x80 with hc | hc
    · rw [utf8EncodeChar_of_lt hc, List.singleton_append] at h
      obtain ⟨rfl, hbs⟩ := List.cons.inj h
      refine ⟨c, ds, rfl, ?_, hbs⟩
      rw [UInt8.toNat_ofNat', Nat.mod_eq_of_lt (by omega)]
    · -- the first byte would be one of a longer character
      obtain ⟨a, as, ha⟩ := List.exists_cons_of_ne_nil (String.utf8EncodeChar_ne_nil (c := c))
      have hle := le_of_mem_utf8EncodeChar hc (b := a) (by simp [ha])
      rw [ha, List.cons_append] at h
      have hab : a = b := (List.cons.inj h).1
      rw [hab] at hle
      omega

/-! ### Hexadecimal digits -/

/-- The digits that stand for a value below sixteen, a letter being written in either case. -/
def hexSpellings (n : Nat) : List Char := [n.digitChar, n.digitChar.toUpper]

lemma forall_mem_hexSpellings {n : Nat} {p : Char → Prop} :
    (∀ d ∈ hexSpellings n, p d) ↔ p n.digitChar ∧ p n.digitChar.toUpper := by
  simp [hexSpellings]

/-- The byte of a digit has the value that the digit stands for. -/
lemma hexValue?_of_mem_hexSpellings :
    ∀ n < 16, ∀ d ∈ hexSpellings n,
      d.toNat < 0x80 ∧ hexValue? (UInt8.ofNat d.toNat) = some (UInt8.ofNat n) := by
  simp only [forall_mem_hexSpellings]
  decide

lemma lt_of_hexValue? {b v : UInt8} (h : hexValue? b = some v) : b.toNat < 0x80 := by
  simp only [hexValue?, UInt8.le_iff_toNat_le] at h
  split_ifs at h with h₁ h₂ h₃
  · exact Nat.lt_of_le_of_lt h₁.2 (by decide)
  · exact Nat.lt_of_le_of_lt h₂.2 (by decide)
  · exact Nat.lt_of_le_of_lt h₃.2 (by decide)

/-- A byte that has a value as a digit is one of the spellings of that value. -/
lemma mem_hexSpellings_of_hexValue? {b v : UInt8} (h : hexValue? b = some v) :
    v.toNat < 16 ∧ Char.ofNat b.toNat ∈ hexSpellings v.toNat := by
  have hall : ∀ n < 0x80, (hexValue? (UInt8.ofNat n)).all
      fun v => v.toNat < 16 ∧ Char.ofNat n ∈ hexSpellings v.toNat := by decide
  have hb := hall b.toNat (lt_of_hexValue? h)
  rw [UInt8.ofNat_toNat, h] at hb
  exact of_decide_eq_true hb

/-! ### Encodings -/

/-- How percent escapes of some bytes are written. -/
inductive Escapes : List UInt8 → List Char → Prop where
  | nil : Escapes [] []
  | cons {b : UInt8} {bs : List UInt8} {high low : Char} {cs : List Char}
      (hhigh : high ∈ hexSpellings (b.toNat / 16)) (hlow : low ∈ hexSpellings (b.toNat % 16))
      (h : Escapes bs cs) : Escapes (b :: bs) ('%' :: high :: low :: cs)

/-- Two digits after a percent sign make an escape of the byte that they spell. -/
lemma escapes_digits {v w : UInt8} (hv : v.toNat < 16) (hw : w.toNat < 16) {d₁ d₂ : Char}
    (h₁ : d₁ ∈ hexSpellings v.toNat) (h₂ : d₂ ∈ hexSpellings w.toNat) :
    Escapes [16 * v + w] ['%', d₁, d₂] := by
  have hsum : (16 * v + w).toNat = 16 * v.toNat + w.toNat := by
    simp only [UInt8.toNat_add, UInt8.toNat_mul, UInt8.reduceToNat]
    omega
  refine .cons ?_ ?_ .nil
  · rwa [hsum, show (16 * v.toNat + w.toNat) / 16 = v.toNat by omega]
  · rwa [hsum, show (16 * v.toNat + w.toNat) % 16 = w.toNat by omega]

/-- The characters that are never written as themselves. -/
def reservedChars : List Char := ['%', '/', '?', '#']

/-- How a character is written: as itself, or as the escapes of all of its bytes. -/
inductive EncodesChar (c : Char) : List Char → Prop where
  | literal (hc : c ∉ reservedChars) : EncodesChar c [c]
  | escaped {ds : List Char} (h : Escapes (String.utf8EncodeChar c) ds) : EncodesChar c ds

/-- How a text is written, character by character. -/
inductive Encodes : List Char → List Char → Prop where
  | nil : Encodes [] []
  | cons {c : Char} {cs ds es : List Char} (hc : EncodesChar c ds) (h : Encodes cs es) :
      Encodes (c :: cs) (ds ++ es)

/-- Escapes are made of percent signs and digits, so that nothing else is met in them. -/
lemma Escapes.notMem {bs : List UInt8} {cs : List Char} (h : Escapes bs cs) {x : Char}
    (hx : x ≠ '%') (hd : ∀ n < 16, x ∉ hexSpellings n) : x ∉ cs := by
  induction h with
  | nil => simp
  | @cons b bs high low cs hhigh hlow _ ih =>
    have hb : b.toNat < 256 := b.toNat_lt
    simp only [List.mem_cons, not_or]
    refine ⟨hx, ?_, ?_, ih⟩
    · rintro rfl
      exact hd _ (by omega) hhigh
    · rintro rfl
      exact hd _ (by omega) hlow

/-- An encoding does not contain the characters that give a path its shape. -/
lemma Encodes.notMem {p e : List Char} (h : Encodes p e) {x : Char} (hx : x ∈ ['/', '?', '#']) :
    x ∉ e := by
  have hne : x ≠ '%' := by
    rintro rfl
    revert hx
    decide
  have hd : ∀ n < 16, x ∉ hexSpellings n := by
    simp only [List.mem_cons, List.not_mem_nil, or_false] at hx
    rcases hx with rfl | rfl | rfl <;> decide
  induction h with
  | nil => simp
  | cons hc _ ih =>
    rw [List.mem_append, not_or]
    refine ⟨?_, ih⟩
    cases hc with
    | literal hc =>
      rw [List.mem_singleton]
      rintro rfl
      exact hc (List.mem_cons_of_mem _ hx)
    | escaped h => exact h.notMem hne hd

/-! ### Decoding undoes encodings -/

/-- Bytes without a percent sign are kept in front of any others. -/
lemma unescape_append_of_notMem {bs : List UInt8} (h : percentByte ∉ bs) (rest : List UInt8) :
    unescape (bs ++ rest) = bs ++ unescape rest := by
  induction bs with
  | nil => rfl
  | cons b bs ih =>
    simp only [List.mem_cons, not_or] at h
    rw [List.cons_append, unescape_cons_of_ne (Ne.symm h.1), ih h.2, List.cons_append]

lemma percentByte_notMem_utf8EncodeChar {c : Char} (hc : c ≠ '%') :
    percentByte ∉ String.utf8EncodeChar c := by
  intro hmem
  rcases Nat.lt_or_ge c.toNat 0x80 with hlt | hge
  · rw [utf8EncodeChar_of_lt hlt, List.mem_singleton] at hmem
    have hn := congrArg UInt8.toNat hmem
    rw [UInt8.toNat_ofNat', Nat.mod_eq_of_lt (by omega)] at hn
    exact hc (Char.toNat_inj.mp hn.symm)
  · have := le_of_mem_utf8EncodeChar hge hmem
    revert this
    decide

/-- The bytes of an escape are the percent sign and two digits that spell the byte. -/
lemma utf8_escape {b : UInt8} {high low : Char} (hhigh : high ∈ hexSpellings (b.toNat / 16))
    (hlow : low ∈ hexSpellings (b.toNat % 16)) :
    ∃ c d v w, utf8 ['%', high, low] = [percentByte, c, d] ∧ hexValue? c = some v ∧
      hexValue? d = some w ∧ 16 * v + w = b := by
  have hb : b.toNat < 256 := b.toNat_lt
  obtain ⟨hlt₁, hval₁⟩ := hexValue?_of_mem_hexSpellings _ (by omega) _ hhigh
  obtain ⟨hlt₂, hval₂⟩ := hexValue?_of_mem_hexSpellings _ (by omega) _ hlow
  have hpercent : String.utf8EncodeChar '%' = [percentByte] := by decide
  refine ⟨_, _, _, _, ?_, hval₁, hval₂, ?_⟩
  · simp only [utf8_cons, hpercent, utf8EncodeChar_of_lt hlt₁, utf8EncodeChar_of_lt hlt₂,
      List.cons_append, List.nil_append, utf8_nil]
  · rw [← UInt8.toNat_inj]
    simp only [UInt8.toNat_add, UInt8.toNat_mul, UInt8.toNat_ofNat', UInt8.reduceToNat]
    omega

/-- Escapes are replaced by the bytes that they are of, in front of any others. -/
lemma Escapes.unescape {bs : List UInt8} {cs : List Char} (h : Escapes bs cs)
    (rest : List UInt8) : SiteNav.unescape (utf8 cs ++ rest) = bs ++ SiteNav.unescape rest := by
  induction h with
  | nil => rfl
  | @cons b bs high low cs hhigh hlow _ ih =>
    obtain ⟨c, d, v, w, hbytes, hc, hd, hsum⟩ := utf8_escape hhigh hlow
    calc SiteNav.unescape (utf8 (['%', high, low] ++ cs) ++ rest)
        = SiteNav.unescape (percentByte :: c :: d :: (utf8 cs ++ rest)) := by
          rw [utf8_append, hbytes, List.append_assoc]
          rfl
      _ = b :: bs ++ SiteNav.unescape rest := by
          rw [unescape_escape hc hd, ih, hsum, List.cons_append]

/-- The scan turns an encoding into the bytes of the text. -/
lemma Encodes.unescape {p e : List Char} (h : Encodes p e) :
    SiteNav.unescape (utf8 e) = utf8 p := by
  induction h with
  | nil => rfl
  | @cons c cs ds es hc _ ih =>
    rw [utf8_append, utf8_cons, ← ih]
    cases hc with
    | literal hc =>
      have hne : c ≠ '%' := fun h => hc (h ▸ List.mem_cons_self)
      rw [utf8_cons, utf8_nil, List.append_nil,
        unescape_append_of_notMem (percentByte_notMem_utf8EncodeChar hne)]
    | escaped h => rw [h.unescape]

lemma Encodes.percentDecode {p e : List Char} (h : Encodes p e) :
    SiteNav.percentDecode e = p := by
  rw [SiteNav.percentDecode, h.unescape, ofUtf8?_utf8, Option.getD_some]

/-! ### Plain texts are decoded from their encodings only -/

/-- Where a byte other than the percent sign comes from: it was there, or its escape was. -/
lemma unescape_eq_cons {b : UInt8} (hb : b ≠ percentByte) {bs out : List UInt8}
    (h : unescape bs = b :: out) :
    (∃ rest, bs = b :: rest ∧ unescape rest = out) ∨
      ∃ c d high low rest, bs = percentByte :: c :: d :: rest ∧ hexValue? c = some high ∧
        hexValue? d = some low ∧ 16 * high + low = b ∧ unescape rest = out := by
  match bs with
  | [] => simp at h
  | a :: bs =>
    by_cases ha : a = percentByte
    · subst ha
      -- a percent sign that opens no escape is kept, and is not the byte looked for
      match bs with
      | [] => exact absurd (List.cons.inj h).1.symm hb
      | [_] => exact absurd (List.cons.inj h).1.symm hb
      | c :: d :: rest =>
        cases hc : hexValue? c with
        | none =>
          rw [unescape_percent_of_none hc] at h
          exact absurd (List.cons.inj h).1.symm hb
        | some high =>
          cases hd : hexValue? d with
          | none =>
            rw [unescape_percent_digit_of_none hc hd] at h
            exact absurd (List.cons.inj h).1.symm hb
          | some low =>
            rw [unescape_escape hc hd] at h
            obtain ⟨hsum, hrest⟩ := List.cons.inj h
            exact .inr ⟨c, d, high, low, rest, rfl, hc, hd, hsum, hrest⟩
    · rw [unescape_cons_of_ne ha] at h
      obtain ⟨rfl, hrest⟩ := List.cons.inj h
      exact .inl ⟨bs, rfl, hrest⟩

lemma eq_nil_of_unescape {bs : List UInt8} (h : unescape bs = []) : bs = [] := by
  match bs with
  | [] => rfl
  | [_] => simp [unescape] at h
  | [_, _] => simp [unescape] at h
  | b :: c :: d :: rest =>
    rw [unescape] at h
    split at h
    · split at h
      · simp at h
      · split at h <;> simp at h
    · simp at h

/-- The digits of an escape, as they stand in a text. -/
lemma eq_digits_of_utf8_eq {cs : List Char} {b c high low : UInt8} {bs : List UInt8}
    (hhigh : hexValue? b = some high) (hlow : hexValue? c = some low)
    (h : utf8 cs = percentByte :: b :: c :: bs) :
    ∃ d₁ ∈ hexSpellings high.toNat, ∃ d₂ ∈ hexSpellings low.toNat, ∃ ds,
      cs = '%' :: d₁ :: d₂ :: ds ∧ utf8 ds = bs := by
  obtain ⟨p, cs, rfl, hp, h⟩ := eq_cons_of_utf8_eq_cons (by decide) h
  obtain ⟨d₁, cs, rfl, h₁, h⟩ := eq_cons_of_utf8_eq_cons (lt_of_hexValue? hhigh) h
  obtain ⟨d₂, ds, rfl, h₂, h⟩ := eq_cons_of_utf8_eq_cons (lt_of_hexValue? hlow) h
  have hmem₁ := (mem_hexSpellings_of_hexValue? hhigh).2
  have hmem₂ := (mem_hexSpellings_of_hexValue? hlow).2
  rw [← h₁, Char.ofNat_toNat] at hmem₁
  rw [← h₂, Char.ofNat_toNat] at hmem₂
  have hp : p = '%' := Char.toNat_inj.mp hp
  exact ⟨d₁, hmem₁, d₂, hmem₂, ds, by rw [hp], h⟩

/-- Every character of a plain text is an ASCII character that may be written as itself. -/
def IsPlain (p : List Char) : Prop := ∀ c ∈ p, c.toNat < 0x80 ∧ c ∉ reservedChars

instance (p : List Char) : Decidable (IsPlain p) :=
  List.decidableBAll (fun c : Char => c.toNat < 0x80 ∧ c ∉ reservedChars) p

/-- For a plain text the converse holds: what is decoded to it encodes it. -/
lemma encodes_of_unescape {p e : List Char} (hp : IsPlain p)
    (h : unescape (utf8 e) = utf8 p) : Encodes p e := by
  induction p generalizing e with
  | nil =>
    have he := eq_nil_of_unescape h
    rw [utf8_injective (he.trans utf8_nil.symm)]
    exact .nil
  | cons c p ih =>
    obtain ⟨hlt, hres⟩ := hp c List.mem_cons_self
    have hp' : IsPlain p := fun d hd => hp d (List.mem_cons_of_mem _ hd)
    have hc : (UInt8.ofNat c.toNat).toNat = c.toNat := by
      rw [UInt8.toNat_ofNat', Nat.mod_eq_of_lt (by omega)]
    have hne : UInt8.ofNat c.toNat ≠ percentByte := by
      have hmem := percentByte_notMem_utf8EncodeChar (c := c)
        fun h => hres (h ▸ List.mem_cons_self)
      rw [utf8EncodeChar_of_lt hlt, List.mem_singleton] at hmem
      exact Ne.symm hmem
    rw [utf8_cons, utf8EncodeChar_of_lt hlt, List.singleton_append] at h
    rcases unescape_eq_cons hne h with
      ⟨rest, he, hrest⟩ | ⟨b₁, b₂, high, low, rest, he, hhigh, hlow, hsum, hrest⟩
    · -- the character is written as itself
      obtain ⟨d, e, rfl, hd, rfl⟩ := eq_cons_of_utf8_eq_cons (by omega) he
      have hd : d = c := Char.toNat_inj.mp (hd.trans hc)
      subst hd
      exact .cons (.literal hres) (ih hp' hrest)
    · -- the character is written as an escape
      obtain ⟨d₁, hd₁, d₂, hd₂, e, rfl, rfl⟩ := eq_digits_of_utf8_eq hhigh hlow he
      have hesc : Escapes (String.utf8EncodeChar c) ['%', d₁, d₂] := by
        rw [utf8EncodeChar_of_lt hlt, ← hsum]
        exact escapes_digits (mem_hexSpellings_of_hexValue? hhigh).1
          (mem_hexSpellings_of_hexValue? hlow).1 hd₁ hd₂
      exact .cons (.escaped hesc) (ih hp' hrest)

lemma utf8_of_ofUtf8? {bs : List UInt8} {cs : List Char} (h : ofUtf8? bs = some cs) :
    utf8 cs = bs := by
  obtain ⟨a, ha, rfl⟩ := Option.map_eq_some_iff.mp h
  have henc := ByteArray.utf8Encode_get_utf8Decode? (b := bs.toByteArray) (h := by simp [ha])
  simp only [ha, Option.get_some] at henc
  have hbytes : (utf8 a.toList).toByteArray = bs.toByteArray := henc
  have hdata := congrArg (fun b : ByteArray => b.data.toList) hbytes
  simpa only [List.toList_data_toByteArray] using hdata

/-- A plain text is decoded from its encodings and from nothing else. -/
lemma percentDecode_eq_iff {p e : List Char} (hp : IsPlain p) :
    percentDecode e = p ↔ Encodes p e := by
  refine ⟨fun h => ?_, fun h => h.percentDecode⟩
  rw [percentDecode] at h
  cases hdec : ofUtf8? (unescape (utf8 e)) with
  | some cs =>
    rw [hdec, Option.getD_some] at h
    exact encodes_of_unescape hp (h ▸ (utf8_of_ofUtf8? hdec).symm)
  | none =>
    -- the piece was left as it was, although a plain text has nothing to undo
    rw [hdec, Option.getD_none] at h
    subst h
    have hmem : percentByte ∉ utf8 e := by
      simp only [utf8, List.mem_flatMap, not_exists, not_and]
      intro c hc
      exact percentByte_notMem_utf8EncodeChar fun h => (hp c hc).2 (h ▸ List.mem_cons_self)
    rw [unescape_eq_self hmem, ofUtf8?_utf8] at hdec
    exact absurd hdec (by simp)

end SiteNav
