import Mathlib.Data.Finset.Card
import Mathlib.Order.Bounds.Basic
import Mathlib.Tactic.Lemma
import SiteNav.Text.Search

/-!
# What a search finds

A token occurs in a text at some byte offsets, and the search gives the least of them. Taking every
occurrence from the left that does not overlap the one before it leaves none that could be added or
exchanged for a gain: there is no larger choice of occurrences that do not overlap, also when the
token overlaps itself.
-/

namespace SiteNav

/-! ### Occurrences -/

/-- A token stands at an offset of some bytes. -/
def OccursAt (token bs : List UInt8) (i : Nat) : Prop :=
  ∃ front back, bs = front ++ token ++ back ∧ front.length = i

section

variable {token bs : List UInt8} {i : Nat}

lemma occursAt_zero_iff : OccursAt token bs 0 ↔ token <+: bs := by
  constructor
  · rintro ⟨front, back, rfl, hlen⟩
    rw [List.eq_nil_of_length_eq_zero hlen]
    exact List.prefix_append token back
  · rintro ⟨back, rfl⟩
    exact ⟨[], back, rfl, rfl⟩

/-- Behind other bytes, a token stands where it did, moved by their number. -/
lemma occursAt_append_iff (front : List UInt8) :
    OccursAt token (front ++ bs) (front.length + i) ↔ OccursAt token bs i := by
  constructor
  · rintro ⟨before, back, heq, hlen⟩
    rw [List.append_assoc] at heq
    obtain ⟨rest, rfl⟩ : front <+: before :=
      List.prefix_of_prefix_length_le ⟨bs, heq⟩ ⟨token ++ back, rfl⟩ (by omega)
    rw [List.append_assoc, List.append_cancel_left_eq, ← List.append_assoc] at heq
    rw [List.length_append] at hlen
    exact ⟨rest, back, heq, by omega⟩
  · rintro ⟨before, back, rfl, rfl⟩
    exact ⟨front ++ before, back, by simp only [List.append_assoc], List.length_append⟩

lemma occursAt_cons_iff {b : UInt8} : OccursAt token (b :: bs) (i + 1) ↔ OccursAt token bs i := by
  rw [Nat.add_comm]
  exact occursAt_append_iff [b]

lemma not_occursAt_nil (htoken : token ≠ []) : ¬OccursAt token [] i := by
  rintro ⟨front, back, heq, -⟩
  simp at heq
  exact htoken heq.2.1

/-! ### The first occurrence -/

/-- Where the search stops, the token stands. -/
lemma occursAt_of_firstAt? (h : firstAt? token bs = some i) : OccursAt token bs i := by
  induction bs generalizing i with
  | nil =>
    rw [firstAt?] at h
    split at h
    · cases h
      exact ⟨[], [], by simp_all, rfl⟩
    · cases h
  | cons b bs ih =>
    rw [firstAt?] at h
    split at h
    · rename_i hprefix
      cases h
      exact occursAt_zero_iff.mpr (List.isPrefixOf_iff_prefix.mp hprefix)
    · obtain ⟨j, hj, rfl⟩ := Option.map_eq_some_iff.mp h
      exact occursAt_cons_iff.mpr (ih hj)

/-- Where there is an occurrence, one is found that is not behind it. -/
lemma OccursAt.exists_firstAt? (h : OccursAt token bs i) :
    ∃ j ≤ i, firstAt? token bs = some j := by
  induction bs generalizing i with
  | nil =>
    have htoken : token = [] := by
      by_contra hne
      exact not_occursAt_nil hne h
    exact ⟨0, Nat.zero_le i, by rw [htoken, firstAt?_nil_left]⟩
  | cons b bs ih =>
    rw [firstAt?]
    split_ifs with hprefix
    · exact ⟨0, Nat.zero_le i, rfl⟩
    · cases i with
      | zero => exact absurd (List.isPrefixOf_iff_prefix.mpr (occursAt_zero_iff.mp h)) hprefix
      | succ i =>
        obtain ⟨j, hj, hfirst⟩ := ih (occursAt_cons_iff.mp h)
        exact ⟨j + 1, Nat.succ_le_succ hj, by rw [hfirst, Option.map_some]⟩

/-- The search finds the least offset at which the token stands. -/
lemma firstAt?_eq_some_iff : firstAt? token bs = some i ↔ IsLeast {j | OccursAt token bs j} i := by
  constructor
  · intro h
    refine ⟨occursAt_of_firstAt? h, fun j hj => ?_⟩
    obtain ⟨k, hk, hfirst⟩ := OccursAt.exists_firstAt? hj
    rw [h, Option.some_inj] at hfirst
    rwa [hfirst]
  · rintro ⟨hi, hleast⟩
    obtain ⟨k, hk, hfirst⟩ := OccursAt.exists_firstAt? hi
    rw [hfirst, Nat.le_antisymm hk (hleast (occursAt_of_firstAt? hfirst))]

lemma firstAt?_eq_none_iff : firstAt? token bs = none ↔ ∀ i, ¬OccursAt token bs i := by
  constructor
  · intro h i hi
    obtain ⟨k, -, hfirst⟩ := hi.exists_firstAt?
    rw [h] at hfirst
    cases hfirst
  · intro h
    cases hfirst : firstAt? token bs with
    | none => rfl
    | some i => exact absurd (occursAt_of_firstAt? hfirst) (h i)

end

/-! ### Occurrences that do not overlap -/

/-- Some offsets at which a token stands, of which no two are closer than the token is long. -/
structure Apart (token bs : List UInt8) (s : Finset Nat) : Prop where
  occursAt : ∀ i ∈ s, OccursAt token bs i
  add_length_le : ∀ i ∈ s, ∀ j ∈ s, i < j → i + token.length ≤ j

section

variable {token bs : List UInt8} {s : Finset Nat}

lemma apart_empty : Apart token bs ∅ where
  occursAt i hi := absurd hi (Finset.notMem_empty i)
  add_length_le i hi := absurd hi (Finset.notMem_empty i)

lemma apart_singleton {i : Nat} (h : OccursAt token bs i) : Apart token bs {i} where
  occursAt j hj := by rwa [Finset.mem_singleton.mp hj]
  add_length_le j hj k hk hlt := by
    rw [Finset.mem_singleton.mp hj, Finset.mem_singleton.mp hk] at hlt
    exact absurd hlt (Nat.lt_irrefl i)

/-- Other bytes in front move all occurrences. -/
lemma Apart.append (h : Apart token bs s) (front : List UInt8) :
    Apart token (front ++ bs) (s.image (front.length + ·)) where
  occursAt i hi := by
    obtain ⟨j, hj, rfl⟩ := Finset.mem_image.mp hi
    exact (occursAt_append_iff front).mpr (h.occursAt j hj)
  add_length_le i hi j hj hlt := by
    obtain ⟨k, hk, rfl⟩ := Finset.mem_image.mp hi
    obtain ⟨m, hm, rfl⟩ := Finset.mem_image.mp hj
    have := h.add_length_le k hk m hm (by omega)
    omega

/-- The token itself in front is one occurrence more. -/
lemma Apart.insert_zero (h : Apart token bs s) :
    Apart token (token ++ bs) (insert 0 (s.image (token.length + ·))) where
  occursAt i hi := by
    obtain rfl | hi := Finset.mem_insert.mp hi
    · exact occursAt_zero_iff.mpr (List.prefix_append token bs)
    · exact (h.append token).occursAt i hi
  add_length_le i hi j hj hlt := by
    obtain rfl | hj := Finset.mem_insert.mp hj
    · exact absurd hlt (Nat.not_lt_zero i)
    · obtain rfl | hi := Finset.mem_insert.mp hi
      · obtain ⟨k, -, rfl⟩ := Finset.mem_image.mp hj
        omega
      · exact (h.append token).add_length_le i hi j hj hlt

/-- The occurrences that do not begin in the first bytes are those of the other bytes, moved. -/
lemma Apart.exists_behind (front : List UInt8) (h : Apart token (front ++ bs) s) :
    ∃ t, Apart token bs t ∧ s.card = t.card + (s.filter (· < front.length)).card := by
  -- written as a sum, an offset behind the front can be moved without subtraction
  have hmem : ∀ i ∈ s.filter (¬· < front.length), ∃ j, i = front.length + j ∧ i ∈ s := by
    intro i hi
    rw [Finset.mem_filter] at hi
    exact ⟨i - front.length, by omega, hi.1⟩
  refine ⟨(s.filter (¬· < front.length)).image (· - front.length), ⟨?_, ?_⟩, ?_⟩
  · intro i hi
    obtain ⟨j, hj, rfl⟩ := Finset.mem_image.mp hi
    obtain ⟨k, rfl, hk⟩ := hmem j hj
    rw [Nat.add_sub_cancel_left]
    exact (occursAt_append_iff front).mp (h.occursAt _ hk)
  · intro i hi j hj hlt
    obtain ⟨i', hi', rfl⟩ := Finset.mem_image.mp hi
    obtain ⟨j', hj', rfl⟩ := Finset.mem_image.mp hj
    obtain ⟨k, rfl, hk⟩ := hmem i' hi'
    obtain ⟨m, rfl, hm⟩ := hmem j' hj'
    have := h.add_length_le _ hk _ hm (by omega)
    omega
  · have hinj : Set.InjOn (· - front.length) (s.filter (¬· < front.length) : Set Nat) := by
      intro i hi j hj heq
      obtain ⟨k, rfl, -⟩ := hmem i hi
      obtain ⟨m, rfl, -⟩ := hmem j hj
      simpa only [Nat.add_sub_cancel_left, Nat.add_left_cancel_iff] using heq
    rw [Finset.card_image_of_injOn hinj, Nat.add_comm, Finset.card_filter_add_card_filter_not]

end

/-! ### Taking occurrences from the left -/

section

variable {token : List UInt8} (htoken : token ≠ [])

include htoken

/-- An occurrence that is come to is counted, and passed over as a whole. -/
lemma countFrom_append_self (rest : List UInt8) :
    countFrom token 0 (token ++ rest) = countFrom token 0 rest + 1 := by
  have hprefix : token.isPrefixOf (token ++ rest) = true :=
    List.isPrefixOf_iff_prefix.mpr (List.prefix_append token rest)
  obtain ⟨b, bs, rfl⟩ := List.exists_cons_of_ne_nil htoken
  rw [List.cons_append] at hprefix ⊢
  rw [countFrom, if_pos hprefix, List.length_cons, Nat.add_sub_cancel, countFrom_eq_drop,
    List.drop_left]

omit htoken in
/-- Otherwise a single byte is passed over. -/
lemma countFrom_cons_of_not_isPrefix {b : UInt8} {bs : List UInt8} (h : ¬token <+: b :: bs) :
    countFrom token 0 (b :: bs) = countFrom token 0 bs := by
  rw [countFrom, if_neg fun hprefix => h (List.isPrefixOf_iff_prefix.mp hprefix)]

/-- Going from the left, either an occurrence is taken or a byte is passed over. -/
@[elab_as_elim]
theorem occurrence_induction {motive : List UInt8 → Prop} (nil : motive [])
    (taken : ∀ rest, motive rest → motive (token ++ rest))
    (passed : ∀ b rest, ¬token <+: b :: rest → motive rest → motive (b :: rest))
    (bs : List UInt8) : motive bs := by
  match bs with
  | [] => exact nil
  | b :: bs =>
    by_cases h : token <+: b :: bs
    · obtain ⟨rest, hrest⟩ := h
      have hlt : rest.length < (b :: bs).length := by
        have := List.length_pos_iff.mpr htoken
        rw [← hrest, List.length_append]
        omega
      rw [← hrest]
      exact taken rest (occurrence_induction nil taken passed rest)
    · exact passed b bs h (occurrence_induction nil taken passed bs)
termination_by bs.length
decreasing_by
  · exact hlt
  · exact Nat.lt_succ_self bs.length

/-- As many occurrences as are counted can be chosen without overlap. -/
lemma exists_apart_card_eq (bs : List UInt8) :
    ∃ s, Apart token bs s ∧ s.card = countFrom token 0 bs := by
  have hcard (front : List UInt8) (s : Finset Nat) :
      (s.image (front.length + ·)).card = s.card :=
    Finset.card_image_of_injective s fun i j h => Nat.add_left_cancel h
  induction bs using occurrence_induction htoken with
  | nil => exact ⟨∅, apart_empty, rfl⟩
  | taken rest ih =>
    obtain ⟨s, hs, hcount⟩ := ih
    have hpos := List.length_pos_iff.mpr htoken
    have hzero : 0 ∉ s.image (token.length + ·) := by
      intro hmem
      obtain ⟨i, -, hi⟩ := Finset.mem_image.mp hmem
      omega
    refine ⟨_, hs.insert_zero, ?_⟩
    rw [Finset.card_insert_of_notMem hzero, hcard, hcount, countFrom_append_self htoken]
  | passed b rest hb ih =>
    obtain ⟨s, hs, hcount⟩ := ih
    refine ⟨_, hs.append [b], ?_⟩
    rw [hcard, hcount, countFrom_cons_of_not_isPrefix hb]

/-- No choice of occurrences without overlap has more of them than are counted. -/
lemma Apart.card_le_countFrom {bs : List UInt8} {s : Finset Nat} (h : Apart token bs s) :
    s.card ≤ countFrom token 0 bs := by
  induction bs using occurrence_induction htoken generalizing s with
  | nil =>
    have hs : s = ∅ :=
      Finset.eq_empty_of_forall_notMem fun i hi => not_occursAt_nil htoken (h.occursAt i hi)
    rw [hs, Finset.card_empty]
    exact Nat.zero_le _
  | taken rest ih =>
    obtain ⟨t, ht, hcard⟩ := h.exists_behind token
    -- two occurrences that begin in the one that is taken would overlap
    have hone : (s.filter (· < token.length)).card ≤ 1 := by
      rw [Finset.card_le_one]
      intro i hi j hj
      rw [Finset.mem_filter] at hi hj
      rcases Nat.lt_trichotomy i j with hlt | heq | hgt
      · have := h.add_length_le i hi.1 j hj.1 hlt
        omega
      · exact heq
      · have := h.add_length_le j hj.1 i hi.1 hgt
        omega
    have hle := ih ht
    rw [countFrom_append_self htoken]
    omega
  | passed b rest hb ih =>
    obtain ⟨t, ht, hcard⟩ := Apart.exists_behind [b] h
    have hnone : (s.filter (· < [b].length)).card = 0 := by
      rw [Finset.card_eq_zero, Finset.filter_eq_empty_iff]
      intro i hi hlt
      obtain rfl : i = 0 := by simpa using hlt
      exact hb (occursAt_zero_iff.mp (h.occursAt 0 hi))
    have hle := ih ht
    rw [countFrom_cons_of_not_isPrefix hb]
    omega

/-- The largest number of occurrences without overlap is counted. -/
lemma isGreatest_countFrom (bs : List UInt8) :
    IsGreatest {n | ∃ s, Apart token bs s ∧ s.card = n} (countFrom token 0 bs) := by
  refine ⟨exists_apart_card_eq htoken bs, ?_⟩
  rintro n ⟨s, hs, rfl⟩
  exact hs.card_le_countFrom htoken

lemma countFrom_eq_zero_iff {bs : List UInt8} :
    countFrom token 0 bs = 0 ↔ ∀ i, ¬OccursAt token bs i := by
  constructor
  · intro hzero i hi
    have hle := (apart_singleton hi).card_le_countFrom htoken
    rw [Finset.card_singleton] at hle
    omega
  · intro h
    obtain ⟨s, hs, hcard⟩ := exists_apart_card_eq htoken bs
    rw [← hcard, Finset.card_eq_zero]
    exact Finset.eq_empty_of_forall_notMem fun i hi => h i (hs.occursAt i hi)

end

/-! ### The search -/

lemma utf8_ne_nil {cs : List Char} (h : cs ≠ []) : utf8 cs ≠ [] := by
  obtain ⟨c, cs, rfl⟩ := List.exists_cons_of_ne_nil h
  rw [utf8_cons]
  exact List.append_ne_nil_of_left_ne_nil String.utf8EncodeChar_ne_nil _

/-- A token is found at the least byte offset at which its bytes stand in the text, and is not found
exactly if they stand nowhere. What is counted is the largest number of occurrences of which no two
overlap, so that it is zero exactly if the token is not found. The empty token is found at the
start, and counted once more often than there are characters. -/
theorem search_meets_occurrences (text token : List Char) :
    (∀ i, findToken? text token = some i ↔ IsLeast {j | OccursAt (utf8 token) (utf8 text) j} i) ∧
    (findToken? text token = none ↔ ∀ i, ¬OccursAt (utf8 token) (utf8 text) i) ∧
    (token ≠ [] →
      IsGreatest {n | ∃ s, Apart (utf8 token) (utf8 text) s ∧ s.card = n} (countToken text token) ∧
      (countToken text token = 0 ↔ findToken? text token = none)) ∧
    findToken? text [] = some 0 ∧ countToken text [] = text.length + 1 := by
  refine ⟨fun i => firstAt?_eq_some_iff, firstAt?_eq_none_iff, fun h => ?_, findToken?_nil text,
    countToken_nil text⟩
  have htoken := utf8_ne_nil h
  rw [countToken, if_neg h, findToken?, firstAt?_eq_none_iff]
  exact ⟨isGreatest_countFrom htoken _, countFrom_eq_zero_iff htoken⟩

/-- Behind a character of two bytes, a token that overlaps itself stands at three offsets, and the
first and the last of these occurrences do not overlap. -/
theorem search_meets_occurrences_of_overlap :
    "aba".toList ≠ [] ∧
      IsLeast {j | OccursAt (utf8 "aba".toList) (utf8 "éabababa".toList) j} 2 ∧
      IsGreatest
        {n | ∃ s, Apart (utf8 "aba".toList) (utf8 "éabababa".toList) s ∧ s.card = n} 2 := by
  obtain ⟨hfirst, -, hcount, -⟩ := search_meets_occurrences "éabababa".toList "aba".toList
  have hne : "aba".toList ≠ [] := by decide
  have hfind : findToken? "éabababa".toList "aba".toList = some 2 := by decide +kernel
  have htwo : countToken "éabababa".toList "aba".toList = 2 := by decide +kernel
  exact ⟨hne, (hfirst 2).mp hfind, htwo ▸ (hcount hne).1⟩

end SiteNav
