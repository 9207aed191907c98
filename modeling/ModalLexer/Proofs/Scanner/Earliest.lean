import ModalLexer.Proofs.Text.Bytes

/-! # The earliest end

Strings and comments end at the first place in their bytes that closes them. Most searches look at
one offset after the other. The search for three quotes goes on to the third offset behind a byte
that is not a quote, and jumps over no delimiter.
-/

namespace ModalLexer

/-- The first offset with the property `P`, or the end if there is none before it. -/
structure FirstAt (P : Nat → Prop) (size n : Nat) : Prop where
  le : n ≤ size
  none_before : ∀ m < n, ¬ P m
  here : n < size → P n

theorem FirstAt.unique {P : Nat → Prop} {size n m : Nat} (hn : FirstAt P size n)
    (hm : FirstAt P size m) : n = m := by
  rcases Nat.lt_trichotomy n m with hlt | heq | hlt
  · exact absurd (hn.here (Nat.lt_of_lt_of_le hlt hm.le)) (hm.none_before n hlt)
  · exact heq
  · exact absurd (hm.here (Nat.lt_of_lt_of_le hlt hn.le)) (hn.none_before m hlt)

/-- A search in a list finds the first offset, where the places in the list stand for the offsets
from `base` on. -/
theorem firstAt_findIdx? {α : Type} {l : List α} {p : α → Bool} {P : Nat → Prop} {base size : Nat}
    (hP : ∀ n ≤ size, P n ↔ ∃ j, ∃ h : j < l.length, n = base + j ∧ p l[j] = true)
    (hsize : ∀ j < l.length, base + j ≤ size) :
    FirstAt P size ((l.findIdx? p).elim size (base + ·)) := by
  cases hfind : l.findIdx? p with
  | none =>
    rw [List.findIdx?_eq_none_iff] at hfind
    refine ⟨Nat.le_refl _, fun m hm hPm => ?_, fun h => absurd h (Nat.lt_irrefl _)⟩
    obtain ⟨j, hj, -, hp⟩ := (hP m (Nat.le_of_lt hm)).1 hPm
    rw [hfind _ (List.getElem_mem hj)] at hp
    cases hp
  | some j =>
    obtain ⟨hj, hp, hbefore⟩ := List.findIdx?_eq_some_iff_getElem.1 hfind
    have hle := hsize j hj
    show FirstAt P size (base + j)
    refine ⟨hle, fun m hm hPm => ?_, fun _ => (hP _ hle).2 ⟨j, hj, rfl, hp⟩⟩
    obtain ⟨k, hk, rfl, hpk⟩ := (hP m (by omega)).1 hPm
    exact hbefore k (by omega) hpk

namespace Bytes

variable {b w : Bytes} {c d : UInt8} {i n least : Nat}

/-- The first `n` bytes are no fewer than `least`, and `w` is at their end. -/
def Closes (least : Nat) (w b : Bytes) (n : Nat) : Prop := least ≤ n ∧ w <:+ b.take n

theorem concat_suffix_take_iff (hn : n < b.length) :
    w ++ [c] <:+ b.take (n + 1) ↔ b[n]? = some c ∧ w <:+ b.take n := by
  rw [List.take_add_one, List.getElem?_eq_getElem hn, Option.toList_some, List.suffix_concat_iff]
  constructor
  · rintro (hnil | ⟨t, ht, hsuffix⟩)
    · simp at hnil
    · obtain ⟨rfl, heq⟩ := List.append_inj' ht rfl
      exact ⟨by simpa using heq.symm, hsuffix⟩
  · rintro ⟨hc, hsuffix⟩
    exact .inr ⟨w, by simpa using hc.symm, hsuffix⟩

theorem look_eq (h : i < b.length) : b.look i = .ok b[i] := by
  simp [look, h]

theorem lookBack_eq (hn : n ≤ i) (h : i < b.length) : b.lookBack i n = .ok b[i - n] := by
  rw [lookBack, if_pos hn, look_eq]

theorem slice_eq (h : i ≤ b.length) : b.slice i = .ok (b.drop i) := if_pos h

theorem closes_one_iff (hn : n < b.length) :
    Closes least [c] b (n + 1) ↔ least ≤ n + 1 ∧ b[n]? = some c := by
  have hword : [c] = [] ++ [c] := rfl
  rw [Closes, hword, concat_suffix_take_iff hn]
  simp

theorem closes_two_iff (hn : n + 1 < b.length) :
    Closes least [c, d] b (n + 2) ↔ least ≤ n + 2 ∧ b[n + 1]? = some d ∧ b[n]? = some c := by
  have hword : [c, d] = [] ++ [c] ++ [d] := rfl
  rw [Closes, hword, concat_suffix_take_iff hn, concat_suffix_take_iff (Nat.lt_of_succ_lt hn)]
  simp

/-- The places of a byte behind `start`. -/
theorem exists_drop_iff {start : Nat} :
    (∃ j, ∃ h : j < (b.drop start).length, i = start + j ∧ decide ((b.drop start)[j] = c) = true) ↔
      start ≤ i ∧ b[i]? = some c := by
  constructor
  · rintro ⟨j, hj, rfl, hc⟩
    rw [List.length_drop] at hj
    rw [List.getElem_drop] at hc
    exact ⟨by omega, List.getElem?_eq_some_iff.2 ⟨by omega, of_decide_eq_true hc⟩⟩
  · rintro ⟨hle, hget⟩
    obtain ⟨hlt, rfl⟩ := List.getElem?_eq_some_iff.1 hget
    have hsame : start + (i - start) = i := by omega
    refine ⟨i - start, by rw [List.length_drop]; omega, hsame.symm, ?_⟩
    simp [List.getElem_drop, hsame]

/-- The text up to a line feed behind the opener. -/
theorem lineEnd_firstAt (opener : Nat) (b : Bytes) : ∃ n, lineEnd opener b = .ok n ∧
    FirstAt (fun i => opener ≤ i ∧ b[i]? = some '\n'.toUInt8) b.length n := by
  have hstart : min opener b.length ≤ b.length := Nat.min_le_right _ _
  refine ⟨_, by rw [lineEnd, slice_eq hstart]; rfl, firstAt_findIdx? (fun n hn => ?_) ?_⟩
  · refine Iff.trans ?_ exists_drop_iff.symm
    constructor
    · exact fun ⟨hle, hget⟩ => ⟨by omega, hget⟩
    · rintro ⟨hle, hget⟩
      obtain ⟨hlt, -⟩ := List.getElem?_eq_some_iff.1 hget
      exact ⟨by omega, hget⟩
  · intro j hj
    rw [List.length_drop] at hj
    omega

/-- The text up to a back-tick behind the first byte. -/
theorem backTickEnd_firstAt (b : Bytes) : ∃ n, backTickEnd b = .ok n ∧
    FirstAt (Closes 2 ['\x60'.toUInt8] b) b.length n := by
  have hstart : min 1 b.length ≤ b.length := Nat.min_le_right _ _
  refine ⟨_, by rw [backTickEnd, slice_eq hstart]; rfl, firstAt_findIdx? (fun n hn => ?_) ?_⟩
  · cases n with
    | zero => simp [Closes]; omega
    | succ n =>
      have hone : min 1 b.length = 1 := by omega
      rw [closes_one_iff hn, hone]
      constructor
      · rintro ⟨hleast, hget⟩
        obtain ⟨j, hj, rfl, hc⟩ := exists_drop_iff.2 ⟨show 1 ≤ n by omega, hget⟩
        exact ⟨j, hj, by omega, hc⟩
      · rintro ⟨j, hj, heq, hc⟩
        have hget := exists_drop_iff.1 ⟨j, hj, show n = 1 + j by omega, hc⟩
        exact ⟨by omega, hget.2⟩
  · intro j hj
    rw [List.length_drop] at hj
    omega

/-- The text up to a star and a slash behind the first two bytes. -/
theorem starSlashEnd_firstAt (b : Bytes) : ∃ n, starSlashEnd b = .ok n ∧
    FirstAt (Closes 4 ['*'.toUInt8, '/'.toUInt8] b) b.length n := by
  have hstart : min 2 b.length ≤ b.length := Nat.min_le_right _ _
  refine ⟨_, by rw [starSlashEnd, slice_eq hstart]; rfl, firstAt_findIdx? (fun n hn => ?_) ?_⟩
  · by_cases hshort : n < 2
    · simp only [Closes]
      omega
    · obtain ⟨n, rfl⟩ := Nat.exists_eq_add_of_le' (Nat.not_lt.1 hshort)
      have htwo : min 2 b.length = 2 := by omega
      rw [closes_two_iff hn, htwo]
      constructor
      · rintro ⟨hleast, hslash, hstar⟩
        obtain ⟨k, rfl⟩ := Nat.exists_eq_add_of_le (show 2 ≤ n by omega)
        obtain ⟨_, hslash⟩ := List.getElem?_eq_some_iff.1 hslash
        obtain ⟨_, hstar⟩ := List.getElem?_eq_some_iff.1 hstar
        refine ⟨k, by simp; omega, by omega, ?_⟩
        simp only [List.getElem_zip, List.getElem_tail, List.getElem_drop, decide_eq_true_eq]
        exact Prod.ext hstar hslash
      · rintro ⟨j, hj, heq, hc⟩
        obtain rfl : n = 2 + j := by omega
        simp only [List.getElem_zip, List.getElem_tail, List.getElem_drop, decide_eq_true_eq,
          Prod.mk.injEq] at hc
        exact ⟨by omega, List.getElem?_eq_some_iff.2 ⟨_, hc.2⟩,
          List.getElem?_eq_some_iff.2 ⟨_, hc.1⟩⟩
  · intro j hj
    simp only [List.length_zip, List.length_tail, List.length_drop] at hj
    omega

theorem tripleQuoteEnd_eq (h : 2 ≤ i) (hi : i < b.length) :
    tripleQuoteEnd b i =
      if b[i] = '"'.toUInt8 then
        if b[i - 1] = '"'.toUInt8 ∧ b[i - 2] = '"'.toUInt8 then .ok (i + 1)
        else tripleQuoteEnd b (i + 1)
      else tripleQuoteEnd b (i + 3) := by
  rw [tripleQuoteEnd, if_pos hi, look_eq hi, lookBack_eq (n := 1) (by omega) hi, lookBack_eq h hi]
  simp only [bind, Except.bind, pure, Except.pure, Except.map]
  split
  · by_cases hfirst : b[i - 1] = '"'.toUInt8 <;> by_cases hsecond : b[i - 2] = '"'.toUInt8 <;>
      simp [hfirst, hsecond]
  · rfl

abbrev tripleQuote : Bytes := ['"'.toUInt8, '"'.toUInt8, '"'.toUInt8]

theorem closes_tripleQuote_iff (hn : n + 2 < b.length) :
    Closes 6 tripleQuote b (n + 3) ↔
      3 ≤ n ∧ ∀ j, n ≤ j → j < n + 3 → b[j]? = some '"'.toUInt8 := by
  have hword : tripleQuote = [] ++ ['"'.toUInt8] ++ ['"'.toUInt8] ++ ['"'.toUInt8] := rfl
  rw [Closes, hword, concat_suffix_take_iff hn, concat_suffix_take_iff (Nat.lt_of_succ_lt hn),
    concat_suffix_take_iff (by omega)]
  constructor
  · rintro ⟨hleast, hlast, hsecond, hfirst, -⟩
    refine ⟨by omega, fun j hle hlt => ?_⟩
    obtain rfl | rfl | rfl : j = n ∨ j = n + 1 ∨ j = n + 2 := by omega
    · exact hfirst
    · exact hsecond
    · exact hlast
  · rintro ⟨hleast, hall⟩
    exact ⟨by omega, hall _ (by omega) (by omega), hall _ (by omega) (by omega),
      hall _ (by omega) (by omega), List.nil_suffix⟩

/-- The search looks at the last byte of a place for the delimiter, and none ends before. If the
byte is not a quote, no delimiter takes one of the three places that hold the byte. -/
theorem tripleQuoteEnd_firstAt (hi : 5 ≤ i)
    (hnone : ∀ m ≤ i, m ≤ b.length → ¬ Closes 6 tripleQuote b m) :
    ∃ n, tripleQuoteEnd b i = .ok n ∧ FirstAt (Closes 6 tripleQuote b) b.length n := by
  induction hrest : b.length - i using Nat.strongRecOn generalizing i with
  | ind rest ih =>
    have hquotes : ∀ m ≤ b.length, Closes 6 tripleQuote b m →
        ∀ j, m ≤ j + 3 → j < m → b[j]? = some '"'.toUInt8 := by
      intro m hm hclosed j hle hlt
      obtain ⟨n, rfl⟩ := Nat.exists_eq_add_of_le' (show 3 ≤ m by have := hclosed.1; omega)
      exact ((closes_tripleQuote_iff hm).1 hclosed).2 j (by omega) hlt
    by_cases hlt : i < b.length
    · obtain ⟨n, rfl⟩ := Nat.exists_eq_add_of_le' (show 2 ≤ i by omega)
      rw [tripleQuoteEnd_eq (by omega) hlt]
      split
      · next hlast =>
        split
        · next hfirst =>
          refine ⟨n + 3, rfl, hlt, fun m hm => hnone m (by omega) (by omega), fun _ => ?_⟩
          refine (closes_tripleQuote_iff hlt).2 ⟨by omega, fun j hle hlt => ?_⟩
          obtain rfl | rfl | rfl : j = n ∨ j = n + 1 ∨ j = n + 2 := by omega
          · exact List.getElem?_eq_some_iff.2 ⟨_, hfirst.2⟩
          · exact List.getElem?_eq_some_iff.2 ⟨_, hfirst.1⟩
          · exact List.getElem?_eq_some_iff.2 ⟨_, hlast⟩
        · next hfirst =>
          refine ih _ (by omega) (by omega) (fun m hm hle hclosed => ?_) rfl
          rcases Nat.lt_or_eq_of_le hm with hm | rfl
          · exact hnone m (by omega) hle hclosed
          · have hall := hquotes _ hle hclosed
            have hsecond := hall (n + 1) (by omega) (by omega)
            have hthird := hall n (by omega) (by omega)
            exact hfirst ⟨(List.getElem?_eq_some_iff.1 hsecond).2,
              (List.getElem?_eq_some_iff.1 hthird).2⟩
      · next hlast =>
        refine ih _ (by omega) (by omega) (fun m hm hle hclosed => ?_) rfl
        by_cases hbefore : m ≤ n + 2
        · exact hnone m hbefore hle hclosed
        · have hquote := hquotes m hle hclosed (n + 2) (by omega) (by omega)
          exact hlast (List.getElem?_eq_some_iff.1 hquote).2
    · refine ⟨b.length, by rw [tripleQuoteEnd, if_neg hlt]; rfl, Nat.le_refl _, ?_, ?_⟩
      · exact fun m hm => hnone m (by omega) (by omega)
      · exact fun h => absurd h (Nat.lt_irrefl _)

variable {quote : Char}

theorem quotedEnd_eq (h : 1 ≤ i) (hi : i < b.length) :
    quotedEnd quote b i =
      if b[i] = quote.toUInt8 ∧ b[i - 1] ≠ '\\'.toUInt8 then .ok (i + 1)
      else if b[i] = '\n'.toUInt8 then .ok i
      else quotedEnd quote b (i + 1) := by
  rw [quotedEnd, if_pos hi, look_eq hi, lookBack_eq h hi]
  simp only [bind, Except.bind, pure, Except.pure, Except.map]
  by_cases hquote : b[i] = quote.toUInt8
  · by_cases hescape : b[i - 1] = '\\'.toUInt8 <;> simp [hquote, hescape]
  · simp [hquote]

/-- The offset holds a quote that does not follow a backslash, or a line feed. -/
def EndsQuoted (quote : Char) (b : Bytes) (i : Nat) : Prop :=
  1 ≤ i ∧ (b[i]? = some quote.toUInt8 ∧ b[i - 1]? ≠ some '\\'.toUInt8 ∨
    b[i]? = some '\n'.toUInt8)

/-- A quote belongs to the string, a line feed does not. -/
theorem quotedEnd_firstAt (hquote : quote.toUInt8 ≠ '\n'.toUInt8) (hi : 1 ≤ i)
    (hnone : ∀ m < i, m < b.length → ¬ EndsQuoted quote b m) :
    ∃ n, FirstAt (EndsQuoted quote b) b.length n ∧
      quotedEnd quote b i = .ok (if b[n]? = some quote.toUInt8 then n + 1 else n) := by
  induction hrest : b.length - i using Nat.strongRecOn generalizing i with
  | ind rest ih =>
    by_cases hlt : i < b.length
    · rw [quotedEnd_eq hi hlt]
      have hbefore : b[i - 1]? = some b[i - 1] := List.getElem?_eq_getElem (by omega)
      have hfirst : EndsQuoted quote b i → FirstAt (EndsQuoted quote b) b.length i := fun h =>
        ⟨Nat.le_of_lt hlt, fun m hm => hnone m hm (by omega), fun _ => h⟩
      split
      · next hclose =>
        refine ⟨i, hfirst ⟨hi, .inl ?_⟩, by simp [hlt, hclose.1]⟩
        simpa [hlt, hbefore] using hclose
      · next hclose =>
        split
        · next hline =>
          exact ⟨i, hfirst ⟨hi, .inr (by simp [hlt, hline])⟩, by simp [hlt, hline, hquote.symm]⟩
        · next hline =>
          refine ih _ (by omega) (by omega) (fun m hm hle hends => ?_) rfl
          rcases Nat.lt_or_eq_of_le (Nat.le_of_lt_succ hm) with hm | rfl
          · exact hnone m hm hle hends
          · rcases hends.2 with hends | hends
            · exact hclose (by simpa [hlt, hbefore] using hends)
            · exact hline (by simpa [hlt] using hends)
    · refine ⟨b.length, ⟨Nat.le_refl _, ?_, fun h => absurd h (Nat.lt_irrefl _)⟩, ?_⟩
      · exact fun m hm => hnone m (by omega) hm
      · rw [quotedEnd, if_neg hlt, if_neg (by simp)]
        rfl

end Bytes

end ModalLexer
