import ModalLexer.Proofs.Scanner.Earliest
import ModalLexer.Proofs.Scanner.Extent

/-! # Scanning by offsets

A scan through the bytes of a text ends at the offset behind the characters that the scanner takes.
For strings and comments both are the first offset at which something closes them; a run goes on for
as long as the bytes are of its class.
-/

namespace ModalLexer

namespace Text

open Bytes (Closes EndsQuoted)

variable {c d quote before : Char} {k n : Nat} {t u v w head tail opener behind : Text}
variable {split : Text → Text × Text} {p : UInt8 → Bool} {q : Char → Bool}

/-- A split behind the first `w`, or at the end if there is none. -/
structure Through (w head tail : Text) : Prop where
  first : ∀ u v, head ++ tail = u ++ w ++ v → head.byteSize ≤ (u ++ w).byteSize
  ends : tail ≠ [] → w <:+ head

theorem through_self (w tail : Text) : Through w w tail :=
  ⟨fun u v _ => by simp, fun _ => List.suffix_rfl⟩

theorem through_end (h : ¬ w <:+: head) : Through w head [] := by
  refine ⟨fun u v heq => absurd ⟨u, v, ?_⟩ h, fun hne => absurd rfl hne⟩
  rw [← heq, List.append_nil]

theorem Through.cons (h : Through w head tail) (hw : ¬ w <+: c :: (head ++ tail)) :
    Through w (c :: head) tail := by
  refine ⟨fun u v heq => ?_, fun hne => ?_⟩
  · cases u with
    | nil => exact absurd ⟨v, heq.symm⟩ hw
    | cons d u =>
      simp only [List.cons_append, List.cons.injEq] at heq
      obtain ⟨rfl, heq⟩ := heq
      simpa using h.first u v heq
  · exact (h.ends hne).trans (List.suffix_cons c head)

theorem through_splitThrough (stop : Char) (t : Text) :
    Through [stop] (splitThrough stop t).1 (splitThrough stop t).2 := by
  fun_induction splitThrough stop t with
  | case1 => exact through_end (by simp)
  | case2 t => exact through_self [stop] t
  | case3 c t hc body rest heq ih =>
    rw [heq] at ih
    exact ih.cons (by simpa using Ne.symm hc)

theorem through_splitThroughStarSlash (t : Text) :
    Through ['*', '/'] (splitThroughStarSlash t).1 (splitThroughStarSlash t).2 := by
  fun_induction splitThroughStarSlash t with
  | case1 => exact through_end (by simp)
  | case2 c => exact through_end fun h => absurd h.length_le (by simp)
  | case3 c d t hclose =>
    obtain ⟨rfl, rfl⟩ := hclose
    exact through_self _ t
  | case4 c d t hclose body rest heq ih =>
    have hbehind := splitThroughStarSlash_append (d :: t)
    rw [heq] at ih hbehind
    refine ih.cons fun hfront => hclose ?_
    rw [show body ++ rest = d :: t from hbehind] at hfront
    simpa [eq_comm] using hfront

theorem through_splitThroughTripleQuote (t : Text) :
    Through ['"', '"', '"'] (splitThroughTripleQuote t).1 (splitThroughTripleQuote t).2 := by
  fun_induction splitThroughTripleQuote t with
  | case1 a b c t hc body rest heq ih =>
    rw [heq] at ih
    have hquote : '"' ≠ c := Ne.symm hc
    -- Each of the three delimiters that are ruled out would hold `c`.
    have hthird : Through ['"', '"', '"'] (c :: body) rest := ih.cons (by simp [hquote])
    have hsecond : Through ['"', '"', '"'] (b :: c :: body) rest := hthird.cons (by simp [hquote])
    exact hsecond.cons (by simp [hquote])
  | case2 a b c t hc hclose =>
    obtain ⟨rfl, rfl⟩ := hclose
    obtain rfl := Decidable.not_not.1 hc
    exact through_self _ t
  | case3 a b c t hc hclose body rest heq ih =>
    have hbehind := splitThroughTripleQuote_append (b :: c :: t)
    rw [heq] at ih hbehind
    refine ih.cons fun hfront => hclose ?_
    rw [show body ++ rest = b :: c :: t from hbehind] at hfront
    simp only [List.cons_prefix_cons] at hfront
    exact ⟨hfront.1.symm, hfront.2.1.symm⟩
  | case4 t hshort =>
    refine through_end fun h => ?_
    have hlength : 3 ≤ t.length := h.length_le
    obtain _ | ⟨a, _ | ⟨b, _ | ⟨c, t⟩⟩⟩ := t
    · simp at hlength
    · simp at hlength
    · simp at hlength
    · exact hshort a b c t rfl

theorem append_of_splitCovering (hcover : splitCovering k t = (opener, head ++ tail)) :
    opener ++ head ++ tail = t := by
  have happend := splitCovering_append (n := k) (t := t)
  rwa [hcover, ← List.append_assoc] at happend

/-- What is behind the opener begins at offset `k` or later, unless the opener is the whole text. -/
theorem le_byteSize_opener (hcover : splitCovering k t = (opener, head ++ tail)) (hne : tail ≠ []) :
    k ≤ opener.byteSize := by
  have hle := le_byteSize_splitCovering k t
  have hpos := byteSize_pos hne
  rw [hcover, ← append_of_splitCovering hcover] at hle
  simp only [byteSize_append] at hle
  omega

theorem Through.firstAt (h : Through w head tail) (hw : ∀ c ∈ w, IsAscii c) (hne : w ≠ [])
    (hcover : splitCovering k t = (opener, head ++ tail)) :
    FirstAt (Closes (k + w.byteSize) (bytes w) (bytes t)) t.byteSize
      (opener ++ head).byteSize := by
  have ht := append_of_splitCovering hcover
  have hsize : t.byteSize = (opener ++ head).byteSize + tail.byteSize := by
    rw [← ht, byteSize_append]
  refine ⟨by omega, fun m hm ⟨hleast, hsuffix⟩ => ?_, fun hlt => ?_⟩
  · obtain ⟨u, v, hsplit, rfl⟩ := (suffix_take_iff hw hne (by omega)).1 hsuffix
    rw [List.append_assoc] at hsplit
    rw [byteSize_append] at hleast
    obtain ⟨u, rfl, hbehind⟩ := splitCovering_of_le hsplit (show k ≤ u.byteSize by omega)
    simp only [hcover] at hm hbehind
    have hfirst := h.first u v (by rw [hbehind, List.append_assoc])
    simp only [byteSize_append] at hm hfirst
    omega
  · have htail : tail ≠ [] := by
      rintro rfl
      exact absurd hlt (by rw [hsize]; exact Nat.lt_irrefl _)
    have hopener := le_byteSize_opener hcover htail
    obtain ⟨body, rfl⟩ := h.ends htail
    refine ⟨by simp only [byteSize_append]; omega, (suffix_take_iff hw hne (by omega)).2 ?_⟩
    exact ⟨opener ++ body, tail, by simp [← ht], by simp⟩

theorem firstAt_splitBehindOpener (hw : ∀ c ∈ w, IsAscii c) (hne : w ≠ [])
    (happend : ∀ t, (split t).1 ++ (split t).2 = t)
    (hsplit : ∀ t, Through w (split t).1 (split t).2) :
    FirstAt (Closes (k + w.byteSize) (bytes w) (bytes t)) t.byteSize
      (splitBehindOpener k split t).1.byteSize :=
  (hsplit _).firstAt hw hne (by rw [happend])

theorem backTickString_eq (t : Text) :
    backTickString t = splitBehindOpener 1 (splitThrough '\x60') t := by
  cases t with
  | nil => rfl
  | cons c t =>
    have hpos := c.utf8Size_pos
    have hopener : splitCovering 1 (c :: t) = ([c], t) := by
      rw [splitCovering, show 0 + 1 - c.utf8Size = 0 by omega, splitCovering]
    simp [backTickString, splitBehindFirst, splitBehindOpener, hopener]

theorem IsRun.le_of_append (h : IsRun q head tail) (hc : q c = false)
    (heq : head ++ tail = u ++ c :: v) : head.byteSize ≤ u.byteSize := by
  obtain ⟨more, rfl, -⟩ | ⟨more, rfl, hmore⟩ := List.append_eq_append_iff.1 heq
  · simp
  · cases more with
    | nil => simp
    | cons d more =>
      obtain ⟨rfl, -⟩ := List.cons.inj hmore
      have hrun := h.1 c (by simp)
      rw [hc] at hrun
      cases hrun

theorem IsRun.firstAt_lineFeed (h : IsRun (· ≠ '\n') head tail)
    (hcover : splitCovering k t = (opener, head ++ tail)) :
    FirstAt (fun i => k ≤ i ∧ (bytes t)[i]? = some '\n'.toUInt8) t.byteSize
      (opener ++ head).byteSize := by
  have ht := append_of_splitCovering hcover
  have hsize : t.byteSize = (opener ++ head).byteSize + tail.byteSize := by
    rw [← ht, byteSize_append]
  refine ⟨by omega, fun m hm ⟨hleast, hget⟩ => ?_, fun hlt => ?_⟩
  · obtain ⟨u, v, hsplit, rfl⟩ := (getElem?_bytes_eq_some_iff (by decide)).1 hget
    obtain ⟨u, rfl, hbehind⟩ := splitCovering_of_le hsplit hleast
    simp only [hcover] at hm hbehind
    have hfirst := h.le_of_append (by decide) hbehind
    simp only [byteSize_append] at hm
    omega
  · cases tail with
    | nil => exact absurd hlt (by rw [hsize]; exact Nat.lt_irrefl _)
    | cons c tail =>
      have hopener := le_byteSize_opener hcover (List.cons_ne_nil c tail)
      obtain rfl : c = '\n' := by simpa using h.2 c rfl
      rw [byteSize_append]
      refine ⟨by omega, (getElem?_bytes_eq_some_iff (by decide)).2 ?_⟩
      exact ⟨opener ++ head, tail, ht.symm, byteSize_append⟩

theorem firstAt_backTickString (t : Text) :
    FirstAt (Closes 2 ['\x60'.toUInt8] (bytes t)) t.byteSize (backTickString t).1.byteSize := by
  rw [backTickString_eq]
  exact firstAt_splitBehindOpener (w := ['\x60']) (by simp [IsAscii]) (by decide)
    (splitThrough_append _) (through_splitThrough _)

theorem firstAt_starComment (t : Text) :
    FirstAt (Closes 4 ['*'.toUInt8, '/'.toUInt8] (bytes t)) t.byteSize
      (starComment t).1.byteSize :=
  firstAt_splitBehindOpener (by simp [IsAscii]) (by decide) splitThroughStarSlash_append
    through_splitThroughStarSlash

theorem firstAt_tripleQuotedString (t : Text) :
    FirstAt (Closes 6 Bytes.tripleQuote (bytes t)) t.byteSize
      (tripleQuotedString t).1.byteSize :=
  firstAt_splitBehindOpener (by simp [IsAscii]) (by decide) splitThroughTripleQuote_append
    through_splitThroughTripleQuote

theorem firstAt_lineComment (k : Nat) (t : Text) :
    FirstAt (fun i => k ≤ i ∧ (bytes t)[i]? = some '\n'.toUInt8) t.byteSize
      (lineComment k t).1.byteSize :=
  (isRun_splitWhile _ _).firstAt_lineFeed (by rw [splitWhile_append])

/-- Among the bytes of a character only the first can be an ASCII byte. -/
theorem eq_of_byteSize_between (h : u ++ c :: v = head ++ d :: tail)
    (hle : u.byteSize ≤ head.byteSize) (hlt : head.byteSize < u.byteSize + c.utf8Size) :
    u = head ∧ c = d ∧ v = tail := by
  obtain ⟨more, rfl, hmore⟩ | ⟨more, rfl, hmore⟩ := List.append_eq_append_iff.1 h
  · cases more with
    | nil =>
      obtain ⟨rfl, rfl⟩ := List.cons.inj hmore
      simp
    | cons e more =>
      obtain ⟨rfl, -⟩ := List.cons.inj hmore
      simp only [byteSize_append, byteSize_cons] at hlt
      omega
  · cases more with
    | nil =>
      obtain ⟨rfl, rfl⟩ := List.cons.inj hmore
      simp
    | cons e more =>
      have hpos := e.utf8Size_pos
      simp only [byteSize_append, byteSize_cons] at hle
      omega

theorem getElem?_bytes_iff_of_between (hd : IsAscii d) (hle : u.byteSize ≤ n)
    (hlt : n < u.byteSize + c.utf8Size) :
    (bytes (u ++ c :: v))[n]? = some d.toUInt8 ↔ n = u.byteSize ∧ c = d := by
  rw [getElem?_bytes_eq_some_iff hd]
  constructor
  · rintro ⟨x, y, heq, rfl⟩
    obtain ⟨rfl, rfl, -⟩ := eq_of_byteSize_between heq hle hlt
    exact ⟨rfl, rfl⟩
  · rintro ⟨rfl, rfl⟩
    exact ⟨u, v, rfl, rfl⟩

theorem getElem?_bytes_before_iff (hd : IsAscii d) :
    (bytes (u ++ c :: v))[(u ++ [c]).byteSize - 1]? = some d.toUInt8 ↔ c = d := by
  have hpos := c.utf8Size_pos
  simp only [byteSize_append, byteSize_cons, byteSize_nil, Nat.add_zero]
  rw [getElem?_bytes_iff_of_between hd (by omega) (by omega)]
  constructor
  · exact fun h => h.2
  · rintro rfl
    exact ⟨by rw [utf8Size_of_isAscii hd]; rfl, rfl⟩

theorem getElem?_bytes_behind_iff (hd : IsAscii d) :
    (bytes (u ++ before :: c :: v))[(u ++ [before]).byteSize]? = some d.toUInt8 ↔ c = d := by
  have hbehind := getElem?_bytes_iff_of_between (u := u ++ [before]) (v := v) hd (Nat.le_refl _)
    (Nat.lt_add_of_pos_right c.utf8Size_pos)
  rw [List.append_assoc] at hbehind
  exact hbehind.trans (and_iff_right rfl)

/-- What ends the string is at the first byte of the character. -/
theorem endsQuoted_behind_iff (hquote : IsAscii quote) :
    EndsQuoted quote (bytes (u ++ before :: c :: v)) (u ++ [before]).byteSize ↔
      c = quote ∧ before ≠ '\\' ∨ c = '\n' := by
  have hone := byteSize_pos (show u ++ [before] ≠ [] by simp)
  rw [EndsQuoted, getElem?_bytes_behind_iff hquote, getElem?_bytes_behind_iff (by decide),
    ne_eq, getElem?_bytes_before_iff (by decide)]
  exact and_iff_right hone

theorem not_endsQuoted_inside (hquote : IsAscii quote) (hlt : u.byteSize < n)
    (hn : n < (u ++ [c]).byteSize) : ¬ EndsQuoted quote (bytes (u ++ c :: v)) n := by
  have hinside {d : Char} (hd : IsAscii d) : (bytes (u ++ c :: v))[n]? ≠ some d.toUInt8 := by
    rw [byteSize_append, byteSize_cons, byteSize_nil] at hn
    rw [ne_eq, getElem?_bytes_iff_of_between hd (Nat.le_of_lt hlt) (by omega)]
    exact fun h => Nat.ne_of_gt hlt h.1
  rintro ⟨-, ⟨hget, -⟩ | hget⟩
  · exact hinside hquote hget
  · exact hinside (by decide) hget

theorem firstAt_splitQuoted (hquote : IsAscii quote) (hline : quote ≠ '\n')
    (hnone : ∀ m < (u ++ [before]).byteSize, ¬ EndsQuoted quote (bytes (u ++ before :: t)) m) :
    ∃ n, FirstAt (EndsQuoted quote (bytes (u ++ before :: t))) (u ++ before :: t).byteSize n ∧
      (u ++ [before]).byteSize + (splitQuoted quote before t).1.byteSize =
        if (bytes (u ++ before :: t))[n]? = some quote.toUInt8 then n + 1 else n := by
  fun_induction splitQuoted quote before t generalizing u with
  | case1 before =>
    refine ⟨(u ++ [before]).byteSize, ⟨Nat.le_refl _, hnone, ?_⟩, ?_⟩
    · exact fun h => absurd h (Nat.lt_irrefl _)
    · rw [List.getElem?_eq_none (Nat.le_of_eq length_bytes)]
      rfl
  | case2 before c t hc =>
    refine ⟨(u ++ [before]).byteSize, ⟨by simp, hnone, fun _ => ?_⟩, ?_⟩
    · exact (endsQuoted_behind_iff hquote).2 (.inl hc)
    · rw [if_pos ((getElem?_bytes_behind_iff hquote).2 hc.1), hc.1, byteSize_cons, byteSize_nil,
        utf8Size_of_isAscii hquote]
  | case3 before t =>
    refine ⟨(u ++ [before]).byteSize, ⟨by simp, hnone, fun _ => ?_⟩, ?_⟩
    · exact (endsQuoted_behind_iff hquote).2 (.inr rfl)
    · rw [if_neg (mt (getElem?_bytes_behind_iff hquote).1 hline.symm)]
      rfl
  | case4 before c t hclose hfeed body rest heq ih =>
    have hmore := @ih (u ++ [before]) (fun m hm => ?_)
    · simpa [heq, Nat.add_assoc] using hmore
    · rw [List.append_assoc]
      rcases Nat.lt_trichotomy m (u ++ [before]).byteSize with hlt | rfl | hgt
      · exact hnone m hlt
      · exact mt (endsQuoted_behind_iff hquote).1 (not_or.2 ⟨hclose, hfeed⟩)
      · have hinside := not_endsQuoted_inside (v := t) hquote hgt hm
        rwa [List.append_assoc] at hinside

theorem firstAt_quotedString (hquote : IsAscii quote) (hline : quote ≠ '\n') (t : Text) :
    ∃ n, FirstAt (EndsQuoted quote (bytes t)) t.byteSize n ∧ (quotedString quote t).1.byteSize =
      if (bytes t)[n]? = some quote.toUInt8 then n + 1 else n := by
  cases t with
  | nil =>
    refine ⟨0, ⟨Nat.le_refl _, fun m hm => absurd hm (Nat.not_lt_zero m), ?_⟩, rfl⟩
    exact fun h => absurd h (Nat.lt_irrefl _)
  | cons c t =>
    refine firstAt_splitQuoted (u := []) hquote hline fun m hm => ?_
    rcases Nat.eq_zero_or_pos m with rfl | hpos
    · exact fun h => absurd h.1 (by decide)
    · exact not_endsQuoted_inside (u := []) hquote hpos hm

theorem agree_isLineBreak : Agree Bytes.isLineBreak isLineBreak :=
  (agree_eq (by decide)).or (agree_eq (by decide))

theorem agree_isBlank : Agree Bytes.isBlank isBlank := by
  have hagree : Agree Bytes.isBlank fun c => c = '\x7f' || (c ≤ ' ' && !isLineBreak c) :=
    (agree_eq (c := '\x7f') (by decide)).or
      ((agree_le (c := ' ') (by decide)).and agree_isLineBreak.not)
  have hsame : isBlank = fun c => c = '\x7f' || (c ≤ ' ' && !isLineBreak c) := by
    funext c
    simp [isBlank, isLineBreak, Bool.and_assoc]
  rwa [hsame]

theorem agree_isDigit : Agree Bytes.isDigit Char.isDigit := agree_between (by decide) (by decide)

theorem agree_isLower : Agree (fun b => 'a'.toUInt8 ≤ b && b ≤ 'z'.toUInt8) Char.isLower :=
  agree_between (by decide) (by decide)

theorem agree_isUpper : Agree (fun b => 'A'.toUInt8 ≤ b && b ≤ 'Z'.toUInt8) Char.isUpper := by
  intro c b hb
  have hbetween := agree_between (c := 'A') (d := 'Z') (by decide) (by decide) c b hb
  exact hbetween.trans (Bool.decide_and _ _).symm

theorem agree_isIdentifierPart : Agree Bytes.isIdentifierPart isIdentifierPart := by
  have hagree : Agree _ isIdentifierPart :=
    (agree_eq (c := '_') (by decide)).or ((agree_isUpper.or agree_isLower).or agree_isDigit)
  intro c b hb
  rw [← hagree c b hb, Bytes.isIdentifierPart]
  ac_rfl

end Text

namespace Bytes

variable {b : Bytes} {p : UInt8 → Bool} {q : Char → Bool} {t : Text}

theorem eq_of_firstAt {search : Except OffsetError Nat} {P : Nat → Prop} {n : Nat}
    (hsearch : ∃ m, search = .ok m ∧ FirstAt P t.bytes.length m) (h : FirstAt P t.byteSize n) :
    search = .ok n := by
  obtain ⟨m, rfl, hfirst⟩ := hsearch
  rw [Text.length_bytes] at hfirst
  rw [hfirst.unique h]

theorem backTickEnd_bytes (t : Text) : backTickEnd t.bytes = .ok t.backTickString.1.byteSize :=
  eq_of_firstAt (backTickEnd_firstAt _) (Text.firstAt_backTickString t)

theorem starSlashEnd_bytes (t : Text) : starSlashEnd t.bytes = .ok t.starComment.1.byteSize :=
  eq_of_firstAt (starSlashEnd_firstAt _) (Text.firstAt_starComment t)

theorem tripleQuoteEnd_bytes (t : Text) :
    tripleQuoteEnd t.bytes 5 = .ok t.tripleQuotedString.1.byteSize :=
  eq_of_firstAt
    (tripleQuoteEnd_firstAt (Nat.le_refl _) fun m hm _ hclosed => absurd hclosed.1 (by omega))
    (Text.firstAt_tripleQuotedString t)

theorem lineEnd_bytes (opener : Nat) (t : Text) :
    lineEnd opener t.bytes = .ok (t.lineComment opener).1.byteSize :=
  eq_of_firstAt (lineEnd_firstAt _ _) (Text.firstAt_lineComment _ t)

theorem quotedEnd_bytes {quote : Char} (hquote : Text.IsAscii quote) (hline : quote ≠ '\n')
    (t : Text) : quotedEnd quote t.bytes 1 = .ok (t.quotedString quote).1.byteSize := by
  have hne : quote.toUInt8 ≠ '\n'.toUInt8 := mt (Text.toUInt8_inj hquote (by decide)).1 hline
  obtain ⟨n, hn, hend⟩ :=
    quotedEnd_firstAt (b := t.bytes) hne (Nat.le_refl 1) fun m hm _ h => absurd h.1 (by omega)
  obtain ⟨m, hm, hsize⟩ := Text.firstAt_quotedString hquote hline t
  rw [Text.length_bytes] at hn
  rw [hend, hsize, hn.unique hm]

theorem elim_findIdx?_not {base size : Nat} (h : size = base + b.length) :
    (b.findIdx? (!p ·)).elim size (base + ·) = base + (b.takeWhile p).length := by
  rw [List.takeWhile_eq_take_findIdx_not, List.findIdx_eq_getD_findIdx?]
  cases hfind : b.findIdx? (!p ·) with
  | none => simp [h]
  | some i =>
    have hlt := (List.findIdx?_eq_some_iff_findIdx_eq.1 hfind).1
    simp [Nat.le_of_lt hlt]

/-- The first character belongs to a run, whatever it is. -/
theorem runEnd_bytes (h : Text.Agree p q) (t : Text) :
    runEnd p (t.head?.elim 0 Char.utf8Size) t.bytes = .ok (t.run q).1.byteSize := by
  cases t with
  | nil => rfl
  | cons c t =>
    have hbehind : (Text.bytes (c :: t)).drop c.utf8Size = Text.bytes t := by
      rw [Text.bytes_cons, ← String.length_utf8EncodeChar, List.drop_left]
    have hslice : slice (Text.bytes (c :: t)) c.utf8Size = .ok (Text.bytes t) := by
      rw [slice_eq (by rw [Text.length_bytes]; exact Nat.le_add_right _ _), hbehind]
    have hsize : (Text.bytes (c :: t)).length = c.utf8Size + (Text.bytes t).length := by simp
    show runEnd p c.utf8Size _ = _
    rw [runEnd, hslice]
    simp only [bind, Except.bind, pure, Except.pure]
    rw [elim_findIdx?_not hsize, Text.takeWhile_bytes h, Text.length_bytes]
    rfl

end Bytes

end ModalLexer
