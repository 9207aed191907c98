import ModalLexer.Proofs.Rule.SingleEmission

/-! # Splitting a match by its groups

An emission looks at the groups that took part in the match and took something. If these lie in the
match one after the other, in the order of their numbers, then the match is divided into their
stretches and the gaps that they leave, and each becomes a token: a stretch under the type of its
group, and a gap as plain text. Otherwise, and for a wrong number of types or an empty match,
nothing changes.
-/

namespace ModalLexer

open Pattern (Span Captures)

/-- The stretch takes nothing of what the spans take. -/
def Avoids (spans : List Span) (stretch : Span) : Prop :=
  ∀ span ∈ spans, span.stop ≤ stretch.start ∨ stretch.stop ≤ span.start

/-- A maximal stretch between two offsets that takes something, but nothing of what the spans
take. -/
structure IsGap (start stop : Nat) (spans : List Span) (gap : Span) : Prop where
  start_le : start ≤ gap.start
  not_empty : gap.start < gap.stop
  le_stop : gap.stop ≤ stop
  avoids : Avoids spans gap
  maximal : ∀ wider : Span, start ≤ wider.start → wider.start ≤ gap.start →
    gap.stop ≤ wider.stop → wider.stop ≤ stop → Avoids spans wider → wider = gap

/-- The spans that take something, under their types. -/
def takenSpans (groups : List (TokenType × Option Span)) : List (TokenType × Span) :=
  groups.filterMap fun (kind, span?) =>
    span?.bind fun span => if span.start = span.stop then none else some (kind, span)

/-- The spans lie behind `start` and one after the other. -/
def Ascend (start : Nat) (spans : List (TokenType × Span)) : Prop :=
  (∀ span ∈ spans, start ≤ span.2.start) ∧ spans.Pairwise fun a b => a.2.stop ≤ b.2.start

instance (start : Nat) (spans : List (TokenType × Span)) : Decidable (Ascend start spans) :=
  inferInstanceAs (Decidable (_ ∧ _))

/-- The stretches of consecutive pieces, from `start` on. -/
def stretches (start : Nat) : List (TokenType × Nat) → List (TokenType × Span)
  | [] => []
  | (kind, n) :: pieces => (kind, ⟨start, start + n⟩) :: stretches (start + n) pieces

variable {start stop : Nat} {kind : TokenType} {span gap : Span} {spans : List Span}
  {typed : List (TokenType × Span)} {groups : List (TokenType × Option Span)}

theorem ascend_cons (hle : span.start ≤ span.stop) :
    Ascend start ((kind, span) :: typed) ↔ start ≤ span.start ∧ Ascend span.stop typed := by
  constructor
  · rintro ⟨hstart, hpairs⟩
    obtain ⟨hbehind, hpairs⟩ := List.pairwise_cons.1 hpairs
    exact ⟨hstart _ List.mem_cons_self, hbehind, hpairs⟩
  · rintro ⟨hstart, hbehind, hpairs⟩
    refine ⟨?_, List.pairwise_cons.2 ⟨hbehind, hpairs⟩⟩
    intro other hother
    rcases List.mem_cons.1 hother with rfl | hmem
    · exact hstart
    · have hlater : span.stop ≤ other.2.start := hbehind other hmem
      omega

/-- The check of the groups, which compares each with the end of the one before it, finds out
whether they lie one after the other. -/
theorem groupSpans_eq (start : Nat)
    (hle : ∀ group ∈ groups, ∀ span, group.2 = some span → span.start ≤ span.stop) :
    groupSpans start groups =
      if Ascend start (takenSpans groups) then .ok (takenSpans groups)
      else .error .overlappingGroups := by
  fun_induction groupSpans start groups with
  | case1 start => simp [takenSpans, Ascend]
  | case2 start kind groups ih =>
    simpa [takenSpans] using ih (List.forall_mem_cons.1 hle).2
  | case3 start kind span groups hempty ih =>
    simpa [takenSpans, hempty] using ih (List.forall_mem_cons.1 hle).2
  | case4 start kind span groups hne hbefore =>
    have htaken : takenSpans ((kind, some span) :: groups) = (kind, span) :: takenSpans groups := by
      simp [takenSpans, hne]
    rw [htaken, if_neg]
    rintro ⟨hstart, -⟩
    have hlater : start ≤ span.start := hstart (kind, span) List.mem_cons_self
    omega
  | case5 start kind span groups hne hafter ih =>
    have htaken : takenSpans ((kind, some span) :: groups) = (kind, span) :: takenSpans groups := by
      simp [takenSpans, hne]
    obtain ⟨hfirst, hmore⟩ := List.forall_mem_cons.1 hle
    have hcons : Ascend start ((kind, span) :: takenSpans groups) ↔
        start ≤ span.start ∧ Ascend span.stop (takenSpans groups) := ascend_cons (hfirst span rfl)
    rw [ih hmore, htaken]
    by_cases hascend : Ascend span.stop (takenSpans groups)
    · have hstart : start ≤ span.start := by omega
      rw [if_pos hascend, if_pos (hcons.2 ⟨hstart, hascend⟩)]
      rfl
    · rw [if_neg hascend, if_neg fun h => hascend (hcons.1 h).2]
      rfl

/-- Without spans the whole of what lies between the two offsets is the only gap. -/
theorem isGap_nil_iff : IsGap start stop [] gap ↔ gap = ⟨start, stop⟩ ∧ start < stop := by
  constructor
  · intro h
    have hstart := h.start_le
    have hstop := h.le_stop
    have hne := h.not_empty
    have hwide : (⟨start, stop⟩ : Span) = gap :=
      h.maximal ⟨start, stop⟩ (Nat.le_refl _) hstart hstop (Nat.le_refl _) (by simp [Avoids])
    exact ⟨hwide.symm, by omega⟩
  · rintro ⟨rfl, hlt⟩
    refine ⟨Nat.le_refl _, hlt, Nat.le_refl _, by simp [Avoids], ?_⟩
    rintro ⟨wstart, wstop⟩ h₁ h₂ h₃ h₄ -
    simp only at h₁ h₂ h₃ h₄
    simp only [Span.mk.injEq]
    omega

/-- The gaps around a span that comes first: the one in front of it, and those behind it. -/
theorem isGap_cons_iff (hstart : start ≤ span.start) (hne : span.start < span.stop)
    (hstop : span.stop ≤ stop) (hbehind : ∀ other ∈ spans, span.stop ≤ other.start) :
    IsGap start stop (span :: spans) gap ↔
      (gap = ⟨start, span.start⟩ ∧ start < span.start) ∨ IsGap span.stop stop spans gap := by
  have havoids : ∀ {stretch : Span}, Avoids (span :: spans) stretch ↔
      (span.stop ≤ stretch.start ∨ stretch.stop ≤ span.start) ∧ Avoids spans stretch :=
    List.forall_mem_cons
  -- What ends in front of the first span avoids those behind it.
  have hfront : ∀ {stretch : Span}, stretch.stop ≤ span.start → Avoids spans stretch := by
    intro stretch hle other hother
    have hlater := hbehind other hother
    omega
  constructor
  · intro h
    obtain ⟨hside, hmore⟩ := havoids.1 h.avoids
    rcases hside with hafter | hbefore
    · refine .inr ⟨hafter, h.not_empty, h.le_stop, hmore, ?_⟩
      intro wider h₁ h₂ h₃ h₄ hwider
      exact h.maximal wider (by omega) h₂ h₃ h₄ (havoids.2 ⟨.inl h₁, hwider⟩)
    · have h₁ := h.start_le
      have h₂ := h.not_empty
      have hwide : (⟨start, span.start⟩ : Span) = gap := by
        refine h.maximal ⟨start, span.start⟩ (Nat.le_refl _) h₁ hbefore (by simp only; omega) ?_
        exact havoids.2 ⟨.inr (Nat.le_refl _), hfront (Nat.le_refl _)⟩
      exact .inl ⟨hwide.symm, by omega⟩
  · rintro (⟨rfl, hlt⟩ | h)
    · refine ⟨Nat.le_refl _, hlt, by simp only; omega,
        havoids.2 ⟨.inr (Nat.le_refl _), hfront (Nat.le_refl _)⟩, ?_⟩
      rintro ⟨wstart, wstop⟩ h₁ h₂ h₃ h₄ hwider
      have hside := (havoids.1 hwider).1
      simp only at h₁ h₂ h₃ h₄ hside
      simp only [Span.mk.injEq]
      omega
    · have h₁ := h.start_le
      have h₂ := h.not_empty
      refine ⟨by omega, h₂, h.le_stop, havoids.2 ⟨.inl h₁, h.avoids⟩, ?_⟩
      intro wider h₃ h₄ h₅ h₆ hwider
      obtain ⟨hside, hmore⟩ := havoids.1 hwider
      exact h.maximal wider (by omega) h₄ h₅ h₆ hmore

theorem stretches_pieces_cons (hstart : start ≤ span.start) (hle : span.start ≤ span.stop) :
    stretches start (pieces start stop ((kind, span) :: typed)) =
      (if start < span.start then [(.text, ⟨start, span.start⟩)] else []) ++
        (kind, span) :: stretches span.stop (pieces span.stop stop typed) := by
  have hsize : span.start + (span.stop - span.start) = span.stop := by omega
  have hgap : start + (span.start - start) = span.start := by omega
  by_cases hlt : start < span.start
  · simp only [pieces, if_pos hlt, stretches, hgap, hsize]
    rfl
  · obtain rfl : start = span.start := by omega
    simp only [pieces, if_neg hlt, stretches, hsize]
    rfl

/-- The pieces are the spans under their types, and the gaps that these leave. -/
theorem mem_stretches_pieces {typed : List (TokenType × Span)} (hascend : Ascend start typed)
    (hne : ∀ span ∈ typed, span.2.start < span.2.stop)
    (hstop : ∀ span ∈ typed, span.2.stop ≤ stop) (hle : start ≤ stop) :
    (kind, gap) ∈ stretches start (pieces start stop typed) ↔
      (kind, gap) ∈ typed ∨ kind = .text ∧ IsGap start stop (typed.map Prod.snd) gap := by
  induction typed generalizing start with
  | nil =>
    rw [List.map_nil, isGap_nil_iff]
    by_cases hlt : start < stop
    · have hend : start + (stop - start) = stop := by omega
      simp [pieces, hlt, stretches, hend]
    · simp [pieces, hlt, stretches]
  | cons first typed ih =>
    obtain ⟨firstKind, span⟩ := first
    have hspan : span.start < span.stop := hne (firstKind, span) List.mem_cons_self
    have hend : span.stop ≤ stop := hstop (firstKind, span) List.mem_cons_self
    obtain ⟨hstart, hmore⟩ := (ascend_cons (Nat.le_of_lt hspan)).1 hascend
    have hbehind : ∀ other ∈ typed.map Prod.snd, span.stop ≤ other.start := by
      intro other hother
      obtain ⟨p, hp, rfl⟩ := List.mem_map.1 hother
      exact hmore.1 p hp
    have hrest := ih hmore (fun p hp => hne p (List.mem_cons_of_mem _ hp))
      (fun p hp => hstop p (List.mem_cons_of_mem _ hp)) hend
    rw [List.map_cons, isGap_cons_iff hstart hspan hend hbehind, List.mem_cons, Prod.mk.injEq,
      stretches_pieces_cons hstart (Nat.le_of_lt hspan), List.mem_append, List.mem_cons,
      Prod.mk.injEq, hrest]
    have hgap : (kind, gap) ∈ (if start < span.start then [(TokenType.text, ⟨start, span.start⟩)]
        else []) ↔ kind = .text ∧ gap = ⟨start, span.start⟩ ∧ start < span.start := by
      split <;> simp_all
    rw [hgap, and_or_left, or_assoc, or_left_comm, or_left_comm (b := (kind, gap) ∈ typed)]

/-- The text between two offsets. -/
def Text.Slice (t : Text) (span : Span) (w : Text) : Prop :=
  ∃ u v, t = u ++ w ++ v ∧ span = ⟨u.byteSize, u.byteSize + w.byteSize⟩

theorem Text.Slice.unique {t w w' : Text} (h : t.Slice span w) (h' : t.Slice span w') : w = w' := by
  obtain ⟨u, v, ht, hspan⟩ := h
  obtain ⟨u', v', ht', hspan'⟩ := h'
  rw [hspan, Span.mk.injEq] at hspan'
  obtain ⟨hstart, hstop⟩ := hspan'
  -- Each of the two ways to cut the text is the one at the offsets of the span.
  have hcut := Text.splitBytes?_byteSize u (w ++ v)
  have hcut' := Text.splitBytes?_byteSize u' (w' ++ v')
  rw [← List.append_assoc, ← ht] at hcut
  rw [← List.append_assoc, ← ht', ← hstart, hcut, Option.some.injEq, Prod.mk.injEq] at hcut'
  have hsize : w.byteSize = w'.byteSize := by omega
  have hw := Text.splitBytes?_byteSize w v
  rw [hcut'.2, hsize, Text.splitBytes?_byteSize, Option.some.injEq, Prod.mk.injEq] at hw
  exact hw.1.symm

/-- Consecutive tokens with the stretches of their texts, from `start` on. -/
def Token.placed (start : Nat) : List Token → List (Token × Span)
  | [] => []
  | token :: tokens =>
    (token, ⟨start, start + token.text.byteSize⟩) :: placed (start + token.text.byteSize) tokens

variable {token : Token} {tokens : List Token} {parts : List (TokenType × Text)} {u : Text}

theorem slice_of_mem_placed (h : (token, span) ∈ Token.placed u.byteSize tokens) :
    (u ++ Token.join tokens).Slice span token.text := by
  induction tokens generalizing u with
  | nil => cases h
  | cons first tokens ih =>
    rw [Token.placed, List.mem_cons] at h
    rcases h with heq | hmem
    · cases heq
      exact ⟨u, Token.join tokens, by simp, rfl⟩
    · rw [← Text.byteSize_append] at hmem
      simpa using ih hmem

theorem mem_placed_partTokens :
    (∃ token, (token, span) ∈ Token.placed start (partTokens parts) ∧ token.kind = some kind) ↔
      (kind, span) ∈ stretches start (partSizes parts) := by
  induction parts generalizing start with
  | nil => simp [partTokens, partSizes, Token.placed, stretches]
  | cons part parts ih =>
    obtain ⟨first, w⟩ := part
    have hmore : (∃ token, (token, span) ∈ Token.placed (start + w.byteSize) (partTokens parts) ∧
        token.kind = some kind) ↔
        (kind, span) ∈ stretches (start + w.byteSize) (partSizes parts) := ih
    simp only [partTokens, partSizes] at hmore ⊢
    simp only [List.map_cons, Token.placed, stretches, List.mem_cons, Prod.mk.injEq, ← hmore]
    constructor
    · rintro ⟨token, ⟨rfl, rfl⟩ | hmem, hkind⟩
      · exact .inl ⟨(Option.some.inj hkind).symm, rfl⟩
      · exact .inr ⟨token, hmem, hkind⟩
    · rintro (⟨rfl, rfl⟩ | ⟨token, hmem, hkind⟩)
      · exact ⟨_, .inl ⟨rfl, rfl⟩, rfl⟩
      · exact ⟨token, .inr hmem, hkind⟩

theorem exists_kind_of_mem_placed (h : (token, span) ∈ Token.placed start (partTokens parts)) :
    ∃ kind, token.kind = some kind := by
  induction parts generalizing start with
  | nil => cases h
  | cons part parts ih =>
    simp only [partTokens, List.map_cons, Token.placed, List.mem_cons] at h
    rcases h with heq | hmem
    · cases heq
      exact ⟨part.1, rfl⟩
    · exact ih hmem

/-- A token lies at a place exactly if it has the text of the place and the type of the part that
takes this stretch. -/
theorem mem_placed_iff : (token, span) ∈ Token.placed 0 (partTokens parts) ↔
    (partsText parts).Slice span token.text ∧
      ∃ kind, token.kind = some kind ∧ (kind, span) ∈ stretches 0 (partSizes parts) := by
  have hslices : ∀ {placed : Token}, (placed, span) ∈ Token.placed 0 (partTokens parts) →
      (partsText parts).Slice span placed.text := by
    intro placed hplaced
    have hslice := slice_of_mem_placed (u := []) hplaced
    rwa [List.nil_append, join_partTokens] at hslice
  constructor
  · intro hplaced
    obtain ⟨kind, hkind⟩ := exists_kind_of_mem_placed hplaced
    exact ⟨hslices hplaced, kind, hkind, mem_placed_partTokens.1 ⟨token, hplaced, hkind⟩⟩
  · rintro ⟨hslice, kind, hkind, hmem⟩
    -- The token that is placed there has the same text, as it lies at the same place.
    obtain ⟨placed, hplaced, hkind'⟩ := mem_placed_partTokens.2 hmem
    have htext : placed.text = token.text := (hslices hplaced).unique hslice
    obtain ⟨kind', text'⟩ := placed
    obtain ⟨kind'', text''⟩ := token
    obtain rfl : kind' = some kind := hkind'
    obtain rfl : kind'' = some kind := hkind
    obtain rfl : text' = text'' := htext
    exact hplaced

/-- The stretches that the groups took, in the order of the groups, without those that took
nothing. -/
def Pattern.Captures.taken (captures : Captures) : List Span :=
  captures.groups.filterMap fun span? => span?.filter fun span => span.start ≠ span.stop

/-- The groups that took something lie apart, from left to right. -/
def Pattern.Captures.InOrder (captures : Captures) : Prop :=
  captures.taken.Pairwise fun a b => a.stop ≤ b.start

variable {ε : Type} {captures : Captures} {kinds : List TokenType} {t m : Text}

theorem map_snd_takenSpans (hlen : kinds.length = captures.groups.length) :
    (takenSpans (kinds.zip captures.groups)).map Prod.snd = captures.taken := by
  have hall : ∀ (kinds : List TokenType) (groups : List (Option Span)),
      kinds.length = groups.length → (takenSpans (kinds.zip groups)).map Prod.snd
        = groups.filterMap fun span? => span?.filter fun span => span.start ≠ span.stop := by
    intro kinds groups hlen
    induction kinds generalizing groups with
    | nil => cases groups <;> simp_all [takenSpans]
    | cons kind kinds ih =>
      cases groups with
      | nil => cases hlen
      | cons span? groups =>
        have hmore := ih groups (by simpa using hlen)
        simp only [takenSpans] at hmore ⊢
        cases span? with
        | none => simpa using hmore
        | some span =>
          by_cases hne : span.start = span.stop <;>
            simpa [List.filterMap_cons, Option.filter_some, hne] using hmore
  exact hall kinds captures.groups hlen

theorem mem_takenSpans_zip :
    (kind, span) ∈ takenSpans (kinds.zip captures.groups) ↔ ∃ i : Nat,
      kinds[i]? = some kind ∧ captures.groups[i]? = some (some span) ∧ span.start ≠ span.stop := by
  rw [takenSpans, List.mem_filterMap]
  constructor
  · rintro ⟨⟨kind', span?⟩, hmem, htaken⟩
    obtain ⟨i, hi⟩ := List.mem_iff_getElem?.1 hmem
    obtain ⟨hkind, hgroup⟩ := List.getElem?_zip_eq_some.1 hi
    obtain ⟨span', hspan?, hspan⟩ := Option.bind_eq_some_iff.1 htaken
    obtain rfl : span? = some span' := hspan?
    split at hspan
    · cases hspan
    · next hne => cases hspan; exact ⟨i, hkind, hgroup, hne⟩
  · rintro ⟨i, hkind, hgroup, hne⟩
    have hi : (kinds.zip captures.groups)[i]? = some (kind, some span) :=
      List.getElem?_zip_eq_some.2 ⟨hkind, hgroup⟩
    exact ⟨(kind, some span), List.mem_iff_getElem?.2 ⟨i, hi⟩, by simp [hne]⟩

instance (captures : Captures) : Decidable captures.InOrder :=
  inferInstanceAs (Decidable (List.Pairwise _ _))

theorem groupSpans_zip (hc : captures.LieIn t) (hlen : kinds.length = captures.groups.length) :
    groupSpans 0 (kinds.zip captures.groups) =
      if captures.InOrder then .ok (takenSpans (kinds.zip captures.groups))
      else .error .overlappingGroups := by
  have horder : Ascend 0 (takenSpans (kinds.zip captures.groups)) ↔ captures.InOrder := by
    rw [Pattern.Captures.InOrder, ← map_snd_takenSpans hlen, List.pairwise_map, Ascend]
    simp
  rw [groupSpans_eq 0 fun group hmem span hspan =>
    (hc.groups span (hspan ▸ (List.of_mem_zip hmem).2)).le]
  exact if_congr horder rfl rfl

/-- A wrong number of types is found before anything else, and then groups that are not in order.
Otherwise the match is divided, unless it is empty. -/
theorem emission_eq (kinds : List TokenType) (hc : captures.LieIn t) :
    emission kinds captures =
      if kinds.length ≠ max 1 captures.groups.length then
        .error (.typeCountMismatch (max 1 captures.groups.length) kinds.length)
      else if ¬ captures.InOrder then .error .overlappingGroups
      else if captures.span.stop = 0 then .ok []
      else if captures.groups = [] then .ok (kinds.map fun kind => (kind, captures.span.stop))
      else .ok (pieces 0 captures.span.stop (takenSpans (kinds.zip captures.groups))) := by
  by_cases hlen : kinds.length ≠ max 1 captures.groups.length
  · simp only [emission, if_pos hlen]
  by_cases hnone : captures.groups = []
  · have horder : captures.InOrder := by
      simp [Pattern.Captures.InOrder, Pattern.Captures.taken, hnone]
    have hzero : captures.groups.length = 0 := by simp [hnone]
    simp only [emission, if_neg hlen, if_pos hzero, not_not.2 horder, if_false, if_pos hnone]
    split <;> rfl
  · have hsome : captures.groups.length ≠ 0 := by simpa using hnone
    have hspans := groupSpans_zip hc (show kinds.length = captures.groups.length by omega)
    simp only [emission, if_neg hlen, if_neg hsome, if_neg hnone, hspans]
    by_cases horder : captures.InOrder
    · simp only [if_pos horder, not_not.2 horder, if_false]
      split <;> rfl
    · simp only [if_neg horder, if_pos horder]
      rfl

/-- The tokens divide the text of a match. Without groups there is a single one. Otherwise the token
at a place is that of a group which took this stretch, under the type of the group, or it is plain
and fills a gap. -/
structure Divides (kinds : List TokenType) (captures : Captures) (m : Text)
    (tokens : List Token) : Prop where
  text : Token.join tokens = m
  not_empty : ∀ token ∈ tokens, token.text ≠ []
  whole : captures.groups = [] → ∃ kind, kinds = [kind] ∧ tokens = [⟨some kind, m⟩]
  parts : captures.groups ≠ [] → ∀ token span, (token, span) ∈ Token.placed 0 tokens ↔
    m.Slice span token.text ∧
      ((∃ i : Nat, token.kind = kinds[i]? ∧ captures.groups[i]? = some (some span) ∧
          span.start ≠ span.stop) ∨
        token.kind = some .text ∧ IsGap 0 captures.span.stop captures.taken span)

theorem span_of_mem_taken (hc : captures.LieIn t) (h : span ∈ captures.taken) :
    span.start < span.stop ∧ span.stop ≤ captures.span.stop := by
  obtain ⟨span?, hmem, hspan⟩ := List.mem_filterMap.1 h
  obtain ⟨rfl, hne⟩ := Option.filter_eq_some_iff.1 hspan
  have hlies := hc.groups span hmem
  have hle := hlies.le
  have hne : span.start ≠ span.stop := by simpa using hne
  exact ⟨by omega, hlies.le_stop⟩

/-- Groups in order give each piece its type: that of the group for a stretch, and plain for a gap.
-/
theorem mem_stretches_groups (hc : captures.LieIn t) (hlen : kinds.length = captures.groups.length)
    (horder : captures.InOrder) :
    (kind, span) ∈ stretches 0
        (pieces 0 captures.span.stop (takenSpans (kinds.zip captures.groups))) ↔
      (∃ i : Nat, kinds[i]? = some kind ∧ captures.groups[i]? = some (some span) ∧
        span.start ≠ span.stop) ∨
      kind = .text ∧ IsGap 0 captures.span.stop captures.taken span := by
  have htaken := map_snd_takenSpans hlen
  have hmem : ∀ p ∈ takenSpans (kinds.zip captures.groups), p.2 ∈ captures.taken :=
    fun p hp => htaken ▸ List.mem_map_of_mem hp
  have hascend : Ascend 0 (takenSpans (kinds.zip captures.groups)) := by
    refine ⟨by simp, ?_⟩
    rwa [Pattern.Captures.InOrder, ← htaken, List.pairwise_map] at horder
  rw [← mem_takenSpans_zip, ← htaken]
  exact mem_stretches_pieces hascend (fun p hp => (span_of_mem_taken hc (hmem p hp)).1)
    (fun p hp => (span_of_mem_taken hc (hmem p hp)).2) (Nat.zero_le _)

/-- The parts that an emission queues divide the match. -/
theorem divides_of_emission (hc : captures.LieIn t)
    (hlen : kinds.length = max 1 captures.groups.length) (horder : captures.InOrder)
    (hstop : captures.span.stop ≠ 0) (hparts : emission kinds captures = .ok (partSizes parts))
    (hcut : CutUpTo captures.span.stop [] t parts) :
    Divides kinds captures (partsText parts) (partTokens parts) := by
  rw [emission_eq kinds hc, if_neg (not_not.2 hlen), if_neg (not_not.2 horder), if_neg hstop]
    at hparts
  refine ⟨join_partTokens parts, ?_, ?_, ?_⟩
  · intro token htoken
    obtain ⟨part, hpart, rfl⟩ := List.mem_map.1 htoken
    exact hcut.not_empty part hpart
  · intro hnone
    rw [if_pos hnone, Except.ok.injEq] at hparts
    obtain ⟨kind, rfl⟩ : ∃ kind, kinds = [kind] := by
      simpa [hnone, List.length_eq_one_iff] using hlen
    obtain ⟨⟨kind', w⟩, rfl, hkind⟩ := List.map_eq_singleton_iff.1 hparts.symm
    obtain ⟨rfl, -⟩ := Prod.mk.inj hkind
    exact ⟨kind', rfl, by simp [partTokens]⟩
  · intro hsome token span
    rw [if_neg hsome, Except.ok.injEq] at hparts
    have hlen' : kinds.length = captures.groups.length := by
      have := List.length_pos_iff.2 hsome
      omega
    rw [mem_placed_iff, ← hparts]
    simp only [mem_stretches_groups hc hlen' horder]
    refine and_congr_right fun _ => ?_
    constructor
    · rintro ⟨kind, hkind, ⟨i, hi, hgroup, hne⟩ | ⟨rfl, hgap⟩⟩
      · exact .inl ⟨i, hkind.trans hi.symm, hgroup, hne⟩
      · exact .inr ⟨hkind, hgap⟩
    · rintro (⟨i, hi, hgroup, hne⟩ | ⟨hkind, hgap⟩)
      · obtain ⟨hlt, -⟩ := List.getElem?_eq_some_iff.1 hgroup
        have hnamed : kinds[i]? = some kinds[i] := List.getElem?_eq_getElem (by omega)
        exact ⟨kinds[i], hi.trans hnamed, .inl ⟨i, hnamed, hgroup, hne⟩⟩
      · exact ⟨.text, hkind, .inr ⟨rfl, hgap⟩⟩

/-- The emission of a match. A wrong number of types is refused, then groups that overlap or are not
in order from left to right, and a match that ends where the text begins is declined; in all these
cases the state stays as it is. Otherwise the text up to the end of the match is taken, which is the
match itself if that begins where the text does, and the tokens that divide it are queued. -/
theorem emission_divides_match (kinds : List TokenType) {s : State ε}
    (hc : captures.LieIn s.text) :
    (kinds.length ≠ max 1 captures.groups.length →
      (Action.emit kinds).exec captures s = (.error (.error
        (.typeCountMismatch (max 1 captures.groups.length) kinds.length)), s)) ∧
    (kinds.length = max 1 captures.groups.length →
      (¬ captures.InOrder →
        (Action.emit kinds).exec captures s = (.error (.error .overlappingGroups), s)) ∧
      (captures.InOrder →
        (captures.span.stop = 0 → (Action.emit kinds).exec captures s = (.ok false, s)) ∧
        (captures.span.stop ≠ 0 → ∃ m rest queue tokens,
          s.text = m ++ rest ∧ m.byteSize = captures.span.stop ∧
          (Action.emit kinds).exec captures s = (.ok true, { s with text := rest, queue }) ∧
          queue.toList = s.queue.toList ++ tokens ∧ Divides kinds captures m tokens))) := by
  have hemission := emission_eq kinds hc
  refine ⟨fun hlen => ?_, fun hlen => ⟨fun horder => ?_, fun horder => ⟨fun hstop => ?_,
    fun hstop => ?_⟩⟩⟩
  · rw [if_pos hlen] at hemission
    simp only [Action.exec, hemission]
  · rw [if_neg (not_not.2 hlen), if_pos horder] at hemission
    simp only [Action.exec, hemission]
  · rw [if_neg (not_not.2 hlen), if_neg (not_not.2 horder), if_pos hstop] at hemission
    simp only [Action.exec, hemission]
  · obtain ⟨all, hall⟩ : ∃ all, emission kinds captures = .ok all := by
      rw [hemission, if_neg (not_not.2 hlen), if_neg (not_not.2 horder), if_neg hstop]
      split <;> exact ⟨_, rfl⟩
    obtain ⟨parts, rfl, hcut⟩ := emission_cuts hc hall
    obtain ⟨rest, htext⟩ := hcut.text
    obtain ⟨queue, hqueue, hlist⟩ := State.emitAll_parts htext
    have hsize : (partsText parts).byteSize = captures.span.stop := by simpa using hcut.stop_eq
    have hparts : partSizes parts ≠ [] := by
      intro hnil
      rw [List.map_eq_nil_iff.1 hnil] at hsize
      exact hstop hsize.symm
    refine ⟨partsText parts, rest, queue, partTokens parts, htext, hsize, ?_, hlist,
      divides_of_emission hc hlen horder hstop hall hcut⟩
    simp only [Action.exec, hall]
    exact hqueue

/-- A pattern with a group that takes nothing and one that takes no part, and gaps on all sides. -/
def gappedSource : String := "x(a)(b*)=(c)?(é+);"

def gappedState : State Unit where
  grammar := "g"
  modeNames := ["root"]
  text := "xa=éé;y".toList

/-- Gaps in front of, between and behind the groups become plain tokens. -/
theorem emission_divides_match_with_gaps : ∃ p captures queue tokens,
    Pattern.compile (Rule.anchoredSource gappedSource.toList) = .ok p ∧
    p.search gappedState.text = some captures ∧
    (Action.emit [.codeNumber, .codeString, .codeComment, .codeOperator]).exec captures gappedState
      = (.ok true, { gappedState with text := ['y'], queue }) ∧
    queue.toList = tokens ∧
    tokens = [⟨some .text, ['x']⟩, ⟨some .codeNumber, ['a']⟩, ⟨some .text, ['=']⟩,
      ⟨some .codeOperator, ['é', 'é']⟩, ⟨some .text, [';']⟩] ∧
    Divides [.codeNumber, .codeString, .codeComment, .codeOperator] captures "xa=éé;".toList
      tokens := by
  obtain ⟨p, hp, hsearch⟩ : ∃ p,
      Pattern.compile (Rule.anchoredSource gappedSource.toList) = .ok p ∧
      p.search gappedState.text =
        some ⟨⟨0, 8⟩, [some ⟨1, 2⟩, some ⟨2, 2⟩, none, some ⟨3, 7⟩]⟩ := by
    decide +kernel
  have hc := Pattern.search_lieIn hsearch
  obtain ⟨m, rest, queue, tokens, htext, hsize, hexec, hqueue, hdivides⟩ :=
    ((emission_divides_match [.codeNumber, .codeString, .codeComment, .codeOperator] hc).2
      rfl).2 (by decide) |>.2 (by decide)
  have hshown : ((Action.emit [.codeNumber, .codeString, .codeComment, .codeOperator]).exec
      ⟨⟨0, 8⟩, [some ⟨1, 2⟩, some ⟨2, 2⟩, none, some ⟨3, 7⟩]⟩ gappedState).2.queue.toList
      = [⟨some .text, ['x']⟩, ⟨some .codeNumber, ['a']⟩, ⟨some .text, ['=']⟩,
        ⟨some .codeOperator, ['é', 'é']⟩, ⟨some .text, [';']⟩] := by
    decide +kernel
  rw [hexec, hqueue] at hshown
  obtain rfl : tokens = _ := hshown
  obtain rfl : "xa=éé;".toList = m := hdivides.text
  have hrest : "xa=éé;".toList ++ ['y'] = "xa=éé;".toList ++ rest := htext
  obtain rfl : ['y'] = rest := List.append_cancel_left hrest
  exact ⟨p, _, queue, _, hp, hsearch, hexec, hqueue, rfl, hdivides⟩

end ModalLexer
