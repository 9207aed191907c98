import ModalLexer.Rule.Basic
import ModalLexer.Proofs.Pattern.Locality.Steps

/-! # Patterns inside a group

A pattern is put into a group by a text in front of it and a closing parenthesis behind it. Reading
it there goes as reading it alone, until it closes a group that it has not opened.
-/

namespace ModalLexer.Pattern

variable {α β γ : Type} {r r' : Reading} {tops : List OpenGroup} {c : Char} {t t' : Text}

theorem exists_of_bind_ok {x : Except PatternError α} {f : α → Except PatternError β} {b : β}
    (h : x >>= f = .ok b) : ∃ a, x = .ok a ∧ f a = .ok b := by
  cases x with
  | error e => cases h
  | ok a => exact ⟨a, rfl, h⟩

theorem ok_bind (a : α) (f : α → Except PatternError β) : (.ok a >>= f) = f a := rfl

theorem bind_eq_map_bind {x : Except PatternError α} {f : α → Except PatternError γ}
    {g : α → Except PatternError β} {k : β → γ} (h : ∀ a, f a = (g a).map k) :
    x >>= f = (x >>= g).map k := by
  cases x with
  | error e => rfl
  | ok a => exact h a

namespace Reading

/-- The same reading, with further groups around it. -/
def within (r : Reading) (tops : List OpenGroup) : Reading := { r with outer := r.outer ++ tops }

@[simp] theorem within_nil (r : Reading) : r.within [] = r := by simp [within]

@[simp] theorem within_flags : (r.within tops).flags = r.flags := rfl

theorem repeatLast_within (least : Nat) (most : Option Nat) (lazy : Bool) :
    (r.within tops).repeatLast least most lazy =
      (r.repeatLast least most lazy).map (·.within tops) := by
  obtain ⟨flags, next, names, ⟨index, outside, branches, items⟩, outer⟩ := r
  cases items with
  | nil => rfl
  | cons item items => cases item <;> rfl

theorem repeatLazily_within (least : Nat) (most : Option Nat) (t : Text) :
    (r.within tops).repeatLazily least most t =
      (r.repeatLazily least most t).map fun p => (p.1.within tops, p.2) := by
  simp only [repeatLazily, repeatLast_within]
  cases r.repeatLast least most (readLazy t).1 <;> rfl

theorem readCounted_within (t : Text) :
    (r.within tops).readCounted t = (r.readCounted t).map fun p => (p.1.within tops, p.2) := by
  rw [readCounted_eq, readCounted_eq]
  refine bind_eq_map_bind fun p => bind_eq_map_bind fun q => ?_
  simp only [readCountEnd]
  split
  · rfl
  · split
    · rfl
    · exact repeatLazily_within _ _ _

theorem openGroup_within (t : Text) :
    (r.within tops).openGroup t = (r.openGroup t).map fun p => (p.1.within tops, p.2) := by
  rw [openGroup_eq, openGroup_eq, within_flags]
  unfold readOpener
  split
  · rfl
  split
  · exact bind_eq_map_bind fun p => rfl
  split
  · refine bind_eq_map_bind fun p => ?_
    obtain ⟨flags, directive, rest⟩ := p
    cases directive <;> rfl
  · rfl

/-- Groups around a reading do not matter to a step, unless it closes the first of them. -/
theorem step_within (h : c = ')' → r.outer ≠ []) (t : Text) :
    (r.within tops).step c t = (r.step c t).map fun p => (p.1.within tops, p.2) := by
  unfold step
  split
  · exact openGroup_within t
  · obtain ⟨flags, next, names, group, outer⟩ := r
    cases outer with
    | nil => exact absurd rfl (h rfl)
    | cons g outer => rfl
  · rfl
  · rw [within_flags]
    exact bind_eq_map_bind fun p => rfl
  · exact repeatLazily_within 0 (some 1) t
  · exact repeatLazily_within 0 none t
  · exact repeatLazily_within 1 none t
  · exact readCounted_within t
  · exact bind_eq_map_bind fun p => rfl
  · exact bind_eq_map_bind fun s => rfl
  · rfl
  · rfl
  · rfl

/-- The number of the group around everything, which has none in a pattern. -/
def outermost (r : Reading) : Option Nat := (r.outer.getLastD r.group).index

/-- A step changes the group that it is in, opens another one in it or closes it. -/
theorem step_cases (h : r.step c t = .ok (r', t')) :
    r'.outer = r.outer ∧ r'.group.index = r.group.index ∨ r'.outer = r.group :: r.outer ∨
      ∃ g, r.outer = g :: r'.outer ∧ r'.group.index = g.index := by
  have hrepeat : ∀ {least most lazy r'}, r.repeatLast least most lazy = .ok r' →
      r'.outer = r.outer ∧ r'.group.index = r.group.index := by
    intro least most lazy r' h
    unfold repeatLast at h
    split at h
    · cases h; exact ⟨rfl, rfl⟩
    · cases h
  have hlazily : ∀ {least most t r' t'}, r.repeatLazily least most t = .ok (r', t') →
      r'.outer = r.outer ∧ r'.group.index = r.group.index := by
    intro least most t r' t' h
    obtain ⟨r'', hr, hr'⟩ := exists_of_bind_ok h
    cases hr'
    exact hrepeat hr
  unfold step at h
  split at h
  · rw [openGroup_eq] at h
    unfold readOpener at h
    split at h
    · cases h
    split at h
    · obtain ⟨p, -, hr⟩ := exists_of_bind_ok h
      cases hr
      exact .inr (.inl rfl)
    split at h
    · obtain ⟨⟨flags, directive, rest⟩, -, hr⟩ := exists_of_bind_ok h
      cases directive with
      | true => cases hr; exact .inl ⟨rfl, rfl⟩
      | false => cases hr; exact .inr (.inl rfl)
    · cases h
      exact .inr (.inl rfl)
  · obtain ⟨r'', hr, hr'⟩ := exists_of_bind_ok h
    cases hr'
    unfold closeGroup at hr
    split at hr
    · cases hr
    · next g outer houter =>
      cases hr
      exact .inr (.inr ⟨g, houter, rfl⟩)
  · cases h
    exact .inl ⟨rfl, rfl⟩
  · obtain ⟨p, -, hr⟩ := exists_of_bind_ok h
    cases hr
    exact .inl ⟨rfl, rfl⟩
  · exact .inl (hlazily h)
  · exact .inl (hlazily h)
  · exact .inl (hlazily h)
  · rw [readCounted_eq] at h
    obtain ⟨p, -, h⟩ := exists_of_bind_ok h
    obtain ⟨q, -, h⟩ := exists_of_bind_ok h
    unfold readCountEnd at h
    split at h
    · cases h
    · split at h
      · cases h
      · exact .inl (hlazily h)
  · obtain ⟨p, -, hr⟩ := exists_of_bind_ok h
    cases hr
    exact .inl ⟨rfl, rfl⟩
  · obtain ⟨p, -, hr⟩ := exists_of_bind_ok h
    cases hr
    exact .inl ⟨rfl, rfl⟩
  · cases h; exact .inl ⟨rfl, rfl⟩
  · cases h; exact .inl ⟨rfl, rfl⟩
  · cases h; exact .inl ⟨rfl, rfl⟩

theorem step_outermost (h : r.step c t = .ok (r', t')) : r'.outermost = r.outermost := by
  unfold outermost
  rcases step_cases h with ⟨houter, hindex⟩ | houter | ⟨g, houter, hindex⟩
  · rw [houter]
    cases r.outer with
    | nil => exact hindex
    | cons g outer => rfl
  · rw [houter]
    cases r.outer <;> rfl
  · rw [houter]
    cases r'.outer with
    | nil => exact hindex
    | cons g' outer => rfl

theorem finish_of_skip_nil {fuel : Nat} (h : skip r.flags t = []) :
    finish (fuel + 1) r t = .ok r := by
  simp only [finish, h]

theorem finish_of_skip_cons {fuel : Nat} (h : skip r.flags t = c :: t') :
    finish (fuel + 1) r t = r.step c t' >>= fun p => finish fuel p.1 p.2 := by
  simp only [finish, h]
  cases r.step c t' <;> rfl

@[simp] theorem finish_nil (fuel : Nat) (r : Reading) : finish fuel r [] = .ok r := by
  cases fuel with
  | zero => rfl
  | succ fuel => exact finish_of_skip_nil (skip_nil r.flags)

theorem length_le_of_step (h : r.step c t = .ok (r', t')) : t'.length ≤ t.length := by
  rcases r.step_local c t with hlocal | ⟨rfl, w, rfl, hw⟩
  · exact hlocal.length_le h
  · obtain ⟨p, hp, -⟩ := exists_of_bind_ok (x := readBoundary r.flags w) h
    rw [hw.readBoundary.1] at hp
    cases hp

/-- Fuel does not matter as long as there is more than the text has characters. -/
theorem finish_fuel {a b : Nat} (ha : t.length < a) (hb : t.length < b) :
    finish a r t = finish b r t := by
  induction a generalizing b r t with
  | zero => exact absurd ha (Nat.not_lt_zero _)
  | succ a ih =>
    obtain ⟨b, rfl⟩ := Nat.exists_eq_add_one_of_ne_zero (Nat.ne_zero_of_lt hb)
    cases hskip : skip r.flags t with
    | nil => rw [finish_of_skip_nil hskip, finish_of_skip_nil hskip]
    | cons c u =>
      have hle := length_skip_le r.flags t
      rw [hskip, List.length_cons] at hle
      rw [finish_of_skip_cons hskip, finish_of_skip_cons hskip]
      cases hstep : r.step c u with
      | error e => rfl
      | ok p =>
        have hlen : p.2.length ≤ u.length := length_le_of_step hstep
        exact ih (by omega) (by omega)

theorem finish_outermost {fuel : Nat} (h : finish fuel r t = .ok r') :
    r'.outermost = r.outermost := by
  induction fuel generalizing r t with
  | zero => cases h; rfl
  | succ fuel ih =>
    cases hskip : skip r.flags t with
    | nil =>
      rw [finish_of_skip_nil hskip] at h
      cases h
      rfl
    | cons c u =>
      rw [finish_of_skip_cons hskip] at h
      obtain ⟨⟨r'', rest⟩, hstep, h⟩ := exists_of_bind_ok h
      rw [ih h, step_outermost hstep]

/-- How a text is read alone, and with further groups around it and a closing parenthesis behind
it. -/
inductive Enclosed : Except PatternError Reading → (List OpenGroup → Except PatternError Reading) →
    Prop
  /-- The parenthesis closes the last group that is open. -/
  | closed (r : Reading) (y : List OpenGroup → Except PatternError Reading)
    (h : ∀ tops, y tops = (r.within tops).closeGroup) : Enclosed (.ok r) y
  /-- The parenthesis belongs to a comment. -/
  | passed (r : Reading) (y : List OpenGroup → Except PatternError Reading)
    (h : ∀ tops, y tops = .ok (r.within tops)) : Enclosed (.ok r) y
  /-- The text closes a group that it has not opened. -/
  | unopened (y : List OpenGroup → Except PatternError Reading) :
    Enclosed (.error .unopenedGroup) y
  /-- The text cannot be read alone. If the parenthesis makes it readable, no group is closed. -/
  | failed (e : PatternError) (y : List OpenGroup → Except PatternError Reading)
    (h : ∀ tops r, y tops = .ok r → ∃ q : Reading, r = q.within tops) : Enclosed (.error e) y

/-- A word boundary and a brace are an unfinished name alone. With the parenthesis the boundary is
read. -/
theorem step_openBrace (h : OpenBrace r.flags t) :
    r.step '\\' ('b' :: t) = .error .invalidEscape ∧
      r.step '\\' ('b' :: t ++ [')']) =
        .ok (r.add (.expr (.anchor (.boundary r.flags.unicode)) 0), t ++ [')']) := by
  constructor
  · show readBoundary r.flags t >>= _ = _
    rw [h.readBoundary.1]
    rfl
  · show readBoundary r.flags (t ++ [')']) >>= _ = _
    rw [h.readBoundary.2]
    rfl

/-- The brace does not begin a repetition that the parenthesis ends. -/
theorem finish_openBrace (h : OpenBrace r.flags t) (fuel : Nat) :
    finish (fuel + 1) r (t ++ [')']) = .error .invalidCount := by
  have hskip := h.skip [')']
  obtain ⟨inner, rfl, -, hinner⟩ := h
  replace hskip : skip r.flags ('\x7b' :: inner ++ [')']) = '\x7b' :: (inner ++ [')']) := hskip
  have hcount : ∀ flags, readCount flags [')'] = .error .invalidCount := fun _ => rfl
  have hstep : r.step '\x7b' (inner ++ [')']) = .error .invalidCount := by
    show r.readCounted (inner ++ [')']) = _
    rw [readCounted_eq, hinner, hcount]
    rfl
  rw [finish_of_skip_cons hskip, hstep]
  rfl

/-- What comes after a step is enclosed if it is so behind what the step leaves. -/
theorem Enclosed.of_local {n a b : Nat} {x y : Except PatternError (Reading × Text)}
    (h : Local n x y)
    (hrest : ∀ r' rest, rest.length ≤ n →
      Enclosed (finish a r' rest) fun tops => finish b (r'.within tops) (rest ++ [')'])) :
    Enclosed (x >>= fun p => finish a p.1 p.2) fun tops =>
      (y.map fun p => (p.1.within tops, p.2)) >>= fun p => finish b p.1 p.2 := by
  cases h with
  | left r' rest h => exact hrest r' rest h
  | passed r' =>
    have halone : (.ok (r', []) >>= fun p => finish a p.1 p.2) = .ok r' := finish_nil a r'
    rw [halone]
    exact .passed r' _ fun tops => finish_nil b _
  | failed e y h =>
    refine .failed e _ fun tops q hq => ?_
    obtain ⟨p, hp, hq⟩ := exists_of_bind_ok hq
    cases y with
    | error e => cases hp
    | ok p' =>
      obtain ⟨r', rest⟩ := p'
      obtain rfl := h r' rest rfl
      cases hp
      exact ⟨r', (Except.ok.inj ((finish_nil b _).symm.trans hq)).symm⟩

theorem finish_enclosed {a b : Nat} (ha : t.length < a) (hb : t.length + 1 < b) :
    Enclosed (finish a r t) fun tops => finish b (r.within tops) (t ++ [')']) := by
  induction a generalizing b r t with
  | zero => exact absurd ha (Nat.not_lt_zero _)
  | succ a ih =>
    obtain ⟨b, rfl⟩ := Nat.exists_eq_add_one_of_ne_zero (Nat.ne_zero_of_lt hb)
    rcases skip_append r.flags t with h | ⟨h, h'⟩
    · cases hskip : skip r.flags t with
      | nil =>
        rw [finish_of_skip_nil hskip]
        refine .closed r _ fun tops => ?_
        rw [finish_of_skip_cons (c := ')') (by rw [within_flags, h, hskip]; rfl)]
        show ((r.within tops).closeGroup >>= fun r => .ok (r, [])) >>= _ = _
        cases (r.within tops).closeGroup with
        | error e => rfl
        | ok r' => exact finish_nil b r'
      | cons c u =>
        have hle := length_skip_le r.flags t
        rw [hskip, List.length_cons] at hle
        have hfollowed : ∀ tops, finish (b + 1) (r.within tops) (t ++ [')']) =
            (r.within tops).step c (u ++ [')']) >>= fun p => finish b p.1 p.2 := fun tops =>
          finish_of_skip_cons (by rw [within_flags, h, hskip]; rfl)
        simp only [finish_of_skip_cons hskip, hfollowed]
        by_cases hclose : c = ')' ∧ r.outer = []
        · obtain ⟨rfl, houter⟩ := hclose
          have hstep : r.step ')' u = .error .unopenedGroup := by
            show r.closeGroup >>= _ = _
            rw [closeGroup, houter]
            rfl
          rw [hstep]
          exact .unopened _
        simp only [step_within fun hc houter => hclose ⟨hc, houter⟩]
        rcases r.step_local c u with hlocal | ⟨rfl, w, rfl, hw⟩
        · refine Enclosed.of_local hlocal fun r' rest hrest => ?_
          exact ih (Nat.lt_of_le_of_lt hrest (by omega)) (by omega)
        · obtain ⟨b, rfl⟩ := Nat.exists_eq_add_one_of_ne_zero (show b ≠ 0 by omega)
          rw [(step_openBrace hw).1, (step_openBrace hw).2]
          refine .failed .invalidEscape _ fun tops q hq => ?_
          have hcount := finish_openBrace
            (r := (r.add (.expr (.anchor (.boundary r.flags.unicode)) 0)).within tops) hw b
          cases hcount.symm.trans hq
    · rw [finish_of_skip_nil h]
      exact .passed r _ fun tops => finish_of_skip_nil h'

end Reading

/-- What a text stands for that has been read to its end, and how deep it is. -/
def Reading.result (r : Reading) : Except PatternError (Expr × Nat) :=
  if r.outer.isEmpty then .ok r.group.body else .error .unclosedGroup

theorem Reading.result_within {r : Reading} (h : tops ≠ []) :
    (r.within tops).result = .error .unclosedGroup := by
  rw [result, within, if_neg (by simp [h])]

theorem Reading.result_ne_unopened (r : Reading) : r.result ≠ .error .unopenedGroup := by
  unfold result
  split <;> simp

/-- Reads a pattern of any depth and size. -/
def parseUnbounded (source : Text) : Except PatternError (Expr × Nat) :=
  Reading.finish (source.length + 1) {} source >>= Reading.result

variable {source : Text} {e : Expr} {d : Nat}

theorem parseUnbounded_eq {fuel : Nat} (h : source.length < fuel) :
    parseUnbounded source = Reading.finish fuel {} source >>= Reading.result := by
  rw [parseUnbounded, Reading.finish_fuel (Nat.lt_succ_self _) h]

theorem parse_eq (source : Text) :
    parse source = parseUnbounded source >>= fun p =>
      if maxDepth < p.2 then .error .tooDeep
      else if p.1.fits then .ok p.1 else .error .tooLarge := by
  unfold parse parseUnbounded Reading.result
  cases Reading.finish (source.length + 1) {} source with
  | error e => rfl
  | ok r =>
    simp only [ok_bind]
    by_cases houter : r.outer.isEmpty = true
    · simp only [if_pos houter, ok_bind]
      generalize r.group.body = p
      by_cases hdepth : maxDepth < p.2
      · rw [if_pos hdepth, if_pos hdepth]
        rfl
      · rw [if_neg hdepth, if_neg hdepth]
        rfl
    · simp only [if_neg houter]
      rfl

/-- A pattern is valid if it can be read and keeps to the limits. -/
theorem parse_eq_ok_iff :
    parse source = .ok e ↔
      ∃ d, parseUnbounded source = .ok (e, d) ∧ d ≤ maxDepth ∧ e.fits = true := by
  rw [parse_eq]
  constructor
  · intro h
    obtain ⟨⟨e', d⟩, hread, h⟩ := exists_of_bind_ok h
    dsimp only at h
    split at h
    · cases h
    · next hdepth =>
      split at h
      · next hfits => cases h; exact ⟨d, hread, Nat.le_of_not_lt hdepth, hfits⟩
      · cases h
  · rintro ⟨d, hread, hdepth, hfits⟩
    rw [hread]
    show (if maxDepth < d then _ else if e.fits = true then _ else _) = _
    rw [if_neg (Nat.not_lt.2 hdepth), if_pos hfits]

theorem parse_eq_unopened_iff :
    parse source = .error .unopenedGroup ↔ parseUnbounded source = .error .unopenedGroup := by
  rw [parse_eq]
  cases parseUnbounded source with
  | error e => exact ⟨fun h => by cases h; rfl, fun h => by cases h; rfl⟩
  | ok p =>
    refine iff_of_false (fun h => ?_) (fun h => by cases h)
    replace h : (if maxDepth < p.2 then .error .tooDeep
      else if p.1.fits = true then .ok p.1 else .error .tooLarge : Except PatternError Expr) =
        .error .unopenedGroup := h
    split at h
    · cases h
    · split at h <;> cases h

/-- The expression tied to the start of the text. -/
def Expr.tied (e : Expr) : Expr := .sequence [.anchor .textStart, e]

/-- The group around the group that a pattern rule puts its pattern into. -/
def tiedGroup : OpenGroup :=
  { index := none, outside := {}, items := [.expr (.anchor .textStart) 0] }

theorem parseUnbounded_anchoredSource (source : Text) :
    parseUnbounded (Rule.anchoredSource source) =
      Reading.finish (source.length + 5) (({} : Reading).within [tiedGroup]) (source ++ [')']) >>=
        Reading.result := by
  have hlen : (Rule.anchoredSource source).length + 1 = source.length + 5 + 1 + 1 := by
    simp [Rule.anchoredSource]
  rw [parseUnbounded, hlen]
  rfl

theorem Reading.outermost_of_nil {r : Reading} (h : r.outer = []) :
    r.outermost = r.group.index := by
  rw [outermost, h]
  rfl

/-- The parenthesis closes the group around a pattern that is read to its end. -/
theorem closeGroup_within_tiedGroup {r : Reading} (houter : r.outer = [])
    (hindex : r.group.index = none) :
    (r.within [tiedGroup]).closeGroup >>= Reading.result =
      .ok (r.group.body.1.tied, r.group.body.2 + 2) := by
  have hitem : r.group.close = .expr r.group.body.1 (r.group.body.2 + 1) := by
    simp only [OpenGroup.close, hindex]
  have hclose : (r.within [tiedGroup]).closeGroup =
      .ok ({ r with flags := r.group.outside, group := tiedGroup, outer := [] }.add
        r.group.close) := by
    obtain ⟨flags, next, names, group, outer⟩ := r
    cases houter
    rfl
  rw [hclose, ok_bind]
  simp [Reading.result, hitem, OpenGroup.body, OpenGroup.branch, Reading.add, tiedGroup, Expr.tied]

/-- The parenthesis closes a group that the pattern has left open, and not the one around it. -/
theorem closeGroup_within_of_outer {r : Reading} (houter : r.outer ≠ []) (htops : tops ≠ []) :
    (r.within tops).closeGroup >>= Reading.result = .error .unclosedGroup := by
  obtain ⟨flags, next, names, group, outer⟩ := r
  cases outer with
  | nil => exact absurd rfl houter
  | cons g outer =>
    show Reading.result _ = _
    rw [Reading.result, if_neg]
    simpa [Reading.add] using fun _ => htops

/-- A pattern that does not close a group without opening it is valid behind the anchor if it can be
read, if it does not end in a comment, which the parenthesis would belong to, and if it keeps to the
limits there. -/
theorem parse_anchoredSource_iff (h : parse source ≠ .error .unopenedGroup) {e' : Expr} :
    parse (Rule.anchoredSource source) = .ok e' ↔
      ∃ e d, parseUnbounded source = .ok (e, d) ∧
        parseUnbounded (source ++ [')']) = .error .unopenedGroup ∧
        d + 2 ≤ maxDepth ∧ e.tied.fits = true ∧ e' = e.tied := by
  rw [ne_eq, parse_eq_unopened_iff] at h
  -- The same text is read alone, with the parenthesis, and with the group as well.
  have hread := Reading.finish_enclosed (r := {}) (a := source.length + 1) (b := source.length + 5)
    (Nat.lt_succ_self source.length) (by omega)
  have halone : parseUnbounded source =
      Reading.finish (source.length + 1) {} source >>= Reading.result := rfl
  have hparen : parseUnbounded (source ++ [')']) =
      Reading.finish (source.length + 5) (({} : Reading).within []) (source ++ [')']) >>=
        Reading.result := parseUnbounded_eq (by simp)
  have htied := parseUnbounded_anchoredSource source
  rw [parse_eq_ok_iff]
  generalize hx : Reading.finish (source.length + 1) {} source = x at hread halone
  cases hread with
  | closed r y hy =>
    replace hparen := hparen.trans (congrArg (· >>= Reading.result) (hy []))
    replace htied := htied.trans (congrArg (· >>= Reading.result) (hy [tiedGroup]))
    rw [Reading.within_nil] at hparen
    by_cases houter : r.outer = []
    · have hindex : r.group.index = none := by
        rw [← Reading.outermost_of_nil houter, Reading.finish_outermost hx]
        rfl
      have hresult : r.result = .ok r.group.body := by rw [Reading.result, houter]; rfl
      have hunopened : r.closeGroup = .error .unopenedGroup := by rw [Reading.closeGroup, houter]
      rw [htied, closeGroup_within_tiedGroup houter hindex, halone, ok_bind, hresult, hparen,
        hunopened]
      generalize r.group.body = p
      constructor
      · rintro ⟨d, heq, hdepth, hfits⟩
        cases heq
        exact ⟨p.1, p.2, rfl, rfl, hdepth, hfits, rfl⟩
      · rintro ⟨e, d, heq, -, hdepth, hfits, rfl⟩
        cases heq
        exact ⟨_, rfl, hdepth, hfits⟩
    · have hresult : r.result = .error .unclosedGroup := by
        rw [Reading.result, if_neg (by simpa using houter)]
      rw [htied, closeGroup_within_of_outer houter (List.cons_ne_nil _ _), halone, ok_bind, hresult]
      simp
  | passed r y hy =>
    replace hparen := hparen.trans (congrArg (· >>= Reading.result) (hy []))
    replace htied := htied.trans (congrArg (· >>= Reading.result) (hy [tiedGroup]))
    rw [ok_bind, Reading.result_within (List.cons_ne_nil _ _)] at htied
    rw [Reading.within_nil, ok_bind] at hparen
    rw [htied]
    refine iff_of_false (by simp) ?_
    rintro ⟨e, d, -, hunopened, -⟩
    exact r.result_ne_unopened (hparen.symm.trans hunopened)
  | unopened => exact absurd halone h
  | failed e y hy =>
    rw [halone]
    refine iff_of_false ?_ (by rintro ⟨_, _, heq, -⟩; cases heq)
    rintro ⟨d, heq, -⟩
    obtain ⟨r, hr, hresult⟩ := exists_of_bind_ok (htied.symm.trans heq)
    obtain ⟨q, rfl⟩ := hy _ r hr
    rw [Reading.result_within (List.cons_ne_nil _ _)] at hresult
    cases hresult

end ModalLexer.Pattern
