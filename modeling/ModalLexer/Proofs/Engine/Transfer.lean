import ModalLexer.Language.C
import ModalLexer.Language.Ini
import ModalLexer.Proofs.Engine.Requests
import ModalLexer.Proofs.Grammar.Compilation
import ModalLexer.Proofs.Scanner.Kinds

/-! # Rules that move text into the queue

A rule that changes the text and the queue only by emissions and scanners moves text from the front
of the input to the back of the queue. `Takes` singles out these rules, with a condition on the
types that they name, and `State.Transfer` is what each of them does to the state. The predefined
rules and those of the languages are of this kind.
-/

namespace ModalLexer

variable {ε : Type} {named : TokenType → Prop}

/-- The procedure takes text by emissions and scanners only, under types that satisfy `named`. -/
def Procedure.Takes (named : TokenType → Prop) : Procedure ε → Prop
  | done _ | fail _ => True
  | inspect next => ∀ s, (next s).Takes named
  | push _ _ | consume _ _ => False
  | emit kind _ next => named kind ∧ next.Takes named
  | scan _ next => ∀ fired, (next fired).Takes named
  | scanBytes kind _ next => named kind ∧ ∀ fired, (next fired).Takes named
  | addScore _ next => next.Takes named
  | enter _ next | exit next => ∀ e?, (next e?).Takes named
  | modifyExtension _ next => next.Takes named
  | intervene _ _ => False

/-- The action is put together from emissions under types that satisfy `named`, changes of score and
mode, and procedures of that kind. -/
inductive Action.Takes (named : TokenType → Prop) : Action ε → Prop
  | emit {kinds : List TokenType} (h : ∀ kind ∈ kinds, named kind) : Takes named (.emit kinds)
  | score (delta : Int64) : Takes named (.score delta)
  | enter (mode : String) : Takes named (.enter mode)
  | exit : Takes named .exit
  | sequence {actions : List (Action ε)} (h : ∀ action ∈ actions, Takes named action) :
    Takes named (.sequence actions)
  | custom {procedure : Pattern.Captures → Procedure ε}
    (h : ∀ captures, (procedure captures).Takes named) : Takes named (.custom procedure)

def Rule.Takes (named : TokenType → Prop) : Rule ε → Prop
  | pattern _ action => action.Takes named
  | procedure p => p.Takes named

def CompiledRule.Takes (named : TokenType → Prop) : CompiledRule ε → Prop
  | pattern _ action => action.Takes named
  | procedure p => p.Takes named

/-- All rules of the grammar move text into the queue, under types that satisfy `named`. -/
def Grammar.Takes (named : TokenType → Prop) (g : Grammar ε) : Prop :=
  ∀ modes, g.modes? = some modes → ∀ mode ∈ modes, ∀ r ∈ mode.rules, r.Takes named

theorem Procedure.Takes.plain {p : Procedure ε} (h : p.Takes named) : p.Plain := by
  induction p with
  | done | fail => trivial
  | push | consume | intervene => exact h.elim
  | emit _ _ _ ih => exact ih h.2
  | scanBytes _ _ _ ih => exact fun fired => ih fired (h.2 fired)
  | inspect _ ih | scan _ _ ih | enter _ _ ih | exit _ ih => exact fun x => ih x (h x)
  | addScore _ _ ih | modifyExtension _ _ ih => exact ih h

theorem Action.Takes.plain {action : Action ε} (h : action.Takes named) : action.Plain := by
  induction h with
  | emit => exact .emit _
  | score delta => exact .score delta
  | enter mode => exact .enter mode
  | exit => exact .exit
  | sequence _ ih => exact .sequence ih
  | custom h => exact .custom fun captures => (h captures).plain

theorem Rule.Takes.plain {r : Rule ε} (h : r.Takes named) : r.Plain := by
  cases r with
  | pattern => exact Action.Takes.plain h
  | procedure => exact Procedure.Takes.plain h

theorem CompiledRule.Takes.plain {r : CompiledRule ε} (h : r.Takes named) : r.Plain := by
  cases r with
  | pattern => exact Action.Takes.plain h
  | procedure => exact Procedure.Takes.plain h

theorem Grammar.Takes.plain {g : Grammar ε} (h : g.Takes named) : g.Plain :=
  fun modes hmodes mode hmode r hr => (h modes hmodes mode hmode r hr).plain

theorem Action.Takes.andThen {first next : Action ε} (hfirst : first.Takes named)
    (hnext : next.Takes named) : (first.andThen next).Takes named := by
  cases hfirst with
  | sequence h =>
    refine .sequence ?_
    intro action haction
    rcases List.mem_append.1 haction with hmem | hmem
    · exact h action hmem
    · rwa [List.mem_singleton.1 hmem]
  | emit | score | enter | exit | custom =>
    refine .sequence ?_
    intro action haction
    rcases List.mem_cons.1 haction with rfl | hmem
    · constructor <;> assumption
    · rwa [List.mem_singleton.1 hmem]

theorem Procedure.takes_ofScanner (scanner : Scanner) :
    (ofScanner scanner : Procedure ε).Takes named := fun _ => trivial

theorem Procedure.takes_scanIf (p : Char → Bool) (scanner : Scanner) :
    (scanIf p scanner : Procedure ε).Takes named := by
  intro s
  dsimp only
  split
  · exact takes_ofScanner scanner
  · trivial

theorem Rule.takes_single {kind : TokenType} (source : String) (h : named kind) :
    (single source kind : Rule ε).Takes named := .emit (by simpa using h)

section Languages

variable (h : ∀ kind : TokenType, ¬ kind.IsA .stop → named kind)
include h

theorem Action.takes_emit {kinds : List TokenType} (hkinds : ∀ kind ∈ kinds, ¬ kind.IsA .stop) :
    (Action.emit kinds : Action ε).Takes named := .emit fun kind hkind => h kind (hkinds kind hkind)

/-- The predefined rules move text into the queue and name no stops. -/
theorem Rule.takes_predefined : ∀ r ∈ ([.whitespace, .newline, .asciiIdentifier, .assignment,
    .arithmetic, .logical, .binary, .operators, .punctuation, .delimiter, .slashSlashComment,
    .slashStarComment, .hexadecimal, .octal, .integer, .decimal, .number] : List (Rule ε)),
    r.Takes named := by
  have hsingle : ∀ (source : String) (kind : TokenType), ¬ kind.IsA .stop →
      (single source kind : Rule ε).Takes named :=
    fun source kind hkind => takes_single source (h kind hkind)
  have hcomment : ((Action.emit [.codeComment]).andThen (.score 1) : Action ε).Takes named :=
    (Action.takes_emit h (by decide)).andThen (.score 1)
  simp only [List.forall_mem_cons, List.not_mem_nil, false_implies, implies_true, and_true]
  exact ⟨hsingle _ _ (by decide), hsingle _ _ (by decide), hsingle _ _ (by decide),
    hsingle _ _ (by decide), hsingle _ _ (by decide), hsingle _ _ (by decide),
    hsingle _ _ (by decide), hsingle _ _ (by decide), hsingle _ _ (by decide),
    hsingle _ _ (by decide), hcomment, hcomment, hsingle _ _ (by decide),
    hsingle _ _ (by decide), hsingle _ _ (by decide), hsingle _ _ (by decide),
    Procedure.takes_ofScanner .number⟩

theorem Language.C.takes_identifier : (identifier : Procedure ε).Takes named := by
  have hword : ∀ word rest : Text, ¬ (wordKind word rest).IsA .stop := by
    intro word rest
    unfold wordKind
    split
    · decide
    · split
      · decide
      · split <;> decide
  intro s
  dsimp only
  split
  · split
    · exact ⟨h _ (hword _ _), trivial⟩
    · exact ⟨h _ (hword _ _), trivial⟩
  · trivial

theorem Language.C.takes_number : (number : Procedure ε).Takes named := by
  intro s
  dsimp only
  split
  · split
    · next l hl =>
      exact ⟨h _ (TokenType.not_stop_of_mem_numbers _ (Text.kind_of_number? hl)), trivial⟩
    · trivial
  · trivial

theorem Language.C.takes_body (closer? : Option String) :
    ∀ r ∈ (body closer? : List (Rule ε)), r.Takes named := by
  have hemit : ∀ kind : TokenType, ¬ kind.IsA .stop → ∀ next : Action ε, next.Takes named →
      ((Action.emit [kind]).andThen next).Takes named :=
    fun kind hkind next hnext => (Action.takes_emit h (by simpa using hkind)).andThen hnext
  have hpredefined := Rule.takes_predefined (ε := ε) h
  simp only [body, List.forall_mem_append, List.forall_mem_cons, List.not_mem_nil, false_implies,
    implies_true, and_true]
  refine ⟨⟨⟨fun r hr => ?_, ?_⟩, fun r hr => ?_⟩, ?_⟩
  · obtain ⟨closer, -, rfl⟩ := List.mem_map.1 hr
    exact hemit _ (by decide) _ .exit
  · exact ⟨Procedure.takes_scanIf _ _, hpredefined _ (by simp), hpredefined _ (by simp),
      hpredefined _ (by simp), (Action.takes_emit h (by decide)).andThen (.score 2),
      hemit _ (by decide) _ (.score 2), Procedure.takes_scanIf _ _, Procedure.takes_scanIf _ _,
      takes_identifier h, takes_number h⟩
  · obtain ⟨nesting, -, rfl⟩ := List.mem_map.1 hr
    exact hemit _ (by decide) _ (.enter _)
  · exact ⟨hemit _ (by decide) _ (.score _), hpredefined _ (by simp), hpredefined _ (by simp),
      hemit _ (by decide) _ (.score _)⟩

theorem Language.C.takes_grammar : (grammar : Grammar ε).Takes named := by
  intro modes hmodes mode hmode
  cases hmodes
  rcases List.mem_cons.1 hmode with rfl | hmode
  · exact takes_body h none
  · obtain ⟨nesting, -, rfl⟩ := List.mem_map.1 hmode
    exact takes_body h (some nesting.closer)

theorem Language.Ini.takes_grammar : (grammar : Grammar ε).Takes named := by
  have hemit : ∀ kinds : List TokenType, (∀ kind ∈ kinds, ¬ kind.IsA .stop) → ∀ next : Action ε,
      next.Takes named → ((Action.emit kinds).andThen next).Takes named :=
    fun kinds hkinds next hnext => (Action.takes_emit h hkinds).andThen hnext
  intro modes hmodes
  cases hmodes
  simp only [root, value, List.forall_mem_cons, List.not_mem_nil, false_implies, implies_true,
    and_true]
  refine ⟨⟨Procedure.takes_scanIf _ _, Rule.takes_predefined h _ (by simp), ?_, ?_, ?_, ?_⟩,
    ?_, ?_, ?_, Procedure.takes_scanIf _ _, ?_, ?_, ?_, ?_⟩
  · exact hemit _ (by decide) _ (.score 1)
  · exact hemit _ (by decide) _ (.score 2)
  · exact (hemit _ (by decide) _ (.score 1)).andThen (.enter "value")
  · exact hemit _ (by decide) _ (.score (-1))
  · exact Action.takes_emit h (by decide)
  · exact hemit _ (by decide) _ .exit
  · exact Action.takes_emit h (by decide)
  · exact Action.takes_emit h (by decide)
  · exact Action.takes_emit h (by decide)
  · exact Action.takes_emit h (by decide)
  · exact Action.takes_emit h (by decide)

end Languages

theorem Language.C.plain_grammar : (grammar : Grammar ε).Plain :=
  (takes_grammar fun _ h => h).plain

theorem Language.Ini.plain_grammar : (grammar : Grammar ε).Plain :=
  (takes_grammar fun _ h => h).plain

theorem Rule.Takes.compile {r : Rule ε} {c : CompiledRule ε} (hr : r.Takes named)
    (h : r.compile = .ok c) : c.Takes named := by
  obtain ⟨source, action, p, rfl, -, rfl⟩ | ⟨p, rfl, rfl⟩ := compile_cases h
  · exact hr
  · exact hr

theorem Engine.plain_of_takes {modes : List (CompiledMode ε)}
    (h : ∀ mode ∈ modes, ∀ r ∈ mode.rules, r.Takes named) : Plain modes :=
  fun mode hmode r hr => (h mode hmode r hr).plain

theorem Grammar.Takes.compile {g : Grammar ε} {modes : List (CompiledMode ε)}
    (hg : g.Takes named) (h : g.compile = .ok modes) :
    ∀ mode ∈ modes, ∀ r ∈ mode.rules, r.Takes named :=
  forall_compile (fun _ _ hr hrc => hr.compile hrc) hg h

namespace State

/-- Text has gone from the front of the input to the back of the queue, under types that satisfy
`named` or are no stops. -/
def Transfer (named : TokenType → Prop) (s s' : State ε) : Prop :=
  ∃ queued, s'.queue.toList = s.queue.toList ++ queued ∧
    Token.join queued ++ s'.text = s.text ∧
    ∀ token ∈ queued, ∃ kind, token.kind = some kind ∧ (named kind ∨ ¬ kind.IsA .stop)

variable {s s' t : State ε} {n : Nat}

theorem transfer_of_eq (hq : s'.queue = s.queue) (ht : s'.text = s.text) :
    Transfer named s s' :=
  ⟨[], by simp [hq], by simp [ht], by simp⟩

theorem Transfer.refl (s : State ε) : Transfer named s s := transfer_of_eq rfl rfl

theorem Transfer.trans (h : Transfer named s s') (h' : Transfer named s' t) :
    Transfer named s t := by
  obtain ⟨first, hq, ht, hk⟩ := h
  obtain ⟨more, hq', ht', hk'⟩ := h'
  refine ⟨first ++ more, by simp [hq, hq'], ?_, ?_⟩
  · rw [Token.join_append, List.append_assoc, ht', ht]
  · intro token htoken
    rcases List.mem_append.1 htoken with h | h
    · exact hk token h
    · exact hk' token h

theorem transfer_push {token : Token} {rest : Text} {kind : TokenType}
    (hkind : token.kind = some kind) (hnamed : named kind ∨ ¬ kind.IsA .stop)
    (htext : token.text ++ rest = s.text) :
    Transfer named s ({ s with text := rest }.push token) :=
  ⟨[token], by simp [push], by simpa [push] using htext, by simpa [hkind] using hnamed⟩

theorem emit_cases {kind : TokenType} (h : s.emit kind n = .ok s') :
    ∃ head tail, s.text.splitBytes? n = some (head, tail) ∧
      s' = { s with text := tail }.push ⟨some kind, head⟩ := by
  simp only [emit, consume] at h
  cases hsplit : s.text.splitBytes? n with
  | none => rw [hsplit] at h; cases h
  | some parts =>
    rw [hsplit] at h
    exact ⟨parts.1, parts.2, rfl, (Except.ok.inj h).symm⟩

theorem transfer_of_emit {kind : TokenType} (hnamed : named kind ∨ ¬ kind.IsA .stop)
    (h : s.emit kind n = .ok s') : Transfer named s s' := by
  obtain ⟨head, tail, hsplit, rfl⟩ := emit_cases h
  exact transfer_push rfl hnamed (Text.append_of_splitBytes? hsplit)

theorem transfer_accept {found : Option (Token × Text)}
    (h : ∀ token rest, found = some (token, rest) → token.text ++ rest = s.text ∧
      ∃ kind, token.kind = some kind ∧ (named kind ∨ ¬ kind.IsA .stop)) :
    Transfer named s (s.accept found).2 := by
  cases found with
  | none => exact .refl s
  | some p =>
    obtain ⟨htext, kind, hkind, hnamed⟩ := h p.1 p.2 rfl
    simp only [accept]
    split
    · exact .refl s
    · exact transfer_push hkind hnamed htext

theorem transfer_scan (scanner : Scanner) : Transfer named s (s.scan scanner).2 := by
  refine transfer_accept fun token rest h => ⟨Scanner.append_of_run h, ?_⟩
  obtain ⟨kind, hmem, hkind⟩ := Scanner.kind_of_run h
  exact ⟨kind, hkind, .inr (scanner.not_stop_of_mem_kinds kind hmem)⟩

theorem transfer_of_scanBytes {kind : TokenType} {fired : Bool} (hnamed : named kind)
    (h : s.scanBytes kind n = .ok (fired, s')) : Transfer named s s' := by
  unfold scanBytes at h
  split at h
  · next hsplit =>
    have hs : (s.accept _).2 = s' := congrArg Prod.snd (Except.ok.inj h)
    rw [← hs]
    refine transfer_accept ?_
    intro token rest hfound
    cases hfound
    exact ⟨Text.append_of_splitBytes? hsplit, kind, rfl, .inl hnamed⟩
  · cases h

theorem transfer_of_enter {name : String} (h : s.enter name = .ok s') :
    Transfer named s s' := by
  unfold enter at h
  split at h <;> cases h
  exact transfer_of_eq rfl rfl

theorem transfer_of_exit (h : s.exit = .ok s') : Transfer named s s' := by
  unfold exit at h
  split at h <;> cases h
  exact transfer_of_eq rfl rfl

theorem emitAll_transfer {pieces : List (TokenType × Nat)}
    (h : ∀ piece ∈ pieces, named piece.1 ∨ ¬ piece.1.IsA .stop) (s : State ε) :
    Transfer named s (s.emitAll pieces).2 := by
  induction pieces generalizing s with
  | nil => exact .refl s
  | cons piece pieces ih =>
    simp only [emitAll]
    split
    · next s' hs =>
      have hmore : ∀ p ∈ pieces, named p.1 ∨ ¬ p.1.IsA .stop :=
        fun p hp => h p (List.mem_cons_of_mem _ hp)
      exact (transfer_of_emit (h piece List.mem_cons_self) hs).trans (ih hmore s')
    · exact .refl s

end State

open State

theorem Procedure.run_transfer {p : Procedure ε} (hp : p.Takes named) (s : State ε) :
    Transfer named s (p.run s).2 := by
  induction p generalizing s with
  | done | fail => exact .refl s
  | inspect next ih => exact ih _ (hp _) s
  | push | consume | intervene => exact hp.elim
  | emit kind n next ih =>
    simp only [run]
    split
    · next s' h => exact (transfer_of_emit (.inl hp.1) h).trans (ih hp.2 s')
    · exact .refl s
  | scan scanner next ih => exact (transfer_scan scanner).trans (ih _ (hp _) _)
  | scanBytes kind n next ih =>
    simp only [run]
    split
    · next fired s' h => exact (transfer_of_scanBytes hp.1 h).trans (ih fired (hp.2 fired) s')
    · exact .refl s
  | addScore delta next ih => exact (transfer_of_eq rfl rfl).trans (ih hp (s.addScore delta))
  | enter mode next ih =>
    simp only [run]
    split
    · next s' h => exact (transfer_of_enter h).trans (ih none (hp none) s')
    · exact ih _ (hp _) s
  | exit next ih =>
    simp only [run]
    split
    · next s' h => exact (transfer_of_exit h).trans (ih none (hp none) s')
    · exact ih _ (hp _) s
  | modifyExtension f next ih => exact (transfer_of_eq rfl rfl).trans (ih hp _)

theorem mem_of_groupSpans {stop : Nat} {groups : List (TokenType × Option Pattern.Span)}
    {spans : List (TokenType × Pattern.Span)} (h : groupSpans stop groups = .ok spans)
    {kind : TokenType} {span : Pattern.Span} (hmem : (kind, span) ∈ spans) :
    (kind, some span) ∈ groups := by
  fun_induction groupSpans stop groups generalizing spans with
  | case1 => cases h; cases hmem
  | case2 stop k groups ih => exact List.mem_cons_of_mem _ (ih h hmem)
  | case3 stop k sp groups _ ih => exact List.mem_cons_of_mem _ (ih h hmem)
  | case4 => cases h
  | case5 stop k sp groups _ _ ih =>
    cases hmore : groupSpans sp.stop groups with
    | error e => rw [hmore] at h; cases h
    | ok more =>
      rw [hmore] at h
      cases h
      rcases List.mem_cons.1 hmem with heq | hmem
      · cases heq; exact List.mem_cons_self
      · exact List.mem_cons_of_mem _ (ih hmore hmem)

theorem mem_of_pieces {start stop : Nat} {spans : List (TokenType × Pattern.Span)}
    {piece : TokenType × Nat} (h : piece ∈ pieces start stop spans) :
    piece.1 = .text ∨ ∃ span, (piece.1, span) ∈ spans := by
  induction spans generalizing start piece with
  | nil =>
    simp only [pieces] at h
    split at h
    · exact .inl (by simp [List.mem_singleton.1 h])
    · cases h
  | cons first spans ih =>
    have hmore : ∀ q ∈ (first.1, first.2.stop - first.2.start) :: pieces first.2.stop stop spans,
        q.1 = .text ∨ ∃ span, (q.1, span) ∈ first :: spans := by
      intro q hq
      rcases List.mem_cons.1 hq with rfl | hq
      · exact .inr ⟨first.2, List.mem_cons_self⟩
      · rcases ih hq with h | ⟨span, hspan⟩
        · exact .inl h
        · exact .inr ⟨span, List.mem_cons_of_mem _ hspan⟩
    simp only [pieces] at h
    split at h
    · rcases List.mem_cons.1 h with rfl | h
      · exact .inl rfl
      · exact hmore piece h
    · exact hmore piece h

/-- An emission queues pieces of the types that it names and of plain text. -/
theorem mem_of_emission {kinds : List TokenType} {captures : Pattern.Captures}
    {all : List (TokenType × Nat)} (h : emission kinds captures = .ok all)
    {piece : TokenType × Nat} (hmem : piece ∈ all) : piece.1 = .text ∨ piece.1 ∈ kinds := by
  simp only [emission] at h
  split at h
  · cases h
  · split at h
    · cases h
      split at hmem
      · cases hmem
      · obtain ⟨kind, hkind, rfl⟩ := List.mem_map.1 hmem
        exact .inr hkind
    · cases hspans : groupSpans 0 (kinds.zip captures.groups) with
      | error e => rw [hspans] at h; cases h
      | ok spans =>
        rw [hspans] at h
        have hall : (if captures.span.stop = 0 then [] else pieces 0 captures.span.stop spans)
            = all := Except.ok.inj h
        rw [← hall] at hmem
        split at hmem
        · cases hmem
        · rcases mem_of_pieces hmem with h | ⟨span, hspan⟩
          · exact .inl h
          · exact .inr (List.of_mem_zip (mem_of_groupSpans hspans hspan)).1

namespace Action

mutual

theorem exec_transfer (captures : Pattern.Captures) :
    ∀ {action : Action ε}, action.Takes named → ∀ s : State ε,
      Transfer named s (exec captures action s).2
  | emit kinds, .emit hkinds, s => by
    simp only [exec]
    split
    · exact .refl s
    · exact .refl s
    · next pieces _ h =>
      refine emitAll_transfer (fun piece hpiece => ?_) s
      rcases mem_of_emission h hpiece with hkind | hkind
      · exact .inr (hkind ▸ by decide)
      · exact .inl (hkinds _ hkind)
  | score _, _, _ => transfer_of_eq rfl rfl
  | enter mode, _, s => by
    simp only [exec]
    split
    · next s' h => exact transfer_of_enter h
    · exact .refl s
  | exit, _, s => by
    simp only [exec]
    split
    · next s' h => exact transfer_of_exit h
    · exact .refl s
  | sequence actions, .sequence h, s => by
    simpa only [exec] using execAll_transfer captures false h s
  | custom procedure, .custom h, s => by
    simpa only [exec] using Procedure.run_transfer (h captures) s

theorem execAll_transfer (captures : Pattern.Captures) (fired : Bool) :
    ∀ {actions : List (Action ε)}, (∀ action ∈ actions, action.Takes named) → ∀ s : State ε,
      Transfer named s (execAll captures fired actions s).2
  | [], _, s => .refl s
  | action :: actions, h, s => by
    have haction := exec_transfer captures (h action List.mem_cons_self) s
    simp only [execAll]
    split
    · next fired' s' hs =>
      rw [hs] at haction
      have hmore : ∀ a ∈ actions, a.Takes named := fun a ha => h a (List.mem_cons_of_mem _ ha)
      exact haction.trans (execAll_transfer captures fired' hmore s')
    · next e s' hs => rwa [hs] at haction

end

end Action

theorem CompiledRule.exec_transfer {r : CompiledRule ε} (hr : r.Takes named) (s : State ε) :
    Transfer named s (r.exec s).2 := by
  cases r with
  | pattern p action =>
    simp only [exec]
    split
    · exact Action.exec_transfer _ hr s
    · exact .refl s
  | procedure p => exact Procedure.run_transfer hr s

end ModalLexer
