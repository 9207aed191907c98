import ModalLexer.Proofs.Engine.Stopping
import ModalLexer.Proofs.Engine.Transfer
import ModalLexer.Taxonomy.Basic

/-! # Where the types of tokens come from

A token has a type that a rule names, or a built-in type: scanners and the engine name no others. A
rule may also queue a token that it has seen before, so what it may name is asked only for states
whose own tokens have such types.
-/

namespace ModalLexer

variable {ε : Type} {named : TokenType → Prop}

/-- The type of the token, if it has one, satisfies `named`. -/
def Token.Named (named : TokenType → Prop) (token : Token) : Prop :=
  ∀ kind ∈ token.kind, named kind

/-- The types of all tokens that the state holds satisfy `named`. -/
structure State.Named (named : TokenType → Prop) (s : State ε) : Prop where
  queue : ∀ token ∈ s.queue.toList, token.Named named
  stop : ∀ token ∈ s.stop, token.Named named

/-- The types that the procedure names satisfy `named`, in states whose tokens do. -/
def Procedure.Names (named : TokenType → Prop) : Procedure ε → Prop
  | done _ | fail _ => True
  | inspect next => ∀ s, s.Named named → (next s).Names named
  | push token next => token.Named named ∧ next.Names named
  | consume _ next => ∀ text, (next text).Names named
  | emit kind _ next => named kind ∧ next.Names named
  | scan _ next => ∀ fired, (next fired).Names named
  | scanBytes kind _ next => named kind ∧ ∀ fired, (next fired).Names named
  | addScore _ next => next.Names named
  | enter _ next | exit next => ∀ e?, (next e?).Names named
  | modifyExtension _ next => next.Names named
  | intervene i next => ∀ s, s.Named named → (i.run s).2.Named named ∧
    ∀ token?, (i.run s).1 = .ok token? → (next token?).Names named

inductive Action.Names (named : TokenType → Prop) : Action ε → Prop
  | emit {kinds : List TokenType} (h : ∀ kind ∈ kinds, named kind) : Names named (.emit kinds)
  | score (delta : Int64) : Names named (.score delta)
  | enter (mode : String) : Names named (.enter mode)
  | exit : Names named .exit
  | sequence {actions : List (Action ε)} (h : ∀ action ∈ actions, Names named action) :
    Names named (.sequence actions)
  | custom {procedure : Pattern.Captures → Procedure ε}
    (h : ∀ captures, (procedure captures).Names named) : Names named (.custom procedure)

def Rule.Names (named : TokenType → Prop) : Rule ε → Prop
  | pattern _ action => action.Names named
  | procedure p => p.Names named

def CompiledRule.Names (named : TokenType → Prop) : CompiledRule ε → Prop
  | pattern _ action => action.Names named
  | procedure p => p.Names named

/-- The types that the rules of the grammar name satisfy `named`. -/
def Grammar.Names (named : TokenType → Prop) (g : Grammar ε) : Prop :=
  ∀ modes, g.modes? = some modes → ∀ mode ∈ modes, ∀ r ∈ mode.rules, r.Names named

theorem Rule.Names.compile {r : Rule ε} {c : CompiledRule ε} (hr : r.Names named)
    (h : r.compile = .ok c) : c.Names named := by
  obtain ⟨source, action, p, rfl, -, rfl⟩ | ⟨p, rfl, rfl⟩ := compile_cases h
  · exact hr
  · exact hr

theorem Grammar.Names.compile {g : Grammar ε} {modes : List (CompiledMode ε)}
    (hg : g.Names named) (h : g.compile = .ok modes) :
    ∀ mode ∈ modes, ∀ r ∈ mode.rules, r.Names named :=
  forall_compile (fun _ _ hr hrc => hr.compile hrc) hg h

theorem Scanner.mem_builtinTypes (scanner : Scanner) : ∀ kind ∈ scanner.kinds,
    kind ∈ builtinTypes := by
  cases scanner <;> decide

namespace State

variable {s s' : State ε} {n : Nat} {kind : TokenType}

theorem Named.of_eq (hs : s.Named named) (hqueue : s'.queue = s.queue) (hstop : s'.stop = s.stop) :
    s'.Named named :=
  ⟨hqueue ▸ hs.queue, hstop ▸ hs.stop⟩

theorem Named.push {token : Token} (hs : s.Named named) (htoken : token.Named named) :
    (s.push token).Named named := by
  refine ⟨fun t ht => ?_, hs.stop⟩
  rw [State.push, Queue.toList_push, List.mem_append, List.mem_singleton] at ht
  rcases ht with ht | rfl
  · exact hs.queue t ht
  · exact htoken

theorem named_kind {text : Text} (h : named kind) : Token.Named named ⟨some kind, text⟩ := by
  rintro _ ⟨⟩
  exact h

theorem Named.consume {head : Text} (hs : s.Named named) (h : s.consume n = .ok (head, s')) :
    s'.Named named := by
  unfold State.consume at h
  split at h <;> cases h
  exact hs.of_eq rfl rfl

theorem Named.emit (hs : s.Named named) (hkind : named kind) (h : s.emit kind n = .ok s') :
    s'.Named named := by
  obtain ⟨head, tail, -, rfl⟩ := emit_cases h
  exact Named.push (hs.of_eq rfl rfl) (named_kind hkind)

theorem Named.accept {found : Option (Token × Text)} (hs : s.Named named)
    (h : ∀ token rest, found = some (token, rest) → token.Named named) :
    (s.accept found).2.Named named := by
  cases found with
  | none => exact hs
  | some p =>
    simp only [State.accept]
    split
    · exact hs
    · exact Named.push (hs.of_eq rfl rfl) (h p.1 p.2 rfl)

theorem Named.scanBytes {fired : Bool} (hs : s.Named named) (hkind : named kind)
    (h : s.scanBytes kind n = .ok (fired, s')) : s'.Named named := by
  unfold State.scanBytes at h
  split at h
  · have hs' : (s.accept _).2 = s' := congrArg Prod.snd (Except.ok.inj h)
    rw [← hs']
    refine hs.accept fun token rest hfound => ?_
    cases hfound
    exact named_kind hkind
  · cases h

theorem Named.enter {name : String} (hs : s.Named named) (h : s.enter name = .ok s') :
    s'.Named named := by
  obtain ⟨mode, -, rfl⟩ := enter_cases h
  exact hs.of_eq rfl rfl

theorem Named.exit (hs : s.Named named) (h : s.exit = .ok s') : s'.Named named := by
  obtain ⟨mode, stack, -, rfl⟩ := exit_cases h
  exact hs.of_eq rfl rfl

theorem Named.emitAll {pieces : List (TokenType × Nat)} (hs : s.Named named)
    (h : ∀ piece ∈ pieces, named piece.1) : (s.emitAll pieces).2.Named named := by
  induction pieces generalizing s with
  | nil => exact hs
  | cons piece pieces ih =>
    obtain ⟨hpiece, hpieces⟩ := List.forall_mem_cons.1 h
    simp only [State.emitAll]
    split
    · next s' hemit => exact ih (hs.emit hpiece hemit) hpieces
    · exact hs

end State

section Rules

variable (hbuiltin : ∀ kind ∈ builtinTypes, named kind) {s : State ε}
include hbuiltin

theorem State.Named.scan (hs : s.Named named) (scanner : Scanner) :
    (s.scan scanner).2.Named named := by
  refine hs.accept fun token rest hfound kind hkind => ?_
  obtain ⟨k, hmem, hk⟩ := Scanner.kind_of_run hfound
  obtain rfl : k = kind := Option.some.inj (hk.symm.trans hkind)
  exact hbuiltin k (scanner.mem_builtinTypes k hmem)

theorem Procedure.run_named {p : Procedure ε} (hp : p.Names named) (hs : s.Named named) :
    (p.run s).2.Named named := by
  induction p generalizing s with
  | done | fail => exact hs
  | inspect next ih => exact ih _ (hp _ (hs.of_eq rfl rfl)) hs
  | push token next ih => exact ih hp.2 (hs.push hp.1)
  | consume n next ih =>
    simp only [run]
    split
    · next text s' h => exact ih text (hp text) (hs.consume h)
    · exact hs
  | emit kind n next ih =>
    simp only [run]
    split
    · next s' h => exact ih hp.2 (hs.emit hp.1 h)
    · exact hs
  | scan scanner next ih => exact ih _ (hp _) (hs.scan hbuiltin scanner)
  | scanBytes kind n next ih =>
    simp only [run]
    split
    · next fired s' h => exact ih fired (hp.2 fired) (hs.scanBytes hp.1 h)
    · exact hs
  | addScore delta next ih => exact ih hp (hs.of_eq rfl rfl)
  | enter mode next ih =>
    simp only [run]
    split
    · next s' h => exact ih none (hp none) (hs.enter h)
    · exact ih _ (hp _) hs
  | exit next ih =>
    simp only [run]
    split
    · next s' h => exact ih none (hp none) (hs.exit h)
    · exact ih _ (hp _) hs
  | modifyExtension f next ih => exact ih hp (hs.of_eq rfl rfl)
  | intervene i next ih =>
    obtain ⟨hkept, hnext⟩ := hp s hs
    simp only [run]
    split
    · next token? s' h =>
      rw [h] at hkept hnext
      exact ih token? (hnext token? rfl) hkept
    · next f s' h => rwa [h] at hkept

end Rules

namespace Action

mutual

theorem exec_named (hbuiltin : ∀ kind ∈ builtinTypes, named kind) (captures : Pattern.Captures) :
    ∀ {action : Action ε}, action.Names named → ∀ {s : State ε}, s.Named named →
      (exec captures action s).2.Named named
  | emit kinds, .emit hkinds, s, hs => by
    simp only [exec]
    split
    · exact hs
    · exact hs
    · next pieces _ hpieces =>
      refine hs.emitAll fun piece hpiece => ?_
      rcases mem_of_emission hpieces hpiece with hkind | hkind
      · exact hbuiltin _ (hkind ▸ by decide)
      · exact hkinds _ hkind
  | score _, _, _, hs => hs.of_eq rfl rfl
  | enter mode, _, s, hs => by
    simp only [exec]
    split
    · next s' h => exact hs.enter h
    · exact hs
  | exit, _, s, hs => by
    simp only [exec]
    split
    · next s' h => exact hs.exit h
    · exact hs
  | sequence actions, .sequence h, s, hs => by
    simpa only [exec] using execAll_named hbuiltin captures false h hs
  | custom procedure, .custom h, s, hs => by
    simpa only [exec] using Procedure.run_named hbuiltin (h captures) hs

theorem execAll_named (hbuiltin : ∀ kind ∈ builtinTypes, named kind) (captures : Pattern.Captures)
    (fired : Bool) : ∀ {actions : List (Action ε)}, (∀ action ∈ actions, action.Names named) →
      ∀ {s : State ε}, s.Named named → (execAll captures fired actions s).2.Named named
  | [], _, _, hs => hs
  | action :: actions, h, s, hs => by
    obtain ⟨hfirst, hmore⟩ := List.forall_mem_cons.1 h
    have haction := exec_named hbuiltin captures hfirst hs
    simp only [execAll]
    split
    · next fired' s' hexec =>
      rw [hexec] at haction
      exact execAll_named hbuiltin captures fired' hmore haction
    · next e s' hexec => rwa [hexec] at haction

end

end Action

theorem CompiledRule.exec_named (hbuiltin : ∀ kind ∈ builtinTypes, named kind)
    {r : CompiledRule ε} (hr : r.Names named) {s : State ε} (hs : s.Named named) :
    (r.exec s).2.Named named := by
  cases r with
  | pattern p action =>
    simp only [exec]
    split
    · exact Action.exec_named hbuiltin _ hr hs
    · exact hs
  | procedure p => exact Procedure.run_named hbuiltin hr hs

namespace Engine

section Runs

variable (hbuiltin : ∀ kind ∈ builtinTypes, named kind) {e : Engine ε}
include hbuiltin

theorem preserves_named {modes : List (CompiledMode ε)}
    (hmodes : ∀ mode ∈ modes, ∀ r ∈ mode.rules, r.Names named) :
    Preserves modes (State.Named named) where
  exec mode hmode rule hrule _ _ hs :=
    CompiledRule.exec_named hbuiltin (hmodes mode hmode rule hrule) (hs.of_eq rfl rfl)
  cut _ hs := hs.of_eq rfl rfl
  push kind text hkind hs := by
    have hmem : ∀ kind ∈ [TokenType.stopError, .stopEndOfString, .stopLexer],
        kind ∈ builtinTypes := by decide
    exact hs.push (State.named_kind (hbuiltin kind (hmem kind hkind)))

theorem dequeue_named {s : State ε} (hs : s.Named named) : (dequeue s).2.Named named := by
  have hstop : ∀ {u : State ε} {token : Token}, u.Named named → token.Named named →
      State.Named named { u with stop := some token } := by
    intro u token hu htoken
    refine ⟨hu.queue, ?_⟩
    rintro _ ⟨⟩
    exact htoken
  cases hpop : s.queue.pop? with
  | none =>
    simp only [dequeue, hpop]
    split
    · exact hstop hs (State.named_kind (hbuiltin _ (by decide)))
    · exact hs
  | some p =>
    have hlist := Queue.toList_of_pop? hpop
    have htaken : State.Named named { s with queue := p.2 } :=
      ⟨fun token htoken => hs.queue token (hlist ▸ List.mem_cons_of_mem _ htoken), hs.stop⟩
    simp only [dequeue, hpop]
    split
    · exact hstop htaken (hs.queue p.1 (hlist ▸ List.mem_cons_self))
    · exact htaken

/-- The stop of a run has a type that a rule names, or a built-in one. -/
theorem named_stop_of_run {limit : Nat} {r : Run ε}
    (hmodes : ∀ mode ∈ e.modes, ∀ r ∈ mode.rules, r.Names named) (he : e.state.Named named)
    (hr : e.run limit = .ok r) : r.stop.Named named :=
  ((preserves_named hbuiltin hmodes).run (dequeue_named hbuiltin) hr he).stop r.stop
    (stop_of_run hr).2

end Runs

end Engine

end ModalLexer
