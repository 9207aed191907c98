import ModalLexer.Pattern.Basic
import ModalLexer.Rule.Procedure

/-! # Actions

What a pattern rule does with a match. Actions compose in sequence: a sequence stops at the first
error and otherwise has the result of its last step.
-/

namespace ModalLexer

inductive Action (ε : Type) where
  /-- Splits the match into tokens by its groups. Without groups the whole match has the single type
  given; otherwise there is one type for each group, and the text outside them is plain. -/
  | emit (kinds : List TokenType)
  | score (delta : Int64)
  | enter (mode : String)
  | exit
  | sequence (actions : List (Action ε))
  | custom (procedure : Pattern.Captures → Procedure ε)

/-- The stretches that typed groups took, in the order of the groups, without those that took
nothing. Each begins where the one before it ends, or later. -/
def groupSpans (stop : Nat) :
    List (TokenType × Option Pattern.Span) → Except RuleError (List (TokenType × Pattern.Span))
  | [] => .ok []
  | (_, none) :: groups => groupSpans stop groups
  | (kind, some span) :: groups =>
    if span.start = span.stop then groupSpans stop groups
    else if span.start < stop then .error .overlappingGroups
    else (groupSpans span.stop groups).map ((kind, span) :: ·)

/-- The pieces, in bytes, into which typed stretches cut what lies between `start` and `stop`. -/
def pieces (start stop : Nat) : List (TokenType × Pattern.Span) → List (TokenType × Nat)
  | [] => if start < stop then [(.text, stop - start)] else []
  | (kind, span) :: spans =>
    let piece := (kind, span.stop - span.start)
    let more := piece :: pieces span.stop stop spans
    if start < span.start then (.text, span.start - start) :: more else more

/-- The pieces that an emission queues, or nothing for an empty match. -/
def emission (kinds : List TokenType) (captures : Pattern.Captures) :
    Except RuleError (List (TokenType × Nat)) :=
  let stop := captures.span.stop
  let groups := captures.groups.length
  if kinds.length ≠ max 1 groups then .error (.typeCountMismatch (max 1 groups) kinds.length)
  else if groups = 0 then .ok (if stop = 0 then [] else kinds.map fun kind => (kind, stop))
  else do
    let spans ← groupSpans 0 (kinds.zip captures.groups)
    return if stop = 0 then [] else pieces 0 stop spans

/-- Queues the pieces one after the other. -/
def State.emitAll {ε : Type} (s : State ε) : List (TokenType × Nat) → Outcome ε
  | [] => (.ok true, s)
  | (kind, n) :: rest =>
    match s.emit kind n with
    | .ok s => s.emitAll rest
    | .error f => (.error (.fault f), s)

namespace Action

variable {ε : Type}

mutual

def exec (captures : Pattern.Captures) : Action ε → State ε → Outcome ε
  | emit kinds, s =>
    match emission kinds captures with
    | .error e => (.error (.error e), s)
    | .ok [] => (.ok false, s)
    | .ok pieces => s.emitAll pieces
  | score delta, s => (.ok true, s.addScore delta)
  | enter mode, s =>
    match s.enter mode with
    | .ok s => (.ok true, s)
    | .error e => (.error (.error e), s)
  | exit, s =>
    match s.exit with
    | .ok s => (.ok true, s)
    | .error e => (.error (.error e), s)
  | sequence actions, s => execAll captures false actions s
  | custom procedure, s => (procedure captures).run s

/-- Runs the actions in order, where `fired` is the result so far. -/
def execAll (captures : Pattern.Captures) (fired : Bool) : List (Action ε) → State ε → Outcome ε
  | [], s => (.ok fired, s)
  | action :: actions, s =>
    match exec captures action s with
    | (.ok fired, s) => execAll captures fired actions s
    | (.error e, s) => (.error e, s)

end

/-- Every intervention in the procedures of the action satisfies `Q`. -/
inductive Allows (Q : Intervention ε → Prop) : Action ε → Prop
  | emit (kinds : List TokenType) : Allows Q (.emit kinds)
  | score (delta : Int64) : Allows Q (.score delta)
  | enter (mode : String) : Allows Q (.enter mode)
  | exit : Allows Q .exit
  | sequence {actions : List (Action ε)} (h : ∀ action ∈ actions, Allows Q action) :
    Allows Q (.sequence actions)
  | custom {procedure : Pattern.Captures → Procedure ε}
    (h : ∀ captures, (procedure captures).Allows Q) : Allows Q (.custom procedure)

/-- The procedures of the action are plain. -/
def Plain (action : Action ε) : Prop := action.Allows fun _ => False

/-- This action and then `next`. A sequence on the left is extended. -/
def andThen (first next : Action ε) : Action ε :=
  match first with
  | sequence actions => sequence (actions ++ [next])
  | first => sequence [first, next]

mutual

def debug : Action ε → String
  | emit kinds => "Emit([" ++ ", ".intercalate (kinds.map TokenType.debug) ++ "])"
  | score delta => "Score(" ++ toString delta ++ ")"
  | enter mode => "Enter(" ++ quoteString mode ++ ")"
  | exit => "Exit"
  | sequence actions => "Sequence([" ++ ", ".intercalate (debugAll actions) ++ "])"
  | custom _ => "Custom(..)"

def debugAll : List (Action ε) → List String
  | [] => []
  | action :: actions => debug action :: debugAll actions

end

theorem emitAll_suffix (pieces : List (TokenType × Nat)) (s : State ε) :
    (s.emitAll pieces).2.text <:+ s.text := by
  induction pieces generalizing s with
  | nil => exact List.suffix_refl _
  | cons piece pieces ih =>
    simp only [State.emitAll]
    split
    · next s' h => exact (ih s').trans (State.emit_suffix h)
    · exact List.suffix_refl _

section

variable {Q Q' : Intervention ε → Prop} {action : Action ε}

theorem Allows.mono (h : action.Allows Q) (hQ : ∀ i, Q i → Q' i) : action.Allows Q' := by
  induction h with
  | emit kinds => exact .emit kinds
  | score delta => exact .score delta
  | enter mode => exact .enter mode
  | exit => exact .exit
  | sequence _ ih => exact .sequence ih
  | custom h => exact .custom fun captures => (h captures).mono hQ

theorem Plain.allows (h : action.Plain) : action.Allows Q := Allows.mono h fun _ => False.elim

end

mutual

theorem allows_of_forall {Q : Intervention ε → Prop} (h : ∀ i, Q i) :
    ∀ action : Action ε, action.Allows Q
  | emit kinds => .emit kinds
  | score delta => .score delta
  | enter mode => .enter mode
  | exit => .exit
  | sequence actions => .sequence (allows_of_mem h actions)
  | custom procedure => .custom fun captures => (procedure captures).allows_of_forall h

theorem allows_of_mem {Q : Intervention ε → Prop} (h : ∀ i, Q i) :
    ∀ actions : List (Action ε), ∀ action ∈ actions, action.Allows Q
  | [] => by simp
  | action :: actions =>
    List.forall_mem_cons.2 ⟨allows_of_forall h action, allows_of_mem h actions⟩

end

section

variable {R : Text → Text → Prop}

mutual

theorem exec_text (hR : Consuming R) (captures : Pattern.Captures) :
    ∀ {action : Action ε}, (action.Allows fun i => ∀ s, R (i.run s).2.text s.text) →
      ∀ s : State ε, R (exec captures action s).2.text s.text
  | emit kinds, _, s => by
    apply hR.of_suffix
    simp only [exec]
    split
    · exact List.suffix_refl _
    · exact List.suffix_refl _
    · exact emitAll_suffix _ s
  | score _, _, _ => hR.of_suffix (List.suffix_refl _)
  | enter mode, _, s => by
    apply hR.of_suffix
    simp only [exec]
    split
    · next s' h => exact State.enter_text h ▸ List.suffix_refl _
    · exact List.suffix_refl _
  | exit, _, s => by
    apply hR.of_suffix
    simp only [exec]
    split
    · next s' h => exact State.exit_text h ▸ List.suffix_refl _
    · exact List.suffix_refl _
  | sequence actions, .sequence h, s => by
    simpa only [exec] using execAll_text hR captures false h s
  | custom procedure, .custom h, s => by
    simpa only [exec] using Procedure.run_text hR (h captures) s

theorem execAll_text (hR : Consuming R) (captures : Pattern.Captures) (fired : Bool) :
    ∀ {actions : List (Action ε)},
      (∀ action ∈ actions, action.Allows fun i => ∀ s, R (i.run s).2.text s.text) →
      ∀ s : State ε, R (execAll captures fired actions s).2.text s.text
  | [], _, s => hR.of_suffix (List.suffix_refl _)
  | action :: actions, h, s => by
    obtain ⟨hfirst, hmore⟩ := List.forall_mem_cons.1 h
    have haction := exec_text hR captures hfirst s
    simp only [execAll]
    split
    · next fired' s' hexec =>
      rw [hexec] at haction
      exact hR.trans (execAll_text hR captures fired' hmore s') haction
    · next e s' hexec => rwa [hexec] at haction

end

end

end Action

end ModalLexer
