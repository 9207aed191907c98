import ModalLexer.Queue
import ModalLexer.Scanner.Basic

/-! # The state of a scan

A scan holds the text that is left, the queue of tokens not handed out yet, the current mode with
the modes to return to, and the score. This module has the operations on it that rules may use; each
either succeeds or fails and leaves the state as it was. The score is a machine word, so a sum that
is too large for it wraps around, and the state remembers that this has happened.
-/

namespace ModalLexer

/-- Whether a computation has a result with some property is found out by running it. -/
instance decidableExistsOk {α β : Type} (x : Except α β) (p : β → Prop) [DecidablePred p] :
    Decidable (∃ b, x = .ok b ∧ p b) :=
  match x with
  | .error _ => .isFalse fun ⟨_, h, _⟩ => nomatch h
  | .ok b => decidable_of_iff (p b) ⟨fun h => ⟨b, rfl, h⟩, fun ⟨_, h, hp⟩ => Except.ok.inj h ▸ hp⟩

inductive RuleError where
  | typeCountMismatch (expected got : Nat)
  | overlappingGroups
  | unknownMode (grammar mode : String)
  | emptyModeStack
  | noProgress (passes : Nat)
  | custom (message : String)
deriving DecidableEq, Repr

def RuleError.message : RuleError → String
  | typeCountMismatch expected got =>
    s!"invalid number of token types (expected {expected}, got {got})"
  | overlappingGroups => "overlapping regex groups"
  | unknownMode grammar mode => "grammar '" ++ grammar ++ "' has no mode '" ++ mode ++ "'"
  | emptyModeStack => "pop empty mode stack"
  | noProgress passes => s!"no progress after {passes} rule passes"
  | custom message => message

/-- Why a request is abandoned. -/
inductive Fault where
  | splitCharacter
  /-- A pass in a mode that does not exist. -/
  | missingMode
  /-- A score that leaves the machine word, where additions are checked. -/
  | overflow
deriving DecidableEq, Repr

def Fault.message : Fault → String
  | splitCharacter => "a rule cut the text inside a character"
  | missingMode => "the scan is in a mode that does not exist"
  | overflow => "the score left the machine word"

/-- What stops a rule: an error, which becomes a token, or a fault. -/
inductive Interruption where
  | error (e : RuleError)
  | fault (f : Fault)
deriving DecidableEq, Repr

/-- The state of a scan. A scan may carry data of type `ε` for its rules. -/
structure State (ε : Type) where
  grammar : String
  /-- The names of the modes of the grammar, in order. -/
  modeNames : List String
  text : Text
  markers : List Text := []
  queue : Queue Token := ∅
  mode : Nat := 0
  /-- The indexes of the modes to return to, the latest first. -/
  stack : List Nat := []
  /-- The index of the rule tried last. -/
  rule : Nat := 0
  score : Int64 := 0
  /-- Whether the score has ever wrapped around. -/
  overflowed : Bool := false
  /-- The token that ended the scan. -/
  stop : Option Token := none
  extension : Option ε := none

/-- What a rule leaves: whether it fired, and the state with all its effects. -/
abbrev Outcome (ε : Type) := Except Interruption Bool × State ε

namespace State

variable {ε : Type}

def modeName (s : State ε) : String := s.modeNames.getD s.mode ""

def depth (s : State ε) : Nat := s.stack.length

def isHalted (s : State ε) : Bool := s.stop.isSome

/-- The current mode and the modes to return to exist. -/
structure InModes (s : State ε) : Prop where
  mode : s.mode < s.modeNames.length
  stack : ∀ i ∈ s.stack, i < s.modeNames.length

/-- Adds stop markers behind those already there. Empty markers are dropped. -/
def addMarkers (s : State ε) (markers : List Text) : State ε :=
  { s with markers := s.markers ++ markers.filter (!·.isEmpty) }

def push (s : State ε) (token : Token) : State ε := { s with queue := s.queue.push token }

/-- Takes `n` bytes off the text, or all of it if there are fewer. -/
def consume (s : State ε) (n : Nat) : Except Fault (Text × State ε) :=
  match s.text.splitBytes? n with
  | some (head, tail) => .ok (head, { s with text := tail })
  | none => .error .splitCharacter

/-- Queues `n` bytes of the text as a token. -/
def emit (s : State ε) (kind : TokenType) (n : Nat) : Except Fault (State ε) := do
  let (text, s) ← s.consume n
  return s.push ⟨some kind, text⟩

/-- Queues a token that was taken off the text, unless there is none or it is empty. -/
def accept (s : State ε) : Option (Token × Text) → Bool × State ε
  | none => (false, s)
  | some (token, rest) =>
    if token.isEmpty then (false, s) else (true, { s with text := rest }.push token)

def scan (s : State ε) (scanner : Scanner) : Bool × State ε := s.accept (scanner.run s.text)

/-- Takes `n` bytes as a token, unless it would be empty. -/
def scanBytes (s : State ε) (kind : TokenType) (n : Nat) : Except Fault (Bool × State ε) :=
  match s.text.splitBytes? n with
  | some (head, tail) => .ok (s.accept (some (⟨some kind, head⟩, tail)))
  | none => .error .splitCharacter

/-- Adds to the score, which wraps around if the sum is no machine word. -/
def addScore (s : State ε) (delta : Int64) : State ε :=
  { s with
    score := s.score + delta
    overflowed := s.overflowed || (s.score + delta).toInt != s.score.toInt + delta.toInt }

/-- Switches to the mode with the given name and keeps the current one to return to. -/
def enter (s : State ε) (name : String) : Except RuleError (State ε) :=
  match s.modeNames.idxOf? name with
  | some mode => .ok { s with mode, stack := s.mode :: s.stack }
  | none => .error (.unknownMode s.grammar name)

/-- Returns to the mode kept last. -/
def exit (s : State ε) : Except RuleError (State ε) :=
  match s.stack with
  | mode :: stack => .ok { s with mode, stack }
  | [] => .error .emptyModeStack

/-- Queues the token that reports an error of the rule tried last in the given mode. -/
def fail (s : State ε) (e : RuleError) (mode : String) : State ε :=
  let message :=
    e.message ++ " (grammar='" ++ s.grammar ++ "', mode='" ++ mode ++ s!"', rule={s.rule})"
  s.push ⟨some .stopError, message.toList⟩

variable {s s' : State ε} {n : Nat}

theorem text_push (token : Token) : (s.push token).text = s.text := rfl

theorem text_fail (e : RuleError) (mode : String) : (s.fail e mode).text = s.text := rfl

theorem consume_suffix {head : Text} (h : s.consume n = .ok (head, s')) : s'.text <:+ s.text := by
  simp only [consume] at h
  split at h
  · next hsplit => cases h; exact ⟨_, Text.append_of_splitBytes? hsplit⟩
  · cases h

theorem emit_suffix {kind : TokenType} (h : s.emit kind n = .ok s') : s'.text <:+ s.text := by
  simp only [emit] at h
  cases hc : s.consume n with
  | error => rw [hc] at h; cases h
  | ok p =>
    rw [hc] at h
    have hs : p.2.push ⟨some kind, p.1⟩ = s' := Except.ok.inj h
    rw [← hs, text_push]
    exact consume_suffix hc

theorem accept_suffix {found : Option (Token × Text)}
    (h : ∀ token rest, found = some (token, rest) → rest <:+ s.text) :
    (s.accept found).2.text <:+ s.text := by
  cases found with
  | none => exact List.suffix_refl _
  | some p =>
    simp only [accept]
    split
    · exact List.suffix_refl _
    · exact h p.1 p.2 rfl

theorem scan_suffix (scanner : Scanner) : (s.scan scanner).2.text <:+ s.text :=
  accept_suffix fun token _ h => ⟨token.text, Scanner.append_of_run h⟩

theorem scanBytes_suffix {kind : TokenType} {fired : Bool}
    (h : s.scanBytes kind n = .ok (fired, s')) : s'.text <:+ s.text := by
  simp only [scanBytes] at h
  split at h
  · next hsplit =>
    simp only [Except.ok.injEq] at h
    rw [← show (s.accept _).2 = s' from congrArg Prod.snd h]
    refine accept_suffix fun _ _ heq => ?_
    cases heq
    exact ⟨_, Text.append_of_splitBytes? hsplit⟩
  · cases h

theorem enter_text {name : String} (h : s.enter name = .ok s') : s'.text = s.text := by
  simp only [enter] at h
  split at h <;> cases h
  rfl

theorem exit_text (h : s.exit = .ok s') : s'.text = s.text := by
  simp only [exit] at h
  split at h <;> cases h
  rfl

end State

end ModalLexer
