import ModalLexer.Rule.Basic

/-! # Grammars

A grammar is a named list of modes, and a mode is a named list of rules, tried in order. The first
mode is where a scan begins. A grammar is checked when its rules are compiled: it needs a mode,
every mode a name of its own and a rule, and every pattern has to be valid.
-/

namespace ModalLexer

structure Mode (ε : Type) where
  name : String
  rules : List (Rule ε)

structure CompiledMode (ε : Type) where
  name : String
  rules : List (CompiledRule ε)

structure Grammar (ε : Type) where
  name : String
  /-- The modes, or nothing if the grammar has no definition. -/
  modes? : Option (List (Mode ε))

inductive GrammarError where
  | undefined (grammar : String)
  | noModes (grammar : String)
  | emptyMode (grammar mode : String)
  | duplicateMode (grammar mode : String)
  | invalidPattern (grammar mode : String) (rule : Nat) (cause : Pattern.PatternError)
deriving DecidableEq, Repr

namespace GrammarError

/-- What stands for the diagnosis of an invalid pattern. -/
def patternDiagnosis : String := "<regex error>"

def message : GrammarError → String
  | undefined grammar => "grammar '" ++ grammar ++ "' has no initializer"
  | noModes grammar => "grammar '" ++ grammar ++ "' has no modes"
  | emptyMode grammar mode => "mode '" ++ mode ++ "' in grammar '" ++ grammar ++ "' has no rules"
  | duplicateMode grammar mode =>
    "mode '" ++ mode ++ "' is defined twice in grammar '" ++ grammar ++ "'"
  | invalidPattern grammar mode rule _ =>
    patternDiagnosis ++ " (grammar='" ++ grammar ++ "', mode='" ++ mode ++ s!"', rule={rule})"

end GrammarError

namespace Grammar

variable {ε : Type}

/-- Compiles the rules of a mode, numbered from `index`. -/
def compileRules (grammar mode : String) (index : Nat) :
    List (Rule ε) → Except GrammarError (List (CompiledRule ε))
  | [] => .ok []
  | rule :: rules =>
    match rule.compile with
    | .error cause => .error (.invalidPattern grammar mode index cause)
    | .ok compiled => (compileRules grammar mode (index + 1) rules).map (compiled :: ·)

/-- Compiles the modes, where `earlier` are the names of those before them. -/
def compileModes (grammar : String) (earlier : List String) :
    List (Mode ε) → Except GrammarError (List (CompiledMode ε))
  | [] => .ok []
  | mode :: modes => do
    if mode.name ∈ earlier then throw (.duplicateMode grammar mode.name)
    if mode.rules.isEmpty then throw (.emptyMode grammar mode.name)
    let rules ← compileRules grammar mode.name 0 mode.rules
    let more ← compileModes grammar (earlier ++ [mode.name]) modes
    return ⟨mode.name, rules⟩ :: more

/-- The modes with their rules compiled, if the grammar is sound. -/
def compile (g : Grammar ε) : Except GrammarError (List (CompiledMode ε)) :=
  match g.modes? with
  | none => .error (.undefined g.name)
  | some [] => .error (.noModes g.name)
  | some modes => compileModes g.name [] modes

/-- All rules of the grammar work through the operations on the state only. -/
def Plain (g : Grammar ε) : Prop :=
  ∀ modes, g.modes? = some modes → ∀ mode ∈ modes, ∀ r ∈ mode.rules, r.Plain

/-- The grammar inside a data structure, in a state that is described by a text. -/
def debugIn (g : Grammar ε) (state : String) : String :=
  "Grammar \x7b name: " ++ quoteString g.name ++ ", state: " ++ quoteString state ++ " \x7d"

/-- The grammar as it is shown before its first use. -/
def debugUnused (g : Grammar ε) : String := g.debugIn "uninitialized"

/-- The grammar as it is shown after its first use. -/
def debugUsed (g : Grammar ε) : String :=
  match g.compile with
  | .ok modes => g.debugIn s!"{modes.length} mode(s)"
  | .error e => g.debugIn ("failed: " ++ e.message)

end Grammar

end ModalLexer
