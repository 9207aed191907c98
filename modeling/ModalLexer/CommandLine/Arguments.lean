import ModalLexer.Text.Basic

/-! # Arguments

The arguments of the program are switches and operands. The first operand is a command, with
switches and operands of its own. Some switches may stand before or behind the command. The first
argument that cannot be read, or that asks for help or the version, ends the reading.
-/

namespace ModalLexer.CommandLine

inductive Switch where
  | verbose
  | json
  | config
  | grammar
  | stop
  | noColor
  | candidate
  | help
  | version
deriving DecidableEq, Repr

namespace Switch

/-- The name behind two dashes. -/
def long : Switch → String
  | verbose => "verbose"
  | json => "json"
  | config => "config"
  | grammar => "grammar"
  | stop => "stop"
  | noColor => "no-color"
  | candidate => "candidate"
  | help => "help"
  | version => "version"

/-- The letter behind one dash. -/
def short? : Switch → Option Char
  | verbose => some 'v'
  | grammar => some 'g'
  | stop => some 's'
  | candidate => some 'c'
  | help => some 'h'
  | version => some 'V'
  | json | config | noColor => none

def takesValue : Switch → Bool
  | config | grammar | stop | candidate => true
  | verbose | json | noColor | help | version => false

/-- Whether the switch may be given more than once. -/
def repeats : Switch → Bool
  | stop | candidate => true
  | _ => false

/-- Whether the switch takes an empty value. The path of a file is never empty. -/
def takesEmpty : Switch → Bool
  | config => false
  | _ => true

/-- The switches that may stand before or behind the command. -/
def common : List Switch := [verbose, json, config, help]

end Switch

/-- What ends the reading of arguments. -/
inductive Ending where
  | usage
  | help
  | version
deriving DecidableEq, Repr

/-- A switch with its value, which is empty for one that takes none. -/
structure Given where
  switch : Switch
  value : String
deriving DecidableEq, Repr

/-- Accepts a switch with its value, unless the switch ends the reading. A switch that does not
repeat is refused if it is among those already `seen`. -/
def accept (seen : List Switch) (switch : Switch) (value : String) : Except Ending Given :=
  match switch with
  | .help => .error .help
  | .version => .error .version
  | switch =>
    if switch ∈ seen ∧ !switch.repeats then .error .usage
    else if value = "" ∧ !switch.takesEmpty then .error .usage
    else .ok ⟨switch, value⟩

/-- Switches read from one argument, with one that still waits for its value. -/
structure Word where
  given : List Given
  pending : Option Switch := none

/-- Reads an argument behind its two dashes: a name, and a value behind an equals sign. -/
def readLong (switches seen : List Switch) (body : Text) : Except Ending Word :=
  let (name, value) := body.splitWhile (· ≠ '=')
  match switches.find? (·.long.toList = name), value with
  | none, _ => .error .usage
  | some switch, [] =>
    if switch.takesValue then .ok ⟨[], some switch⟩
    else (accept seen switch "").map fun g => ⟨[g], none⟩
  | some switch, _ :: value =>
    if switch.takesValue then (accept seen switch (String.ofList value)).map fun g => ⟨[g], none⟩
    else .error .usage

/-- Reads an argument behind its one dash: letters, the last of which may have its value behind it,
with or without an equals sign. -/
def readShort (switches seen : List Switch) : Text → Except Ending Word
  | [] => .ok ⟨[], none⟩
  | c :: t =>
    match switches.find? (·.short? = some c) with
    | none => .error .usage
    | some switch =>
      if switch.takesValue then
        match t with
        | [] => .ok ⟨[], some switch⟩
        | d :: rest =>
          let value := if d = '=' then rest else d :: rest
          (accept seen switch (String.ofList value)).map fun g => ⟨[g], none⟩
      else do
        let g ← accept seen switch ""
        let word ← readShort switches (switch :: seen) t
        return { word with given := g :: word.given }

/-- Reads the switches in an argument, or nothing if it is an operand. A dash alone is an
operand. -/
def readWord? (switches seen : List Switch) (arg : String) : Option (Except Ending Word) :=
  match arg.toList with
  | '-' :: '-' :: body => some (readLong switches seen body)
  | '-' :: c :: body => some (readShort switches seen (c :: body))
  | _ => none

/-- What arguments may be: the switches, and the number of operands. A command ends the arguments
of the program itself. -/
structure Level where
  switches : List Switch
  operands : Nat := 0
  endsAtOperand : Bool := false

structure Arguments where
  given : List Given := []
  operands : List String := []
  /-- The arguments from the command on. -/
  rest : List String := []

/-- Reads arguments behind the switches already `seen`, where `left` more operands may come. Behind
two dashes there are only operands. -/
def readArguments (level : Level) (seen : List Switch) (left : Nat) :
    List String → Except Ending Arguments
  | [] => .ok {}
  | arg :: args =>
    if arg = "--" then
      if args.length ≤ left ∧ "" ∉ args then .ok { operands := args } else .error .usage
    else
      match readWord? level.switches seen arg with
      | none =>
        if level.endsAtOperand then .ok { rest := arg :: args }
        else
          match left with
          | 0 => .error .usage
          | left + 1 =>
            if arg = "" then .error .usage
            else (readArguments level seen left args).map fun more =>
              { more with operands := arg :: more.operands }
      | some (.error e) => .error e
      | some (.ok ⟨given, none⟩) =>
        let seen := given.map (·.switch) ++ seen
        (readArguments level seen left args).map fun more =>
          { more with given := given ++ more.given }
      | some (.ok ⟨given, some switch⟩) =>
        let seen := given.map (·.switch) ++ seen
        match args with
        | [] => .error .usage
        | value :: args =>
          if value = "--" ∨ (readWord? level.switches seen value).isSome then .error .usage
          else do
            let g ← accept seen switch value
            let more ← readArguments level (switch :: seen) left args
            return { more with given := given ++ g :: more.given }

def Level.read (level : Level) (args : List String) : Except Ending Arguments :=
  readArguments level [] level.operands args

namespace Arguments

def has (a : Arguments) (switch : Switch) : Bool := a.given.any (·.switch = switch)

def values (a : Arguments) (switch : Switch) : List String :=
  (a.given.filter (·.switch = switch)).map (·.value)

def value? (a : Arguments) (switch : Switch) : Option String := (a.values switch).head?

end Arguments

structure ScanOptions where
  file? : Option String := none
  grammar? : Option String := none
  stopMarkers : List Text := []
  color : Bool := true
deriving DecidableEq, Repr

inductive Command where
  | overview
  | scan (options : ScanOptions)
  | detect (file? : Option String) (candidates : List String)
  | grammars
  | types
  | version
deriving DecidableEq, Repr

structure Invocation where
  json : Bool
  config? : Option String
  command : Command
deriving DecidableEq, Repr

namespace Command

/-- What may follow the name of a command, and the command it makes. -/
def named? : String → Option (Level × (Arguments → Command))
  | "scan" => some (⟨[.grammar, .stop, .noColor] ++ Switch.common, 1, false⟩, fun a => .scan {
      file? := a.operands.head?
      grammar? := a.value? .grammar
      stopMarkers := (a.values .stop).map String.toList
      color := !a.has .noColor })
  | "detect" => some (⟨[.candidate] ++ Switch.common, 1, false⟩, fun a =>
      .detect a.operands.head?
        ((a.values .candidate).flatMap fun names =>
          (Text.fields ',' names.toList).map String.ofList))
  | "grammars" => some ({ switches := Switch.common }, fun _ => .grammars)
  | "types" => some ({ switches := Switch.common }, fun _ => .types)
  | "version" => some ({ switches := Switch.common }, fun _ => .version)
  | _ => none

/-- Reads the arguments of the help command: the name of a command, or nothing. -/
def readHelp : List String → Ending
  | [] => .help
  | [name] => if name = "help" ∨ (named? name).isSome then .help else .usage
  | _ => .usage

end Command

def Invocation.read (args : List String) : Except Ending Invocation := do
  let top ← Level.read { switches := .version :: Switch.common, endsAtOperand := true } args
  match top.rest with
  | [] => return { json := top.has .json, config? := top.value? .config, command := .overview }
  | name :: args =>
    if name = "help" then throw (Command.readHelp args)
    match Command.named? name with
    | none => throw .usage
    | some (level, command) =>
      let sub ← level.read args
      return { json := top.has .json || sub.has .json
               config? := sub.value? .config <|> top.value? .config
               command := command sub }

end ModalLexer.CommandLine
