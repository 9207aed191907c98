import ModalLexer.Toml.Document

/-! # Configuration

A configuration has a section for scans, one for detection and one for output. Everything in it has
a default, and nothing else may stand in it. A section may also list the values of its fields in
order.
-/

namespace ModalLexer

inductive OutputFormat where
  | human
  | json
deriving DecidableEq, Repr

def OutputFormat.name : OutputFormat → String
  | human => "human"
  | json => "json"

structure Config where
  /-- The stop markers of every scan, before any others. -/
  stopMarkers : List Text := []
  /-- The names of the grammars to choose from, the preferred one first. Without names these are all
  grammars. -/
  candidates : List String := []
  format : OutputFormat := .human
  /-- Whether output for people may be coloured. -/
  color : Bool := true
deriving DecidableEq, Repr

namespace Config

open Toml

/-- The path of the configuration of a user, below the directory of all configurations. -/
def userPath : String := "tokenkit/config.toml"

/-- The values of the fields with the given names, from a table or by position. -/
def fields? (names : List String) : Value → Option (List (Option Value))
  | .table entries =>
    if entries.all fun entry => String.ofList entry.1 ∈ names then
      some (names.map fun name => entries.lookup name.toList)
    else none
  | .array items => some ((List.range names.length).map (items[·]?))
  | _ => none

/-- Reads a field that may be missing. -/
def withDefault {α : Type} (default : α) (read : Value → Option α) : Option Value → Option α
  | none => some default
  | some v => read v

def text? : Value → Option Text
  | .string t => some t
  | _ => none

def texts? : Value → Option (List Text)
  | .array items => items.mapM text?
  | _ => none

def boolean? : Value → Option Bool
  | .boolean b => some b
  | _ => none

def formatNamed? (name : Text) : Option OutputFormat :=
  [OutputFormat.human, .json].find? (·.name.toList = name)

/-- A format is given by its name, or by a table with its name above an empty value. -/
def format? : Value → Option OutputFormat
  | .string name => formatNamed? name
  | .table [(name, .table [])] => formatNamed? name
  | .table [(name, .array [])] => formatNamed? name
  | _ => none

def scanSection? (v : Value) : Option (List Text) := do
  match ← fields? ["stop_markers"] v with
  | [markers] => withDefault [] texts? markers
  | _ => none

def detectSection? (v : Value) : Option (List String) := do
  match ← fields? ["candidates"] v with
  | [names] => (withDefault [] texts? names).map (·.map String.ofList)
  | _ => none

def outputSection? (v : Value) : Option (OutputFormat × Bool) := do
  match ← fields? ["format", "color"] v with
  | [format, color] =>
    return (← withDefault .human format? format, ← withDefault true boolean? color)
  | _ => none

def ofValue? (v : Value) : Option Config := do
  match ← fields? ["scan", "detect", "output"] v with
  | [scan, detect, output] =>
    let stopMarkers ← withDefault [] scanSection? scan
    let candidates ← withDefault [] detectSection? detect
    let (format, color) ← withDefault (.human, true) outputSection? output
    return { stopMarkers, candidates, format, color }
  | _ => none

def parse? (t : Text) : Option Config := (Toml.parse? t).bind ofValue?

end Config

end ModalLexer
