import ModalLexer.Catalog.Basic
import ModalLexer.Json

/-! # Lists of grammars

A list shows what grammars are found by, and the modes of each or what is wrong with it.
-/

namespace ModalLexer

structure GrammarSummary where
  names : List String
  mimeTypes : List String
  filePatterns : List String
  /-- The names of the modes, and none if the grammar is not sound. -/
  modes : List String
  error? : Option String
deriving DecidableEq, Repr

def GrammarInfo.summary {ε : Type} (info : GrammarInfo ε) : GrammarSummary :=
  let (modes, error?) := match info.grammar.compile with
    | .ok modes => (modes.map (·.name), none)
    | .error e => ([], some e.message)
  { names := info.names, mimeTypes := info.mimeTypes, filePatterns := info.filePatterns, modes,
    error? }

namespace GrammarSummary

/-- A line of items behind a label, or nothing without items. -/
def labelled (label : String) (items : List String) : List String :=
  if items.isEmpty then [] else [label ++ " ".intercalate items]

def lines (g : GrammarSummary) : List String :=
  let last := match g.error? with
    | some e => "  error: " ++ e
    | none => "  modes: " ++ " ".intercalate g.modes
  ", ".intercalate g.names :: labelled "  files: " g.filePatterns
    ++ labelled "  mime:  " g.mimeTypes ++ [last]

def json (g : GrammarSummary) : Json :=
  .object ([
    ("names", .strings g.names),
    ("mime_types", .strings g.mimeTypes),
    ("file_names", .strings g.filePatterns),
    ("modes", .strings g.modes)]
    ++ g.error?.toList.map fun e => ("error", .string e))

end GrammarSummary

structure GrammarList where
  grammars : List GrammarSummary
deriving DecidableEq, Repr

/-- The list of all grammars of a catalog. -/
def Catalog.list {ε : Type} (c : Catalog ε) : GrammarList := ⟨c.all.map (·.summary)⟩

namespace GrammarList

def human (l : GrammarList) : String :=
  String.join (l.grammars.flatMap fun g => g.lines.map (· ++ "\n"))

def json (l : GrammarList) : Json := .object [("grammars", .array (l.grammars.map (·.json)))]

end GrammarList

end ModalLexer
