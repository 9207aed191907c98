import ModalLexer.Toml.Value

/-! # Tables under construction

While a document is read, its tables are open: statements add to them by paths of keys. What may be
added to a table depends on what brought it about. A table has one header at most, and dotted keys
extend only tables that dotted keys brought about.
-/

namespace ModalLexer.Toml

/-- What brought a table about. -/
inductive Origin where
  /-- A header of its own. -/
  | header
  /-- The header of a table below it. -/
  | implied
  | dotted
deriving DecidableEq, Repr

inductive Node where
  | value (v : Value)
  | table (origin : Origin) (entries : List (Text × Node))
  /-- Tables with one header each, the latest first. -/
  | tables (elements : List Node)

namespace Node

def root : Node := table .header []

/-- Changes the table behind a path. Tables that are missing on the way are created with the given
origin. A path of dotted keys does not pass through a table with a header, and no path passes
through a value. -/
def update (origin : Origin) (f : Node → Option Node) : List Text → Node → Option Node
  | [], node => f node
  | key :: path, table o entries =>
    match entries.lookup key with
    | none => do
      let child ← update origin f path (table origin [])
      return table o (entries ++ [(key, child)])
    | some (table p sub) =>
      if origin = .dotted ∧ p = .header then none
      else do
        let child ← update origin f path (table p sub)
        return table o (replaceEntry key child entries)
    | some (tables (latest :: earlier)) => do
      let latest ← update origin f path latest
      return table o (replaceEntry key (tables (latest :: earlier)) entries)
    | some _ => none
  | _ :: _, _ => none

/-- Adds a value to a table, reached by a dotted key or not. -/
def addValue (dotted : Bool) (key : Text) (v : Value) : Node → Option Node
  | table o entries =>
    if (o = .dotted) ≠ dotted ∨ (entries.lookup key).isSome then none
    else some (table o (entries ++ [(key, value v)]))
  | _ => none

/-- Begins a table with a header of its own. -/
def openTable (key : Text) : Node → Option Node
  | table o entries =>
    match entries.lookup key with
    | none => some (table o (entries ++ [(key, table .header [])]))
    | some (table .implied sub) => some (table o (replaceEntry key (table .header sub) entries))
    | some _ => none
  | _ => none

/-- Begins a further table of an array. -/
def openElement (key : Text) : Node → Option Node
  | table o entries =>
    match entries.lookup key with
    | none => some (table o (entries ++ [(key, tables [table .header []])]))
    | some (tables elements) =>
      some (table o (replaceEntry key (tables (table .header [] :: elements)) entries))
    | some _ => none
  | _ => none

/-- Splits a path of keys in front of its last one. -/
def splitLast? (keys : List Text) : Option (List Text × Text) :=
  keys.getLast?.map fun last => (keys.dropLast, last)

/-- Sets the value of a dotted key below the table behind the path `header`. -/
def assign (header keys : List Text) (v : Value) (node : Node) : Option Node := do
  let (path, key) ← splitLast? keys
  node.update .implied (fun t => t.update .dotted (addValue (!path.isEmpty) key v) path) header

mutual

def toValue : Node → Value
  | value v => v
  | table _ entries => .table (entryValues entries)
  | tables elements => .array (elementValues [] elements)

def entryValues : List (Text × Node) → List (Text × Value)
  | [] => []
  | (key, node) :: entries => (key, toValue node) :: entryValues entries

/-- The values of the elements in front of `later`, where the latest element comes first. -/
def elementValues (later : List Value) : List Node → List Value
  | [] => later
  | node :: nodes => elementValues (toValue node :: later) nodes

end

end Node

end ModalLexer.Toml
