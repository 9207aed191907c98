import ModalLexer.Toml.Scalar
import ModalLexer.Toml.Table

/-! # TOML documents

A document is a list of statements on lines of their own: the header of a table, the header of an
element of an array of tables, or the value of a key. Values nest, so their readers have a bound on
the number of values still to be read; the size of the text is enough.
-/

namespace ModalLexer.Toml

/-- What ends a value that is not quoted. -/
def endsBareValue (c : Char) : Bool :=
  isBlank c || c ∈ ['\n', '\r', ',', ']', '\x7d', '#']

def bareValue? (t : Text) : Option (Value × Text) :=
  let (source, rest) := Text.splitWhile (!endsBareValue ·) t
  if source = "true".toList then some (.boolean true, rest)
  else if source = "false".toList then some (.boolean false, rest)
  else if isNumber source then some (.number source, rest)
  else none

/-- Takes blanks, comments and line breaks, at most as many as there are lines. -/
def skipLines? : (lines : Nat) → Text → Option Text
  | 0, t => some t
  | lines + 1, t => do
    let t ← skipComment? t
    match lineBreak? t with
    | some t => skipLines? lines t
    | none => some t

mutual

def value? : (bound : Nat) → Text → Option (Value × Text)
  | 0, _ => none
  | bound + 1, t =>
    match t with
    | '"' :: _ => (string? t).map fun (s, rest) => (.string s, rest)
    | '\'' :: _ => (string? t).map fun (s, rest) => (.string s, rest)
    | '[' :: t => (items? bound t).map fun (items, rest) => (.array items, rest)
    | '\x7b' :: t =>
      match skipBlanks t with
      | '\x7d' :: rest => some (.table [], rest)
      | t => (entries? bound .root t).map fun (node, rest) => (node.toValue, rest)
    | t => bareValue? t

/-- Takes the items of an array with its closing bracket. -/
def items? : (bound : Nat) → Text → Option (List Value × Text)
  | 0, _ => none
  | bound + 1, t => do
    match ← skipLines? t.length t with
    | ']' :: rest => return ([], rest)
    | t =>
      let (item, t) ← value? bound t
      match ← skipLines? t.length t with
      | ']' :: rest => return ([item], rest)
      | ',' :: t =>
        let (items, rest) ← items? bound t
        return (item :: items, rest)
      | _ => none

/-- Takes the entries of a table on one line with its closing brace, and adds them to a table. -/
def entries? : (bound : Nat) → Node → Text → Option (Node × Text)
  | 0, _, _ => none
  | bound + 1, node, t => do
    let (keys, v, t) ← keyValue? bound t
    let node ← node.assign [] keys v
    match skipBlanks t with
    | '\x7d' :: rest => return (node, rest)
    | ',' :: t => entries? bound node (skipBlanks t)
    | _ => none

/-- Takes a key, an equals sign and a value. -/
def keyValue? : (bound : Nat) → Text → Option (List Text × Value × Text)
  | 0, _ => none
  | bound + 1, t => do
    let (keys, t) ← key? (t.length + 1) t
    match skipBlanks t with
    | '=' :: t =>
      let (v, rest) ← value? bound (skipBlanks t)
      return (keys, v, rest)
    | _ => none

end

/-- A document that is read in part: its root, and the path of the latest header. -/
structure Progress where
  root : Node
  header : List Text

/-- Takes the key of a header. -/
def headerKey? (t : Text) : Option (List Text × Text) := key? (t.length + 1) (skipBlanks t)

/-- Takes a statement and adds it to the document. -/
def statement? (p : Progress) : Text → Option (Progress × Text)
  | '[' :: '[' :: t => do
    let (keys, t) ← headerKey? t
    let (path, key) ← Node.splitLast? keys
    let root ← p.root.update .implied (Node.openElement key) path
    match skipBlanks t with
    | ']' :: ']' :: rest => return (⟨root, keys⟩, rest)
    | _ => none
  | '[' :: t => do
    let (keys, t) ← headerKey? t
    let (path, key) ← Node.splitLast? keys
    let root ← p.root.update .implied (Node.openTable key) path
    match skipBlanks t with
    | ']' :: rest => return (⟨root, keys⟩, rest)
    | _ => none
  | t => do
    let (keys, v, rest) ← keyValue? (2 * t.length + 2) t
    let root ← p.root.assign p.header keys v
    return ({ p with root }, rest)

/-- Takes statements up to the end of the text, on as many lines at most. -/
def statements? : (lines : Nat) → Progress → Text → Option Progress
  | 0, _, _ => none
  | lines + 1, p, t => do
    match ← skipLines? t.length t with
    | [] => return p
    | t =>
      let (p, t) ← statement? p t
      statements? lines p (← endOfLine? t)

/-- The table that a document describes, or nothing if it is malformed. -/
def parse? (t : Text) : Option Value := do
  let t := if t.head? = some '\ufeff' then t.tail else t
  let p ← statements? (t.length + 1) ⟨.root, []⟩ t
  return p.root.toValue

end ModalLexer.Toml
