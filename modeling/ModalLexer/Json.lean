/-! # JSON

Values and their two written forms: on one line without blanks, and on indented lines. Objects keep
the order of their fields.
-/

namespace ModalLexer

inductive Json where
  | null
  | bool (b : Bool)
  | int (n : Int)
  | string (s : String)
  | array (items : List Json)
  | object (fields : List (String × Json))

namespace Json

/-- How a character is written between quotes. Only quotes, backslashes and controls are escaped. -/
def escapeChar (c : Char) : List Char :=
  if c = '"' ∨ c = '\\' then ['\\', c]
  else if c = '\x08' then ['\\', 'b']
  else if c = '\x0c' then ['\\', 'f']
  else if c = '\n' then ['\\', 'n']
  else if c = '\r' then ['\\', 'r']
  else if c = '\t' then ['\\', 't']
  else if c < ' ' then
    ['\\', 'u', '0', '0', Nat.digitChar (c.toNat / 16), Nat.digitChar (c.toNat % 16)]
  else [c]

def quote (s : String) : String := String.ofList ('"' :: s.toList.flatMap escapeChar ++ ['"'])

def scalar : Json → String
  | null => "null"
  | bool b => toString b
  | int n => toString n
  | string s => quote s
  | array _ => "[]"
  | object _ => "\x7b\x7d"

mutual

def compact : Json → String
  | array items => "[" ++ ",".intercalate (compactItems items) ++ "]"
  | object fields => "\x7b" ++ ",".intercalate (compactFields fields) ++ "\x7d"
  | value => value.scalar

def compactItems : List Json → List String
  | [] => []
  | item :: items => compact item :: compactItems items

def compactFields : List (String × Json) → List String
  | [] => []
  | (name, value) :: fields => (quote name ++ ":" ++ compact value) :: compactFields fields

end

/-- A line break and the indentation behind it: two blanks for each enclosing value. -/
def lineBreak (depth : Nat) : String := String.ofList ('\n' :: List.replicate (2 * depth) ' ')

/-- The parts of a value at the given depth, each on its own lines between two brackets. -/
def block (opener closer : String) (depth : Nat) : List String → String
  | [] => opener ++ closer
  | parts =>
    let inner := lineBreak (depth + 1)
    opener ++ inner ++ ("," ++ inner).intercalate parts ++ lineBreak depth ++ closer

mutual

/-- The value on indented lines, where `depth` values enclose it. -/
def prettyAt (depth : Nat) : Json → String
  | array items => block "[" "]" depth (prettyItems (depth + 1) items)
  | object fields => block "\x7b" "\x7d" depth (prettyFields (depth + 1) fields)
  | value => value.scalar

def prettyItems (depth : Nat) : List Json → List String
  | [] => []
  | item :: items => prettyAt depth item :: prettyItems depth items

def prettyFields (depth : Nat) : List (String × Json) → List String
  | [] => []
  | (name, value) :: fields =>
    (quote name ++ ": " ++ prettyAt depth value) :: prettyFields depth fields

end

def pretty (value : Json) : String := value.prettyAt 0

def strings (items : List String) : Json := array (items.map string)

end Json

end ModalLexer
