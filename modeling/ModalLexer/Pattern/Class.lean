import ModalLexer.Text.Basic
import ModalLexer.Unicode.Age
import ModalLexer.Unicode.CaseMapping
import ModalLexer.Unicode.Segmentation

/-! # Named classes of characters

The classes that patterns name: those of ASCII characters in brackets, and the categories, scripts
and properties of all characters. Names of the latter are compared in lower case, without blanks,
dashes and underscores, and without a leading `is`.
-/

namespace ModalLexer.Pattern

open Unicode

def asciiDigits : CharSet := .range '0' '9'

def asciiSpaces : CharSet := ⟨[(0x09, 0x0d), (0x20, 0x20)]⟩

def asciiWordChars : CharSet := ⟨[(0x30, 0x39), (0x41, 0x5a), (0x5f, 0x5f), (0x61, 0x7a)]⟩

def digits : CharSet := charsOf [.nd]

/-- The class that a name stands for between `[:` and `:]`. -/
def asciiClass? (name : String) : Option CharSet :=
  match name with
  | "alnum" => some ⟨[(0x30, 0x39), (0x41, 0x5a), (0x61, 0x7a)]⟩
  | "alpha" => some ⟨[(0x41, 0x5a), (0x61, 0x7a)]⟩
  | "ascii" => some ⟨[(0x00, 0x7f)]⟩
  | "blank" => some ⟨[(0x09, 0x09), (0x20, 0x20)]⟩
  | "cntrl" => some ⟨[(0x00, 0x1f), (0x7f, 0x7f)]⟩
  | "digit" => some asciiDigits
  | "graph" => some (.range '!' '~')
  | "lower" => some (.range 'a' 'z')
  | "print" => some (.range ' ' '~')
  | "punct" => some ⟨[(0x21, 0x2f), (0x3a, 0x40), (0x5b, 0x60), (0x7b, 0x7e)]⟩
  | "space" => some asciiSpaces
  | "upper" => some (.range 'A' 'Z')
  | "word" => some asciiWordChars
  | "xdigit" => some ⟨[(0x30, 0x39), (0x41, 0x46), (0x61, 0x66)]⟩
  | _ => none

/-- The name of a property as it is compared. -/
def normalizeName (name : Text) : String :=
  let lower := fun (t : Text) =>
    (t.filter fun c => c.toNat < 128 && c ≠ ' ' && c ≠ '-' && c ≠ '_').map Char.toLower
  match name with
  | a :: b :: rest =>
    if a.toLower = 'i' ∧ b.toLower = 's' then
      -- A bare `isc` is a name of its own.
      if lower rest = ['c'] then "isc" else String.ofList (lower rest)
    else String.ofList (lower name)
  | _ => String.ofList (lower name)

/-- The categories that a name stands for, unless it stands for no category or for unassigned
characters. -/
def categories? (name : String) : Option (List Category) :=
  match name with
  | "lu" | "uppercaseletter" => some [.lu]
  | "ll" | "lowercaseletter" => some [.ll]
  | "lt" | "titlecaseletter" => some [.lt]
  | "lc" | "casedletter" => some [.lu, .ll, .lt]
  | "lm" | "modifierletter" => some [.lm]
  | "lo" | "otherletter" => some [.lo]
  | "l" | "letter" => some letterCategories
  | "mn" | "nonspacingmark" => some [.mn]
  | "mc" | "spacingmark" => some [.mc]
  | "me" | "enclosingmark" => some [.me]
  | "m" | "mark" | "combiningmark" => some markCategories
  | "nd" | "decimalnumber" | "digit" => some [.nd]
  | "nl" | "letternumber" => some [.nl]
  | "no" | "othernumber" => some [.no]
  | "n" | "number" => some numberCategories
  | "pc" | "connectorpunctuation" => some [.pc]
  | "pd" | "dashpunctuation" => some [.pd]
  | "ps" | "openpunctuation" => some [.ps]
  | "pe" | "closepunctuation" => some [.pe]
  | "pi" | "initialpunctuation" => some [.pi]
  | "pf" | "finalpunctuation" => some [.pf]
  | "po" | "otherpunctuation" => some [.po]
  | "p" | "punctuation" | "punct" => some [.pc, .pd, .ps, .pe, .pi, .pf, .po]
  | "sm" | "mathsymbol" => some [.sm]
  | "sc" | "currencysymbol" => some [.sc]
  | "sk" | "modifiersymbol" => some [.sk]
  | "so" | "othersymbol" => some [.so]
  | "s" | "symbol" => some [.sm, .sc, .sk, .so]
  | "zs" | "spaceseparator" => some [.zs]
  | "zl" | "lineseparator" => some [.zl]
  | "zp" | "paragraphseparator" => some [.zp]
  | "z" | "separator" => some [.zs, .zl, .zp]
  | "cc" | "control" | "cntrl" => some [.cc]
  | "cf" | "format" => some [.cf]
  | "co" | "privateuse" => some [.co]
  | _ => none

/-- The class of a general category, or of one of the kinds of characters beside them. -/
def categoryClass? (name : String) : Option CharSet :=
  match name with
  | "any" => some .any
  | "ascii" => some (.range '\x00' '\x7f')
  | "assigned" => some assigned
  | "cn" | "unassigned" => some assigned.compl
  | "c" | "other" =>
    some (charsOf (allCategories.filter fun c => c ≠ .cc && c ≠ .cf && c ≠ .co)).compl
  | name => (categories? name).map charsOf

/-- The class that a name stands for: a property, a category or a script. -/
def namedClass? (name : String) : Option CharSet :=
  (if name = "sc" ∨ name = "cf" ∨ name = "lc" then none else property? name <|> caseChange? name)
    <|> categoryClass? name
    <|> (script? name).map (·.chars)

/-- The class of the characters that have a value of a property. -/
def valueClass? (name value : String) : Option CharSet :=
  match name with
  | "generalcategory" | "gc" => categoryClass? value
  | "script" | "sc" => (script? value).map (·.chars)
  | "scriptextensions" | "scx" => (script? value).map (·.users)
  | "age" => assignedIn? value
  | "graphemeclusterbreak" | "gcb" => clusterBreak? value
  | "wordbreak" | "wb" => wordBreak? value
  | "sentencebreak" | "sb" => sentenceBreak? value
  | _ => none

/-- The parts of a text in front of and behind the first occurrence of a separator. -/
def splitAt? (separator : Text) : Text → Option (Text × Text)
  | [] => none
  | c :: t =>
    if separator.isPrefixOf (c :: t) then some ([], (c :: t).drop separator.length)
    else (splitAt? separator t).map fun (front, rest) => (c :: front, rest)

/-- The class in the braces behind `\p`. Whether a value is said to be had or not makes no
difference. -/
def bracedClass? (t : Text) : Option CharSet :=
  match splitAt? ['!', '='] t <|> splitAt? [':'] t <|> splitAt? ['='] t with
  | some (name, value) => valueClass? (normalizeName name) (normalizeName value)
  | none => namedClass? (normalizeName t)

end ModalLexer.Pattern
