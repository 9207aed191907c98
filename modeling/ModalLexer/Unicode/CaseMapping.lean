import ModalLexer.Unicode.CaseFolding
import ModalLexer.Unicode.Property

/-! # Characters that change with case

The characters that are replaced when a text is written in lower case, in upper case, in title case
or without distinction of case. Most of them have case variants; the others are replaced by several
characters or depend on the language.
-/

namespace ModalLexer.Unicode

/-- The characters that fold to another one. -/
def folding : CharSet := .ofRanges (foldPairs.map fun (n, _) => (n, n))

/-- The characters that have case variants. -/
def caseVarying : CharSet := folding.union (.ofRanges (foldPairs.map fun (_, m) => (m, m)))

/-- The characters without case variants that are several characters in upper case. -/
def expandingUpper : CharSet := ⟨[
  (0x149, 0x149), (0x1f0, 0x1f0), (0x587, 0x587), (0x1e96, 0x1e9a), (0x1f50, 0x1f50),
  (0x1f52, 0x1f52), (0x1f54, 0x1f54), (0x1f56, 0x1f56), (0x1fb2, 0x1fb2), (0x1fb4, 0x1fb4),
  (0x1fb6, 0x1fb7), (0x1fc2, 0x1fc2), (0x1fc4, 0x1fc4), (0x1fc6, 0x1fc7), (0x1fd2, 0x1fd2),
  (0x1fd6, 0x1fd7), (0x1fe2, 0x1fe2), (0x1fe4, 0x1fe4), (0x1fe6, 0x1fe7), (0x1ff2, 0x1ff2),
  (0x1ff4, 0x1ff4), (0x1ff6, 0x1ff7), (0xfb00, 0xfb04), (0xfb13, 0xfb17)]⟩

/-- The characters that do not fold to one character but to several. -/
def expandingFold : CharSet := ⟨[
  (0xdf, 0xdf), (0x130, 0x130), (0x149, 0x149), (0x587, 0x587), (0x1e9a, 0x1e9a), (0x1f80, 0x1f87),
  (0x1f90, 0x1f97), (0x1fa0, 0x1fa7), (0x1fb2, 0x1fb4), (0x1fb7, 0x1fb7), (0x1fc2, 0x1fc4),
  (0x1fc7, 0x1fc7), (0x1ff2, 0x1ff4), (0x1ff7, 0x1ff7), (0xfb00, 0xfb04), (0xfb06, 0xfb06),
  (0xfb13, 0xfb17)]⟩

/-- The characters that are lowercase once they are decomposed, though they fold to others. -/
def foldingComposed : CharSet := ⟨[(0x1fbe, 0x1fbe), (0x1fd3, 0x1fd3), (0x1fe3, 0x1fe3)]⟩

/-- The letters of one character that stand for two letters, in upper case. -/
def upperDigraphs : CharSet := .ofChars ['\u01c4', '\u01c7', '\u01ca', '\u01f1']

/-- The lowercase letters that are not replaced in title case. -/
def untitled : CharSet := ⟨[(0x10d0, 0x10fa), (0x10fd, 0x10ff)]⟩

def changesWhenLowercased : CharSet :=
  (caseVarying.inter (uppercase.union (charsOf [.lt]))).union (.single '\u0130')

def changesWhenUppercased : CharSet :=
  ((caseVarying.diff uppercase).union (.single '\u0131')).union expandingUpper

def changesWhenTitlecased : CharSet :=
  (changesWhenUppercased.diff ((charsOf [.lt]).union untitled)).union upperDigraphs

def changesWhenCasefolded : CharSet := (folding.diff foldingComposed).union expandingFold

/-- The characters of the property of changing with case that has a name. -/
def caseChange? (name : String) : Option CharSet :=
  match name with
  | "changeswhenlowercased" | "cwl" => some changesWhenLowercased
  | "changeswhenuppercased" | "cwu" => some changesWhenUppercased
  | "changeswhentitlecased" | "cwt" => some changesWhenTitlecased
  | "changeswhencasefolded" | "cwcf" => some changesWhenCasefolded
  | "changeswhencasemapped" | "cwcm" =>
    some (changesWhenLowercased.union (changesWhenUppercased.union changesWhenTitlecased))
  | _ => none

end ModalLexer.Unicode
