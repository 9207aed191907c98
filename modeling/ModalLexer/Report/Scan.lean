import ModalLexer.Engine.Run
import ModalLexer.Json
import ModalLexer.Report.Palette

/-! # Reports of scans

A report holds the tokens of a scan up to the stop, with the score and the text that is left. It is
written for people, with one line for each token, or as JSON.
-/

namespace ModalLexer

structure TokenRecord where
  kind : String
  text : Text
deriving DecidableEq, Repr

def Token.record (token : Token) : TokenRecord := ⟨token.kindName, token.text⟩

namespace TokenRecord

def line (r : TokenRecord) : String := "[" ++ r.kind ++ "] " ++ String.ofList r.text.quote

/-- The line of the token, in the colour of its type if it has one. -/
def paintedLine (color? : String → Option Color) (r : TokenRecord) : String :=
  match color? r.kind with
  | some color => color.paint r.line
  | none => r.line

def json (r : TokenRecord) : Json :=
  .object [("type", .string r.kind), ("text", .string (String.ofList r.text))]

end TokenRecord

structure ScanReport where
  grammar : String
  tokens : List TokenRecord
  stop : TokenRecord
  score : Int
  remaining : Text
deriving DecidableEq, Repr

def Run.report {ε : Type} (r : Run ε) : ScanReport where
  grammar := r.last.state.grammar
  tokens := r.answers.map (·.1.record)
  stop := r.stop.record
  score := r.last.state.score.toInt
  remaining := r.last.state.text

namespace ScanReport

def isError (r : ScanReport) : Bool := r.stop.kind = TokenType.stopError.name

def summary (r : ScanReport) : String :=
  "grammar: " ++ r.grammar ++ s!"  score: {r.score}  tokens: {r.tokens.length}"

/-- The text that is left, behind a line of its own. -/
def remainder (r : ScanReport) : String :=
  if r.remaining.isEmpty then "" else "--- remaining ---\n" ++ String.ofList r.remaining

/-- The report for people, where `color?` gives the colour of a type by its name. -/
def human (color? : String → Option Color) (r : ScanReport) : String :=
  String.join ((r.tokens ++ [r.stop]).map fun record => record.paintedLine color? ++ "\n")
    ++ "\n" ++ r.summary ++ "\n" ++ r.remainder

def plain (r : ScanReport) : String := r.human fun _ => none

def json (r : ScanReport) : Json :=
  .object [
    ("grammar", .string r.grammar),
    ("tokens", .array (r.tokens.map (·.json))),
    ("stop", r.stop.json),
    ("score", .int r.score),
    ("remaining", .string (String.ofList r.remaining))]

end ScanReport

end ModalLexer
