import ModalLexer.Detection
import ModalLexer.Json

/-! # Reports of detections

A report lists the candidates with their scores and names the one that was selected.
-/

namespace ModalLexer

/-- The score of a grammar, by its canonical name. -/
structure CandidateScore where
  grammar : String
  score : Int
deriving DecidableEq, Repr

structure DetectionReport where
  /-- The candidates that could be run, in order. -/
  candidates : List CandidateScore
  selected : Option String
deriving DecidableEq, Repr

def Scored.candidate {ε : Type} (s : Scored ε) : CandidateScore := ⟨s.info.name, s.score⟩

/-- The report on scored candidates and the best of them. -/
def DetectionReport.ofScores {ε : Type} (scores : List (Scored ε)) (best? : Option (Scored ε)) :
    DetectionReport where
  candidates := scores.map (·.candidate)
  selected := best?.map (·.info.name)

namespace CandidateScore

/-- Blanks that fill a text of the given length up to a width. -/
def padding (width length : Nat) : String := String.ofList (List.replicate (width - length) ' ')

/-- The line of a candidate, with a star in front of the selected one. -/
def line (selected : Option String) (c : CandidateScore) : String :=
  let mark := if selected = some c.grammar then "*" else " "
  let score := toString c.score
  mark ++ " " ++ c.grammar ++ padding 12 c.grammar.length ++ " " ++ padding 6 score.length ++ score

def json (c : CandidateScore) : Json :=
  .object [("grammar", .string c.grammar), ("score", .int c.score)]

end CandidateScore

namespace DetectionReport

/-- What is said about the selection. -/
def verdict (r : DetectionReport) : String :=
  match r.selected with
  | some name => "Selected: " ++ name
  | none => "No grammar could be run."

def human (r : DetectionReport) : String :=
  String.join (r.candidates.map fun c => c.line r.selected ++ "\n") ++ "\n" ++ r.verdict ++ "\n"

def json (r : DetectionReport) : Json :=
  .object [
    ("candidates", .array (r.candidates.map (·.json))),
    ("selected", match r.selected with | some name => .string name | none => .null)]

end DetectionReport

end ModalLexer
