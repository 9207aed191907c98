import ModalLexer.Catalog.Basic
import ModalLexer.Engine.Run

/-! # Detection

The grammar for a text is found by scanning the text with every candidate. The highest score wins,
and of several the earliest. Candidates whose grammar is not sound have no score.
-/

namespace ModalLexer

structure Scored (ε : Type) where
  info : GrammarInfo ε
  score : Int

namespace Detection

variable {ε : Type}

/-- The score that a grammar reaches on a text. -/
def scoreText (g : Grammar ε) (text : Text) (markers : List Text) (limit : Nat) :
    Except ScanError Int :=
  (g.scan text markers limit).map (·.last.state.score.toInt)

/-- The scores of all candidates with a sound grammar, in order. -/
def scores (text : Text) (markers : List Text) (limit : Nat) :
    List (GrammarInfo ε) → Except RunError (List (Scored ε))
  | [] => .ok []
  | info :: infos =>
    match scoreText info.grammar text markers limit with
    | .ok score => (scores text markers limit infos).map (⟨info, score⟩ :: ·)
    | .error (.unsound _) => scores text markers limit infos
    | .error (.aborted e) => .error e

/-- The one of two candidates with the higher score, the earlier one if they are equal. -/
def better (earlier later : Scored ε) : Scored ε :=
  if later.score ≤ earlier.score then earlier else later

/-- The best candidate, or none of none. -/
def best? : List (Scored ε) → Option (Scored ε)
  | [] => none
  | first :: others => some (others.foldl better first)

/-- The candidate that fits a text best. -/
def select (text : Text) (markers : List Text) (limit : Nat) (candidates : List (GrammarInfo ε)) :
    Except RunError (Option (Scored ε)) :=
  (scores text markers limit candidates).map best?

end Detection

end ModalLexer
