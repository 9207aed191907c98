import ModalLexer.Engine.Basic

/-! # Runs

A run is a sequence of requests up to the first stop. Rules may queue tokens forever, so a run has a
limit on the number of its requests.
-/

namespace ModalLexer

/-- The tokens before the stop, each with the engine right behind its request, and the stop. -/
structure Run (ε : Type) where
  answers : List (Token × Engine ε)
  stop : Token
  last : Engine ε

inductive RunError where
  | fault (f : Fault)
  | unfinished
deriving DecidableEq, Repr

namespace Engine

variable {ε : Type}

/-- Requests tokens up to the first stop, and at most `limit` of them. -/
def run : (limit : Nat) → Engine ε → Except RunError (Run ε)
  | 0, _ => .error .unfinished
  | limit + 1, e =>
    match e.nextToken with
    | (.error f, _) => .error (.fault f)
    | (.ok token, e) =>
      if token.isStop then .ok ⟨[], token, e⟩
      else
        match e.run limit with
        | .ok r => .ok { r with answers := (token, e) :: r.answers }
        | .error f => .error f

/-- A higher limit does not change a finished run. -/
theorem run_mono {limit : Nat} {e : Engine ε} {r : Run ε} (h : e.run limit = .ok r) :
    e.run (limit + 1) = .ok r := by
  induction limit generalizing e r with
  | zero => simp [run] at h
  | succ limit ih =>
    rw [run] at h ⊢
    split at h
    · cases h
    · next token e' hnext =>
      split at h
      · next hstop => rw [if_pos hstop]; exact h
      · next hstop =>
        rw [if_neg hstop]
        cases hr : e'.run limit with
        | error f => simp [hr] at h
        | ok r' => rw [hr] at h; simp only [ih hr]; exact h

end Engine

/-- Why a grammar does not scan a text to a stop. -/
inductive ScanError where
  | unsound (e : GrammarError)
  | aborted (e : RunError)
deriving DecidableEq, Repr

def Grammar.scan {ε : Type} (g : Grammar ε) (text : Text) (markers : List Text) (limit : Nat) :
    Except ScanError (Run ε) :=
  match Engine.start g text with
  | .error e => .error (.unsound e)
  | .ok e => ((e.addMarkers markers).run limit).mapError .aborted

end ModalLexer
