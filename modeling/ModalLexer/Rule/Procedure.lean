import ModalLexer.Engine.State

/-! # Procedures

A procedure is what a rule does when it is not a pattern: a finite tree of operations on the state
of the scan, each of which may depend on the results of the ones before it. A plain procedure sees
the state, apart from the stop markers, and changes it through these operations only. Any other one
intervenes in the scan, as code may that has the whole engine in its hands.
-/

namespace ModalLexer

/-- Code that has the whole scan at its disposal: it may request a token, which it hands on, begin
the scan anew on the text that is left, or change the stop markers. It leaves no more text than it
finds, and it stays in the grammar and in modes that exist. -/
structure Intervention (ε : Type) where
  run : State ε → Except Fault (Option Token) × State ε
  byteSize_le (s : State ε) : (run s).2.text.byteSize ≤ s.text.byteSize
  grammar_eq (s : State ε) : (run s).2.grammar = s.grammar
  modeNames_eq (s : State ε) : (run s).2.modeNames = s.modeNames
  inModes {s : State ε} (h : s.InModes) : (run s).2.InModes

inductive Procedure (ε : Type) where
  /-- Ends, and tells whether the rule fired. -/
  | done (fired : Bool)
  | fail (e : RuleError)
  /-- Goes on by what is seen of the state. -/
  | inspect (next : State ε → Procedure ε)
  | push (token : Token) (next : Procedure ε)
  | consume (n : Nat) (next : Text → Procedure ε)
  | emit (kind : TokenType) (n : Nat) (next : Procedure ε)
  | scan (scanner : Scanner) (next : Bool → Procedure ε)
  | scanBytes (kind : TokenType) (n : Nat) (next : Bool → Procedure ε)
  | addScore (delta : Int64) (next : Procedure ε)
  | enter (mode : String) (next : Option RuleError → Procedure ε)
  | exit (next : Option RuleError → Procedure ε)
  | modifyExtension (f : ε → ε) (next : Procedure ε)
  | intervene (i : Intervention ε) (next : Option Token → Procedure ε)

namespace Procedure

variable {ε : Type}

def run : Procedure ε → State ε → Outcome ε
  | done fired, s => (.ok fired, s)
  | fail e, s => (.error (.error e), s)
  | inspect next, s => (next { s with markers := [] }).run s
  | push token next, s => next.run (s.push token)
  | consume n next, s =>
    match s.consume n with
    | .ok (text, s) => (next text).run s
    | .error f => (.error (.fault f), s)
  | emit kind n next, s =>
    match s.emit kind n with
    | .ok s => next.run s
    | .error f => (.error (.fault f), s)
  | scan scanner next, s =>
    let (fired, s) := s.scan scanner
    (next fired).run s
  | scanBytes kind n next, s =>
    match s.scanBytes kind n with
    | .ok (fired, s) => (next fired).run s
    | .error f => (.error (.fault f), s)
  | addScore delta next, s => next.run (s.addScore delta)
  | enter mode next, s =>
    match s.enter mode with
    | .ok s => (next none).run s
    | .error e => (next (some e)).run s
  | exit next, s =>
    match s.exit with
    | .ok s => (next none).run s
    | .error e => (next (some e)).run s
  | modifyExtension f next, s => next.run { s with extension := s.extension.map f }
  | intervene i next, s =>
    match i.run s with
    | (.ok token?, s) => (next token?).run s
    | (.error f, s) => (.error (.fault f), s)

/-- Every intervention in the procedure satisfies `Q`. -/
def Allows (Q : Intervention ε → Prop) : Procedure ε → Prop
  | done _ | fail _ => True
  | inspect next => ∀ s, (next s).Allows Q
  | push _ next | emit _ _ next | addScore _ next | modifyExtension _ next => next.Allows Q
  | consume _ next => ∀ text, (next text).Allows Q
  | scan _ next | scanBytes _ _ next => ∀ fired, (next fired).Allows Q
  | enter _ next | exit next => ∀ e?, (next e?).Allows Q
  | intervene i next => Q i ∧ ∀ token?, (next token?).Allows Q

/-- The procedure works through the operations on the state only. -/
def Plain (p : Procedure ε) : Prop := p.Allows fun _ => False

/-- The procedure that runs a scanner and fires if it finds a token. -/
def ofScanner (scanner : Scanner) : Procedure ε := scan scanner done

/-- The procedure that runs a scanner if the first character of the text satisfies `p`. -/
def scanIf (p : Char → Bool) (scanner : Scanner) : Procedure ε :=
  inspect fun s => if s.text.head?.any p then ofScanner scanner else done false

variable {Q Q' : Intervention ε → Prop} {p : Procedure ε}

theorem Allows.mono (h : p.Allows Q) (hQ : ∀ i, Q i → Q' i) : p.Allows Q' := by
  induction p with
  | done | fail => trivial
  | push _ _ ih | emit _ _ _ ih | addScore _ _ ih | modifyExtension _ _ ih => exact ih h
  | inspect _ ih | consume _ _ ih | scan _ _ ih | scanBytes _ _ _ ih | enter _ _ ih | exit _ ih =>
    exact fun x => ih x (h x)
  | intervene i _ ih => exact ⟨hQ i h.1, fun token? => ih token? (h.2 token?)⟩

theorem allows_of_forall (h : ∀ i, Q i) (p : Procedure ε) : p.Allows Q := by
  induction p with
  | done | fail => trivial
  | push _ _ ih | emit _ _ _ ih | addScore _ _ ih | modifyExtension _ _ ih => exact ih
  | inspect _ ih | consume _ _ ih | scan _ _ ih | scanBytes _ _ _ ih | enter _ _ ih | exit _ ih =>
    exact ih
  | intervene i _ ih => exact ⟨h i, ih⟩

theorem Plain.allows (h : p.Plain) : p.Allows Q := Allows.mono h fun _ => False.elim

end Procedure

/-- A relation between the text that is left and the one before which holds if text is taken off the
front, and along steps. -/
structure Consuming (R : Text → Text → Prop) : Prop where
  of_suffix {t u : Text} : u <:+ t → R u t
  trans {t u v : Text} : R v u → R u t → R v t

theorem consuming_suffix : Consuming (· <:+ ·) := ⟨id, List.IsSuffix.trans⟩

theorem consuming_byteSize : Consuming fun u t => u.byteSize ≤ t.byteSize where
  of_suffix := by
    rintro _ u ⟨taken, rfl⟩
    rw [Text.byteSize_append]
    exact Nat.le_add_left _ _
  trans := Nat.le_trans

theorem Procedure.run_text {ε : Type} {R : Text → Text → Prop} (hR : Consuming R)
    {p : Procedure ε} (hp : p.Allows fun i => ∀ s, R (i.run s).2.text s.text) (s : State ε) :
    R (p.run s).2.text s.text := by
  induction p generalizing s with
  | done | fail => exact hR.of_suffix (List.suffix_refl _)
  | inspect next ih => exact ih _ (hp _) s
  | push token next ih => exact ih hp _
  | consume n next ih =>
    simp only [run]
    split
    · next text s' h =>
      exact hR.trans (ih text (hp text) s') (hR.of_suffix (State.consume_suffix h))
    · exact hR.of_suffix (List.suffix_refl _)
  | emit kind n next ih =>
    simp only [run]
    split
    · next s' h => exact hR.trans (ih hp s') (hR.of_suffix (State.emit_suffix h))
    · exact hR.of_suffix (List.suffix_refl _)
  | scan scanner next ih =>
    exact hR.trans (ih _ (hp _) _) (hR.of_suffix (State.scan_suffix scanner))
  | scanBytes kind n next ih =>
    simp only [run]
    split
    · next fired s' h =>
      exact hR.trans (ih fired (hp fired) s') (hR.of_suffix (State.scanBytes_suffix h))
    · exact hR.of_suffix (List.suffix_refl _)
  | addScore delta next ih => exact ih hp _
  | enter mode next ih =>
    simp only [run]
    split
    · next s' h => exact State.enter_text h ▸ ih none (hp none) s'
    · exact ih _ (hp _) s
  | exit next ih =>
    simp only [run]
    split
    · next s' h => exact State.exit_text h ▸ ih none (hp none) s'
    · exact ih _ (hp _) s
  | modifyExtension f next ih => exact ih hp _
  | intervene i next ih =>
    have hrun := hp.1 s
    simp only [run]
    split
    · next token? s' h =>
      rw [h] at hrun
      exact hR.trans (ih token? (hp.2 token?) s') hrun
    · next f s' h => rwa [h] at hrun

end ModalLexer
