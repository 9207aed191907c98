import ModalLexer.Rule.Action

/-! # Rules

A rule is a pattern with an action, or a procedure. A pattern rule matches at the start of the text
that is left; its source text is put into a group behind an anchor and then compiled. A rule is
plain if none of its procedures intervenes in the scan.
-/

namespace ModalLexer

inductive Rule (ε : Type) where
  | pattern (source : String) (action : Action ε)
  | procedure (procedure : Procedure ε)

inductive CompiledRule (ε : Type) where
  | pattern (pattern : Pattern) (action : Action ε)
  | procedure (procedure : Procedure ε)

namespace Rule

variable {ε : Type}

/-- The pattern that is searched for, tied to the start of the text. -/
def anchoredSource (source : Text) : Text := ['\\', 'A', '(', '?', ':'] ++ source ++ [')']

def compile : Rule ε → Except Pattern.PatternError (CompiledRule ε)
  | pattern source action =>
    (Pattern.compile (anchoredSource source.toList)).map (.pattern · action)
  | procedure p => .ok (.procedure p)

/-- The rule works through the operations on the state only. -/
def Plain : Rule ε → Prop
  | pattern _ action => action.Plain
  | procedure p => p.Plain

/-- The name under which a procedure is shown. -/
def procedureName : String := "FuncRule(..)"

def debug : Rule ε → String
  | pattern source action =>
    "Pattern(PatternRule \x7b pattern: " ++ quoteString source ++ ", action: " ++ action.debug
      ++ ", .. \x7d)"
  | procedure _ => "Func(" ++ procedureName ++ ")"

end Rule

namespace CompiledRule

variable {ε : Type}

/-- Tries the rule. A pattern rule fires as its action does, or not at all without a match. -/
def exec : CompiledRule ε → State ε → Outcome ε
  | pattern p action, s =>
    match p.search s.text with
    | some captures => action.exec captures s
    | none => (.ok false, s)
  | procedure p, s => p.run s

/-- Every intervention in the procedures of the rule satisfies `Q`. -/
def Allows (Q : Intervention ε → Prop) : CompiledRule ε → Prop
  | pattern _ action => action.Allows Q
  | procedure p => p.Allows Q

/-- The rule works through the operations on the state only. -/
def Plain (r : CompiledRule ε) : Prop := r.Allows fun _ => False

variable {Q Q' : Intervention ε → Prop} {r : CompiledRule ε}

theorem Allows.mono (h : r.Allows Q) (hQ : ∀ i, Q i → Q' i) : r.Allows Q' := by
  cases r with
  | pattern p action => exact Action.Allows.mono h hQ
  | procedure p => exact Procedure.Allows.mono h hQ

theorem Plain.allows (h : r.Plain) : r.Allows Q := Allows.mono h fun _ => False.elim

theorem allows_of_forall (h : ∀ i, Q i) (r : CompiledRule ε) : r.Allows Q := by
  cases r with
  | pattern p action => exact action.allows_of_forall h
  | procedure p => exact p.allows_of_forall h

theorem exec_text {R : Text → Text → Prop} (hR : Consuming R)
    (hr : r.Allows fun i => ∀ s, R (i.run s).2.text s.text) (s : State ε) :
    R (r.exec s).2.text s.text := by
  cases r with
  | pattern p action =>
    simp only [exec]
    split
    · exact Action.exec_text hR _ hr s
    · exact hR.of_suffix (List.suffix_refl _)
  | procedure p => exact Procedure.run_text hR hr s

end CompiledRule

end ModalLexer
