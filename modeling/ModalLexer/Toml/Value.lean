import ModalLexer.Text.Basic

/-! # TOML values

Tables keep their entries in the order in which they are written. Numbers are kept as they are
written; dates are not supported.
-/

namespace ModalLexer.Toml

inductive Value where
  | string (t : Text)
  | boolean (b : Bool)
  | number (source : Text)
  | array (items : List Value)
  | table (entries : List (Text × Value))
deriving Inhabited, Repr

/-- Gives a key of a list of entries a new value. -/
def replaceEntry {α : Type} (key : Text) (a : α) : List (Text × α) → List (Text × α)
  | [] => []
  | (k, b) :: entries =>
    if k = key then (k, a) :: entries else (k, b) :: replaceEntry key a entries

end ModalLexer.Toml
