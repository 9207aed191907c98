import ModalLexer.Json
import ModalLexer.Taxonomy.Tree

/-! # Lists of token types

A forest of types is written with one type on a line, indented below its parent, or as JSON.
-/

namespace ModalLexer.TypeTree

/-- A name on a line of its own, indented by two blanks for each type above it. -/
def line (depth : Nat) (name : String) : String :=
  String.ofList (List.replicate (2 * depth) ' ') ++ name ++ "\n"

mutual

/-- The lines of a tree at the given depth. -/
def lines (depth : Nat) : TypeTree → List String
  | node name children => line depth name :: forestLines (depth + 1) children

def forestLines (depth : Nat) : List TypeTree → List String
  | [] => []
  | tree :: trees => lines depth tree ++ forestLines depth trees

end

mutual

def json : TypeTree → Json
  | node name [] => .object [("name", .string name)]
  | node name (child :: children) =>
    .object [("name", .string name), ("children", .array (json child :: forestItems children))]

def forestItems : List TypeTree → List Json
  | [] => []
  | tree :: trees => json tree :: forestItems trees

end

def human (forest : List TypeTree) : String := String.join (forestLines 0 forest)

def forestJson (forest : List TypeTree) : Json := .object [("roots", .array (forestItems forest))]

end ModalLexer.TypeTree
