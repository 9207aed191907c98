import ModalLexer.Taxonomy.Basic

/-! # The taxonomy as a tree

The registered types below their parents. A child has a greater handle than its parent, so the tree
is finite.
-/

namespace ModalLexer

/-- A type name above the names of its children. -/
inductive TypeTree where
  | node (name : String) (children : List TypeTree)
deriving Inhabited, Repr

namespace TypeArena

/-- The tree of the registered types at and below `t`. -/
def subtree (a : TypeArena) (t : Nat) : TypeTree :=
  .node (a.name t) ((a.children t).attach.map fun ⟨child, _⟩ => a.subtree child)
termination_by a.size - t
decreasing_by
  rename_i hchild
  have := lt_of_mem_children hchild
  omega

theorem subtree_eq (a : TypeArena) (t : Nat) :
    a.subtree t = .node (a.name t) ((a.children t).map a.subtree) := by
  rw [subtree]
  simp

/-- The trees of all class roots, by ascending name. -/
def forest (a : TypeArena) : List TypeTree := a.classRoots.map a.subtree

end TypeArena

def Taxonomy.forest (tax : Taxonomy) : List TypeTree := tax.arena.forest

end ModalLexer
