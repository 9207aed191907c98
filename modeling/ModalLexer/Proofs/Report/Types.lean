import Mathlib.Data.List.Find
import Mathlib.Tactic.MkIffOfInductiveProp
import ModalLexer.Proofs.Taxonomy.Preorder
import ModalLexer.Report.Types

/-! # The taxonomy read back from its text

The list of types for people has one line for each registered type. The lines stand in preorder and
are indented by the depths of their types, so the parents can be read off them.
-/

namespace ModalLexer

open TypeArena

namespace TypeTree

variable {a : TypeArena}

theorem forestLines_eq (depth : Nat) (trees : List TypeTree) :
    forestLines depth trees = trees.flatMap (lines depth) := by
  induction trees with
  | nil => rfl
  | cons tree trees ih => rw [forestLines, ih, List.flatMap_cons]

/-- The line of a type, without its end. -/
def row (a : TypeArena) (t : Nat) : Text :=
  List.replicate (2 * a.depth t) ' ' ++ (a.name t).toList

/-- The number of blanks in front of a line. -/
def indentation (row : Text) : Nat := (row.takeWhile (· = ' ')).length

/-- A name that stays on its line and begins behind the blanks in front of it. -/
@[mk_iff] structure Flush (name : String) : Prop where
  lineFeed : '\n' ∉ name.toList
  blank : name.toList.head? ≠ some ' '

instance (name : String) : Decidable (Flush name) := decidable_of_iff _ (flush_iff name).symm

variable {t : Nat}

theorem takeWhile_row (h : Flush (a.name t)) :
    (row a t).takeWhile (· = ' ') = List.replicate (2 * a.depth t) ' ' := by
  have hname : (a.name t).toList.takeWhile (· = ' ') = [] := by
    have hblank := h.blank
    cases hlist : (a.name t).toList with
    | nil => rfl
    | cons c cs =>
      rw [hlist] at hblank
      exact List.takeWhile_cons_of_neg (by simpa using hblank)
  rw [row, List.takeWhile_append_of_pos (by simp), hname, List.append_nil]

theorem indentation_row (h : Flush (a.name t)) : indentation (row a t) = 2 * a.depth t := by
  rw [indentation, takeWhile_row h, List.length_replicate]

theorem dropWhile_row (h : Flush (a.name t)) :
    (row a t).dropWhile (· = ' ') = (a.name t).toList := by
  have hsplit := List.takeWhile_append_dropWhile (p := (· = ' ')) (l := row a t)
  rw [takeWhile_row h, row] at hsplit
  exact List.append_cancel_left hsplit

theorem lineFeed_notMem_row (h : Flush (a.name t)) : '\n' ∉ row a t := by
  simp [row, h.lineFeed]

theorem lines_subtree (h : a.WellFormed) (t : Nat) : lines (a.depth t) (a.subtree t)
    = (a.below t).map fun u => line (a.depth u) (a.name u) := by
  induction t using a.wellFounded_children.induction with
  | _ t ih =>
    rw [subtree_eq, lines, forestLines_eq, below_eq, List.map_cons, List.map_flatMap,
      List.flatMap_map]
    refine congrArg _ (List.flatMap_congr fun child hchild => ?_)
    have hparent := (((h.children t).mem_iff child).1 hchild).2
    rw [← ih child hchild, depth_of_parent?_eq_some hparent]

theorem toList_human (h : a.WellFormed) :
    (human a.forest).toList = (a.preorder.map (row a)).flatMap (· ++ ['\n']) := by
  have hlines : forestLines 0 a.forest
      = a.preorder.map fun u => line (a.depth u) (a.name u) := by
    rw [forestLines_eq, forest, preorder, List.flatMap_map, List.map_flatMap]
    refine List.flatMap_congr fun root hroot => ?_
    have hparent := ((h.classRoots.mem_iff root).1 hroot).2
    rw [← lines_subtree h, depth_of_parent?_eq_none hparent]
  rw [human, hlines, String.toList_join, List.flatMap_map, List.flatMap_map]
  exact List.flatMap_congr fun u _ => by simp [row, line]

/-- The list of types shows the whole taxonomy, whatever has been registered. The walk down the
lists of children ends, and each registered type has one line, with its name behind two blanks for
each type above it. The parent of a type is the one of the nearest line above that is less indented,
and no such line is above a root. Siblings, and so the roots, follow each other by name. -/
theorem human_shows_taxonomy (h : builtin.Reaches a) (hnames : ∀ t < a.size, Flush (a.name t)) :
    (WellFounded (fun child t => child ∈ a.children t) ∧
      ∀ t, a.subtree t = node (a.name t) ((a.children t).map a.subtree)) ∧
    a.preorder.Perm (List.range a.size) ∧
    Text.fields '\n' (human a.forest).toList = a.preorder.map (row a) ++ [[]] ∧
    (∀ t < a.size, indentation (row a t) = 2 * (a.ancestors t).card ∧
      (row a t).dropWhile (· = ' ') = (a.name t).toList) ∧
    (∀ above t rest, a.preorder = above ++ t :: rest → a.parent? t
      = above.reverse.find? fun u => indentation (row a u) < indentation (row a t)) ∧
    a.preorder.Pairwise fun t u => a.parent? t = a.parent? u → a.name t < a.name u := by
  have hwf := wellFormed_builtin.of_reaches h
  refine ⟨⟨a.wellFounded_children, a.subtree_eq⟩, hwf.preorder_perm, ?_, ?_, ?_,
    hwf.siblings_preorder⟩
  · have hrows : ∀ line ∈ a.preorder.map (row a), '\n' ∉ line := by
      intro line hline
      obtain ⟨t, ht, rfl⟩ := List.mem_map.1 hline
      exact lineFeed_notMem_row (hnames t (hwf.mem_preorder_iff.1 ht))
    have hfields := Text.fields_flatMap hrows []
    rwa [List.append_nil, ← toList_human hwf] at hfields
  · intro t ht
    exact ⟨indentation_row (hnames t ht), dropWhile_row (hnames t ht)⟩
  · intro above t rest hsplit
    have hregistered : ∀ u ∈ above ++ t :: rest, Flush (a.name u) := fun u hu =>
      hnames u (hwf.mem_preorder_iff.1 (hsplit ▸ hu))
    rw [hwf.parent?_eq_find? hsplit]
    refine List.find?_congr fun u hu => ?_
    rw [indentation_row (hregistered u (by simp [List.mem_reverse.1 hu])),
      indentation_row (hregistered t (by simp))]
    simp

/-- The siblings "Zeta.a" and "Zeta.b" are registered in the other order. -/
theorem human_shows_taxonomy_siblings : ∃ a : TypeArena, builtin.Reaches a ∧
    (∀ t < a.size, Flush (a.name t)) ∧ a.size = 49 ∧
    row a 46 = "Zeta".toList ∧ row a 47 = "  Zeta.b".toList ∧ row a 48 = "  Zeta.a".toList ∧
    (Text.fields '\n' (human a.forest).toList).length = 50 := by
  have hzeta : builtin.Reaches _ := .call .refl none "Zeta"
  have hb := hzeta.call (some ⟨46, by decide +kernel⟩) "Zeta.b"
  have ha := hb.call (some ⟨46, by decide +kernel⟩) "Zeta.a"
  obtain ⟨-, hperm, hfields, -⟩ := human_shows_taxonomy ha (by decide +kernel)
  refine ⟨_, ha, by decide +kernel, by decide +kernel, by decide +kernel, by decide +kernel,
    by decide +kernel, ?_⟩
  rw [hfields, List.length_append, List.length_map, hperm.length_eq]
  decide +kernel

end TypeTree

end ModalLexer
