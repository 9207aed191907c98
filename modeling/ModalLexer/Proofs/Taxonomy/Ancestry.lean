import Mathlib.Data.List.Chain
import Mathlib.Logic.Relation
import ModalLexer.Proofs.Taxonomy.Registration
import ModalLexer.Token

/-! # Ancestry of types

A type is a kind of the types that are met on the way up from it. As parents have smaller handles
than their children, the way up ends, and a type that is reached from another one is older. As types
are only added, the way up from a registered type never changes.
-/

namespace ModalLexer.TypeArena

open Relation

variable {a b : TypeArena} {s t u v p r : Nat}

/-- One step up. -/
abbrev HasParent (a : TypeArena) (t p : Nat) : Prop := a.parent? t = some p

theorem isA_iff : a.isA t u ↔ ReflTransGen a.HasParent t u := by
  induction t using ascent_induction (a := a) with
  | root t hnone =>
    rw [isA_of_parent?_eq_none hnone, ReflTransGen.cases_head_iff]
    constructor
    · exact .inl
    · rintro (heq | ⟨p, hp, -⟩)
      · exact heq
      · rw [HasParent, hnone] at hp
        cases hp
  | child t p hp ih =>
    rw [isA_of_parent?_eq_some hp, ReflTransGen.cases_head_iff, ih]
    constructor
    · rintro (heq | hpu)
      · exact .inl heq
      · exact .inr ⟨p, hp, hpu⟩
    · rintro (heq | ⟨q, hq, hqu⟩)
      · exact .inl heq
      · rw [HasParent, hp] at hq
        cases hq
        exact .inr hqu

theorem isA_refl (t : Nat) : a.isA t t := isA_iff.2 .refl

theorem isA_trans (htu : a.isA t u) (huv : a.isA u v) : a.isA t v :=
  isA_iff.2 ((isA_iff.1 htu).trans (isA_iff.1 huv))

/-- A type is not older than its ancestors. -/
theorem le_of_isA (h : a.isA t u) : u ≤ t := by
  induction isA_iff.1 h with
  | refl => exact Nat.le_refl t
  | tail htv hvu ih => exact (Nat.le_of_lt (lt_of_parent? hvu)).trans (ih (isA_iff.2 htv))

theorem isA_antisymm (htu : a.isA t u) (hut : a.isA u t) : t = u :=
  Nat.le_antisymm (le_of_isA hut) (le_of_isA htu)

/-- The ancestors of a type form a chain. -/
theorem isA_total (htu : a.isA t u) (htv : a.isA t v) : a.isA u v ∨ a.isA v u := by
  have hunique : Relator.RightUnique a.HasParent := by
    intro t p q hp hq
    exact Option.some.inj (hp.symm.trans hq)
  exact (ReflTransGen.total_of_right_unique hunique (isA_iff.1 htu) (isA_iff.1 htv)).imp
    isA_iff.2 isA_iff.2

theorem parent?_classOf (t : Nat) : a.parent? (a.classOf t) = none := by
  induction t using ascent_induction (a := a) with
  | root t hnone => rwa [classOf_of_parent?_eq_none hnone]
  | child t p hp ih => rwa [classOf_of_parent?_eq_some hp]

theorem isA_classOf (t : Nat) : a.isA t (a.classOf t) := by
  induction t using ascent_induction (a := a) with
  | root t hnone =>
    rw [classOf_of_parent?_eq_none hnone]
    exact isA_refl t
  | child t p hp ih =>
    rw [classOf_of_parent?_eq_some hp]
    exact (isA_of_parent?_eq_some hp).2 (.inr ih)

theorem classOf_eq_of_isA (h : a.isA t u) : a.classOf t = a.classOf u := by
  induction isA_iff.1 h with
  | refl => rfl
  | tail htv hvu ih => exact (ih (isA_iff.2 htv)).trans (classOf_of_parent?_eq_some hvu)

theorem isClassRoot_iff : a.isClassRoot t ↔ a.parent? t = none := by
  simp [isClassRoot]

/-- The class of a type is the only root above it. -/
theorem isA_root_iff : a.isA t r ∧ a.isClassRoot r ↔ r = a.classOf t := by
  rw [isClassRoot_iff]
  constructor
  · rintro ⟨htr, hr⟩
    rw [classOf_eq_of_isA htr, classOf_of_parent?_eq_none hr]
  · rintro rfl
    exact ⟨isA_classOf t, parent?_classOf t⟩

theorem classOf_classOf (t : Nat) : a.classOf (a.classOf t) = a.classOf t :=
  classOf_of_parent?_eq_none (parent?_classOf t)

theorem classOf_eq_iff : a.classOf s = a.classOf t ↔ ∃ u, a.isA s u ∧ a.isA t u := by
  constructor
  · intro h
    exact ⟨a.classOf t, h ▸ isA_classOf s, isA_classOf t⟩
  · rintro ⟨u, hsu, htu⟩
    rw [classOf_eq_of_isA hsu, classOf_eq_of_isA htu]

/-- The walk from a type to its parents ends, after at most as many steps as there are older types,
and it ends in the class. -/
theorem exists_iterate_parent? (a : TypeArena) (t : Nat) :
    ∃ n ≤ t, (·.bind a.parent?)^[n] (some t) = some (a.classOf t) ∧
      (·.bind a.parent?)^[n + 1] (some t) = none := by
  induction t using ascent_induction (a := a) with
  | root t hnone =>
    refine ⟨0, Nat.zero_le t, ?_, ?_⟩
    · rw [classOf_of_parent?_eq_none hnone]
      rfl
    · exact hnone
  | child t p hp ih =>
    obtain ⟨n, hn, hclass, hend⟩ := ih
    refine ⟨n + 1, Nat.lt_of_le_of_lt hn (lt_of_parent? hp), ?_, ?_⟩
    · rw [Function.iterate_succ_apply, Option.bind_some, hp, hclass,
        classOf_of_parent?_eq_some hp]
    · rw [Function.iterate_succ_apply, Option.bind_some, hp, hend]

/-- The type and the types on the way up from it, the nearest first. -/
def path (a : TypeArena) (t : Nat) : List Nat :=
  match _h : a.parent? t with
  | none => [t]
  | some p => t :: a.path p
termination_by t
decreasing_by exact lt_of_parent? _h

theorem path_of_parent?_eq_none (h : a.parent? t = none) : a.path t = [t] := by
  rw [path]
  split
  · rfl
  · next p hp => rw [h] at hp; cases hp

theorem path_of_parent?_eq_some (h : a.parent? t = some p) : a.path t = t :: a.path p := by
  rw [path]
  split
  · next hnone => rw [h] at hnone; cases hnone
  · next q hq =>
    rw [h] at hq
    cases hq
    rfl

theorem head?_path (a : TypeArena) (t : Nat) : (a.path t).head? = some t := by
  cases hparent : a.parent? t with
  | none => rw [path_of_parent?_eq_none hparent, List.head?_cons]
  | some p => rw [path_of_parent?_eq_some hparent, List.head?_cons]

theorem mem_path_iff : u ∈ a.path t ↔ a.isA t u := by
  induction t using ascent_induction (a := a) with
  | root t hnone =>
    rw [path_of_parent?_eq_none hnone, isA_of_parent?_eq_none hnone, List.mem_singleton, eq_comm]
  | child t p hp ih =>
    rw [path_of_parent?_eq_some hp, isA_of_parent?_eq_some hp, List.mem_cons, ih, eq_comm]

/-- The path goes from parent to parent. -/
theorem isChain_path (a : TypeArena) (t : Nat) : (a.path t).IsChain a.HasParent := by
  induction t using ascent_induction (a := a) with
  | root t hnone =>
    rw [path_of_parent?_eq_none hnone]
    exact .singleton t
  | child t p hp ih =>
    rw [path_of_parent?_eq_some hp, List.isChain_cons, head?_path]
    refine ⟨fun q hq => ?_, ih⟩
    rwa [← Option.some.inj hq]

theorem getLast?_path (a : TypeArena) (t : Nat) : (a.path t).getLast? = some (a.classOf t) := by
  induction t using ascent_induction (a := a) with
  | root t hnone =>
    rw [path_of_parent?_eq_none hnone, classOf_of_parent?_eq_none hnone, List.getLast?_singleton]
  | child t p hp ih =>
    rw [path_of_parent?_eq_some hp, classOf_of_parent?_eq_some hp, List.getLast?_cons, ih,
      Option.getD_some]

@[simp] theorem name_typeAt (a : TypeArena) (t : Nat) : (a.typeAt t).name = a.name t := by
  cases hparent : a.parent? t with
  | none => rw [typeAt_of_parent?_eq_none hparent, TokenType.name]
  | some p => rw [typeAt_of_parent?_eq_some hparent, TokenType.name]

theorem parent?_typeAt (a : TypeArena) (t : Nat) :
    (a.typeAt t).parent? = (a.parent? t).map a.typeAt := by
  cases hparent : a.parent? t with
  | none => rw [typeAt_of_parent?_eq_none hparent, TokenType.parent?, Option.map_none]
  | some p => rw [typeAt_of_parent?_eq_some hparent, TokenType.parent?, Option.map_some]

theorem classRoot_typeAt (a : TypeArena) (t : Nat) :
    (a.typeAt t).classRoot = a.typeAt (a.classOf t) := by
  induction t using ascent_induction (a := a) with
  | root t hnone =>
    rw [classOf_of_parent?_eq_none hnone, typeAt_of_parent?_eq_none hnone, TokenType.classRoot]
  | child t p hp ih =>
    rw [classOf_of_parent?_eq_some hp, typeAt_of_parent?_eq_some hp, TokenType.classRoot, ih]

theorem WellFormed.typeAt_inj (h : a.WellFormed) (ht : t < a.size) (hu : u < a.size)
    (heq : a.typeAt t = a.typeAt u) : t = u := by
  have hname := congrArg TokenType.name heq
  rw [name_typeAt, name_typeAt] at hname
  exact h.name_inj ht hu hname

theorem lineage_typeAt (a : TypeArena) (t : Nat) :
    (a.typeAt t).lineage = (a.path t).map a.typeAt := by
  induction t using ascent_induction (a := a) with
  | root t hnone =>
    rw [path_of_parent?_eq_none hnone, List.map_singleton, typeAt_of_parent?_eq_none hnone,
      TokenType.lineage]
  | child t p hp ih =>
    rw [path_of_parent?_eq_some hp, List.map_cons, ← ih, typeAt_of_parent?_eq_some hp,
      TokenType.lineage]

/-- Among registered types the path of a type shows the same ancestors as the handles. -/
theorem WellFormed.isA_typeAt_iff (h : a.WellFormed) (ht : t < a.size) (hu : u < a.size) :
    (a.typeAt t).IsA (a.typeAt u) ↔ a.isA t u := by
  rw [TokenType.IsA, lineage_typeAt, List.mem_map]
  constructor
  · rintro ⟨v, hv, heq⟩
    have htv := mem_path_iff.1 hv
    obtain rfl := h.typeAt_inj ((le_of_isA htv).trans_lt ht) hu heq
    exact htv
  · intro htu
    exact ⟨u, mem_path_iff.2 htu, rfl⟩

/-- A registered type is found by its path. -/
theorem WellFormed.find?_typeAt (h : a.WellFormed) (t : Fin a.size) :
    a.find? (a.typeAt t) = some t := by
  have hbyName : a.byName (a.name t) = some t.val :=
    (h.byName_eq_some_iff _ _).2 ⟨t.isLt, rfl⟩
  rw [find?, name_typeAt, hbyName, Option.bind_some]
  exact handle?_eq_some_iff.2 rfl

/-- A registration below a type that is given by its path is one below its handle. -/
theorem register_typeAt {tax : Taxonomy} (h : tax.arena.WellFormed)
    (parent? : Option (Fin tax.arena.size)) (name : String) :
    (∀ e b, tax.arena.tryRegister parent? name = (.error e, b) →
      tax.register (parent?.map fun p : Fin _ => tax.arena.typeAt p) name = .error e) ∧
    ∀ t b, tax.arena.tryRegister parent? name = (.ok t, b) →
      tax.register (parent?.map fun p : Fin _ => tax.arena.typeAt p) name
        = .ok (b.typeAt t, ⟨b⟩) := by
  have hparent :
      (parent?.map fun p : Fin _ => tax.arena.typeAt p).bind tax.arena.find? = parent? := by
    cases parent? with
    | none => rfl
    | some p => exact h.find?_typeAt p
  constructor
  · intro e b hcall
    simp only [Taxonomy.register, hparent, hcall]
  · intro t b hcall
    simp only [Taxonomy.register, hparent, hcall]

theorem children_typeAt {tax : Taxonomy} (h : tax.arena.WellFormed) (t : Fin tax.arena.size) :
    tax.children (tax.arena.typeAt t) = (tax.arena.children t).map tax.arena.typeAt := by
  rw [Taxonomy.children, h.find?_typeAt]

/-- The types of `a` are the same in `b`. -/
structure Extends (a b : TypeArena) : Prop where
  size_le : a.size ≤ b.size
  name_eq : ∀ t < a.size, b.name t = a.name t
  parent?_eq : ∀ t < a.size, b.parent? t = a.parent? t
  byName_eq : ∀ n t, a.byName n = some t → b.byName n = some t

theorem Extends.of_reaches (h : a.Reaches b) : a.Extends b := by
  induction h with
  | refl => exact ⟨Nat.le_refl _, fun _ _ => rfl, fun _ _ => rfl, fun _ _ => id⟩
  | @call b _ parent? name ih =>
    rcases tryRegister_cases parent? name with ⟨-, hcall⟩ | ⟨-, -, hcall⟩ | ⟨-, hfresh, hcall⟩
    · rwa [hcall]
    · rwa [hcall]
    · rw [hcall]
      have hold : ∀ t < a.size, t ≠ b.size := fun t ht => Nat.ne_of_lt (ht.trans_le ih.size_le)
      refine ⟨?_, fun t ht => ?_, fun t ht => ?_, fun n t hn => ?_⟩
      · rw [size_push]
        exact ih.size_le.trans (Nat.le_succ _)
      · rw [name_push, if_neg (hold t ht), ih.name_eq t ht]
      · rw [parent?_push, if_neg (hold t ht), ih.parent?_eq t ht]
      · have hne : n ≠ name := by
          rintro rfl
          rw [ih.byName_eq n t hn] at hfresh
          cases hfresh
        rw [byName_push, if_neg hne, ih.byName_eq n t hn]

/-- The way up from a type of `a` is the same in `b`. -/
theorem Extends.ascent (h : a.Extends b) (ht : t < a.size) :
    (∀ u, b.isA t u = a.isA t u) ∧ b.classOf t = a.classOf t ∧ b.typeAt t = a.typeAt t := by
  induction t using ascent_induction (a := a) with
  | root t hnone =>
    have hb : b.parent? t = none := (h.parent?_eq t ht).trans hnone
    refine ⟨fun u => ?_, ?_, ?_⟩
    · rw [Bool.eq_iff_iff, isA_of_parent?_eq_none hb, isA_of_parent?_eq_none hnone]
    · rw [classOf_of_parent?_eq_none hb, classOf_of_parent?_eq_none hnone]
    · rw [typeAt_of_parent?_eq_none hb, typeAt_of_parent?_eq_none hnone, h.name_eq t ht]
  | child t p hp ih =>
    obtain ⟨hisA, hclass, htype⟩ := ih ((lt_of_parent? hp).trans ht)
    have hb : b.parent? t = some p := (h.parent?_eq t ht).trans hp
    refine ⟨fun u => ?_, ?_, ?_⟩
    · rw [Bool.eq_iff_iff, isA_of_parent?_eq_some hb, isA_of_parent?_eq_some hp, hisA]
    · rw [classOf_of_parent?_eq_some hb, classOf_of_parent?_eq_some hp, hclass]
    · rw [typeAt_of_parent?_eq_some hb, typeAt_of_parent?_eq_some hp, htype, h.name_eq t ht]

/-- The built-in types stand in every arena as they are listed. -/
theorem getElem?_builtinTypes (h : builtin.Reaches a) (ht : t < builtin.size) :
    t < a.size ∧ builtinTypes[t]? = some (a.typeAt t) := by
  have hextends := Extends.of_reaches h
  have hlist : builtinTypes = (List.range builtin.size).map builtin.typeAt := by decide +kernel
  refine ⟨ht.trans_le hextends.size_le, ?_⟩
  rw [(hextends.ascent ht).2.2, hlist]
  simp [ht]

theorem typeAt_idxOf_builtinTypes (h : builtin.Reaches a) {kind : TokenType}
    (hkind : kind ∈ builtinTypes) :
    builtinTypes.idxOf kind < a.size ∧ a.typeAt (builtinTypes.idxOf kind) = kind := by
  have hsize : builtinTypes.length = builtin.size := by decide +kernel
  obtain ⟨hlt, htype⟩ := getElem?_builtinTypes h (hsize ▸ List.idxOf_lt_length_of_mem hkind)
  rw [List.getElem?_idxOf hkind] at htype
  exact ⟨hlt, (Option.some.inj htype).symm⟩

theorem isStop_typeAt (h : builtin.Reaches a) (ht : t < a.size) (text : Text) :
    Token.isStop ⟨some (a.typeAt t), text⟩ = a.isA t 0 := by
  obtain ⟨hpos, hstop⟩ := getElem?_builtinTypes h (t := 0) (by decide +kernel)
  have hstop : TokenType.stop = a.typeAt 0 := Option.some.inj hstop
  rw [Bool.eq_iff_iff, ← (wellFormed_builtin.of_reaches h).isA_typeAt_iff ht hpos, ← hstop]
  simp [Token.isStop, Token.isA]

/-- Whatever has been registered after the built-in types, a type is a kind of the types on the way
up from it. This is an order in which the types above a type form a chain, and a type has one root
above it, its class. Two types have the same class if and only if some type is above both. The way
up ends after at most as many steps as there are older types. The paths of the types show the same
ancestors as the handles. What is registered later changes none of this, so a token of the class of
the stops stays one, and no other token becomes one. -/
theorem ancestry_is_stable_order (h : builtin.Reaches a) :
    (∀ t, a.isA t t) ∧
    (∀ t u, a.isA t u → a.isA u t → t = u) ∧
    (∀ t u v, a.isA t u → a.isA u v → a.isA t v) ∧
    (∀ t u, a.isA t u ↔ ReflTransGen (fun t p => a.parent? t = some p) t u) ∧
    (∀ t u v, a.isA t u → a.isA t v → a.isA u v ∨ a.isA v u) ∧
    (∀ t r, a.isA t r ∧ a.isClassRoot r ↔ r = a.classOf t) ∧
    (∀ t, a.classOf (a.classOf t) = a.classOf t) ∧
    (∀ s t, a.classOf s = a.classOf t ↔ ∃ u, a.isA s u ∧ a.isA t u) ∧
    (∀ t, ∃ n ≤ t, (·.bind a.parent?)^[n] (some t) = some (a.classOf t) ∧
      (·.bind a.parent?)^[n + 1] (some t) = none) ∧
    (∀ t < a.size, ∀ u < a.size, (a.typeAt t).IsA (a.typeAt u) ↔ a.isA t u) ∧
    (∀ t, (a.typeAt t).parent? = (a.parent? t).map a.typeAt ∧
      (a.typeAt t).classRoot = a.typeAt (a.classOf t)) ∧
    ∀ b, a.Reaches b →
      (∀ n t, a.byName n = some t → b.byName n = some t) ∧
      ∀ t < a.size, (∀ u, b.isA t u = a.isA t u) ∧ b.classOf t = a.classOf t ∧
        b.parent? t = a.parent? t ∧ b.name t = a.name t ∧ b.typeAt t = a.typeAt t ∧
        ∀ text, Token.isStop ⟨some (b.typeAt t), text⟩ = a.isA t 0 := by
  have hwf := wellFormed_builtin.of_reaches h
  refine ⟨isA_refl, fun t u => isA_antisymm, fun t u v => isA_trans, fun t u => isA_iff,
    fun t u v => isA_total, fun t r => isA_root_iff, classOf_classOf, fun s t => classOf_eq_iff,
    a.exists_iterate_parent?, fun t ht u hu => hwf.isA_typeAt_iff ht hu,
    fun t => ⟨a.parent?_typeAt t, a.classRoot_typeAt t⟩, ?_⟩
  intro b hb
  have hextends := Extends.of_reaches hb
  refine ⟨hextends.byName_eq, fun t ht => ?_⟩
  obtain ⟨hisA, hclass, htype⟩ := hextends.ascent ht
  refine ⟨hisA, hclass, hextends.parent?_eq t ht, hextends.name_eq t ht, htype, fun text => ?_⟩
  rw [htype, isStop_typeAt h ht text]

/-- A new kind of stop, before and after another root is registered. -/
theorem ancestry_is_stable_order_stop : ∃ a b : TypeArena, builtin.Reaches a ∧ a.Reaches b ∧
    b.size = 48 ∧ b.name 46 = "Stop.Pause" ∧ a.isA 46 0 ∧ b.isA 46 0 ∧ b.classOf 46 = 0 ∧
    ∀ text, Token.isStop ⟨some (b.typeAt 46), text⟩ := by
  let paused := (builtin.tryRegister (some ⟨0, by decide +kernel⟩) "Stop.Pause").2
  have ha : builtin.Reaches paused := .call .refl _ "Stop.Pause"
  have hb : paused.Reaches _ := .call .refl none "Zeta"
  obtain ⟨-, -, -, -, -, -, -, -, -, -, -, hstable⟩ := ancestry_is_stable_order ha
  obtain ⟨hisA, hclass, -, hname, -, hstop⟩ := (hstable _ hb).2 46 (by decide +kernel)
  have hkind : paused.isA 46 0 := by decide +kernel
  exact ⟨_, _, ha, hb, by decide +kernel, hname.trans (by decide +kernel), hkind,
    (hisA 0).trans hkind, hclass.trans (by decide +kernel), fun text => (hstop text).trans hkind⟩

end ModalLexer.TypeArena
