import Mathlib.Data.List.Nodup
import Mathlib.Data.String.Basic
import ModalLexer.Taxonomy.Basic

/-! # Registration of types

The index, the lists of children, the list of roots and the records of an arena all say the same
about the registered types. A registration keeps this: it puts the new type into sorted lists by a
binary search, which finds the right place as the lists are sorted before.
-/

namespace ModalLexer

/-- If only the front of a list satisfies `p`, the halving finds the end of this front. -/
theorem lt_partitionPoint_iff {α : Type} (p : α → Bool) (l : List α)
    (hfront : l.Pairwise fun x y => p y → p x) (i : Nat) (hi : i < l.length) :
    i < partitionPoint p l ↔ p l[i] := by
  fun_induction partitionPoint p l generalizing i with
  | case1 l hmiddle =>
    have hempty := List.getElem?_eq_none_iff.1 hmiddle
    omega
  | case2 l x hmiddle hx ih =>
    obtain ⟨hlt, rfl⟩ := List.getElem?_eq_some_iff.1 hmiddle
    rcases Nat.lt_or_ge (l.length / 2) i with hbehind | hbefore
    · have hright := ih (hfront.sublist (List.drop_sublist _ _)) (i - (l.length / 2 + 1))
        (by rw [List.length_drop]; omega)
      rw [List.getElem_drop] at hright
      simp only [show l.length / 2 + 1 + (i - (l.length / 2 + 1)) = i by omega] at hright
      rw [← hright]
      omega
    · -- In front of an element that satisfies `p` all others do.
      have hp : p l[i] := by
        rcases Nat.lt_or_eq_of_le hbefore with hbefore | rfl
        · exact List.pairwise_iff_getElem.1 hfront i _ hi hlt hbefore hx
        · exact hx
      exact iff_of_true (by omega) hp
  | case3 l x hmiddle hx ih =>
    obtain ⟨hlt, rfl⟩ := List.getElem?_eq_some_iff.1 hmiddle
    have hle := partitionPoint_le p (l.take (l.length / 2))
    rw [List.length_take] at hle
    rcases Nat.lt_or_ge i (l.length / 2) with hbefore | hbehind
    · have hleft := ih (hfront.sublist (List.take_sublist _ _)) i
        (by rw [List.length_take]; omega)
      rwa [List.getElem_take] at hleft
    · have hp : ¬ p l[i] := by
        intro hp
        rcases Nat.lt_or_eq_of_le hbehind with hbehind | rfl
        · exact hx (List.pairwise_iff_getElem.1 hfront _ i hlt hi hbehind hp)
        · exact hx hp
      exact iff_of_false (by omega) hp

theorem insertIdx_eq_take_append {α : Type} (x : α) (l : List α) (i : Nat) (hi : i ≤ l.length) :
    l.insertIdx i x = l.take i ++ x :: l.drop i := by
  induction i generalizing l with
  | zero => simp
  | succ i ih =>
    cases l with
    | nil => simp at hi
    | cons y ys =>
      rw [List.length_cons] at hi
      simp [ih ys (by omega)]

/-- A new name is inserted between the smaller and the greater ones. -/
theorem pairwise_insertSorted {nameOf : Nat → String} {h : Nat} {siblings : List Nat}
    (hsorted : siblings.Pairwise fun s t => nameOf s < nameOf t)
    (hnew : ∀ s ∈ siblings, nameOf s ≠ nameOf h) :
    (insertSorted nameOf h siblings).Pairwise fun s t => nameOf s < nameOf t := by
  let smaller : Nat → Bool := fun s => nameOf s < nameOf h
  let place := partitionPoint smaller siblings
  have hplace : place ≤ siblings.length := partitionPoint_le _ _
  have hfront : siblings.Pairwise fun s t => smaller t → smaller s := by
    refine hsorted.imp ?_
    intro s t hst ht
    exact decide_eq_true (hst.trans (of_decide_eq_true ht))
  have hbefore : ∀ s ∈ siblings.take place, nameOf s < nameOf h := by
    intro s hs
    obtain ⟨i, hi, rfl⟩ := List.getElem_of_mem hs
    rw [List.length_take] at hi
    rw [List.getElem_take]
    have hp := (lt_partitionPoint_iff smaller siblings hfront i (by omega)).1 (by omega)
    exact of_decide_eq_true hp
  have hbehind : ∀ s ∈ siblings.drop place, nameOf h < nameOf s := by
    intro s hs
    have hne := hnew s (List.mem_of_mem_drop hs)
    obtain ⟨i, hi, rfl⟩ := List.getElem_of_mem hs
    rw [List.length_drop] at hi
    rw [List.getElem_drop] at hne ⊢
    have hp := (lt_partitionPoint_iff smaller siblings hfront (place + i) (by omega)).not.1
      (by omega)
    exact lt_of_le_of_ne (not_lt.1 (of_decide_eq_false (Bool.eq_false_iff.2 hp))) hne.symm
  rw [insertSorted, insertIdx_eq_take_append _ _ _ hplace, List.pairwise_append,
    List.pairwise_cons]
  refine ⟨hsorted.sublist (List.take_sublist _ _),
    ⟨hbehind, hsorted.sublist (List.drop_sublist _ _)⟩, ?_⟩
  intro s hs t ht
  rcases List.mem_cons.1 ht with rfl | ht
  · exact hbefore s hs
  · exact (hbefore s hs).trans (hbehind t ht)

namespace TypeArena

variable {a b : TypeArena} {ts : List Nat} {P Q : Nat → Prop} {name : String}

/-- The list consists of the registered types that satisfy `P`, each once, by ascending name. -/
structure Lists (a : TypeArena) (ts : List Nat) (P : Nat → Prop) : Prop where
  mem_iff : ∀ t, t ∈ ts ↔ t < a.size ∧ P t
  ascending : ts.Pairwise fun t u => a.name t < a.name u

theorem Lists.nodup (h : a.Lists ts P) : ts.Nodup := by
  refine h.ascending.imp ?_
  rintro t _ hlt rfl
  exact lt_irrefl _ hlt

/-- The index and the lists of an arena agree with its records. -/
structure WellFormed (a : TypeArena) : Prop where
  name_ne_empty : ∀ t < a.size, a.name t ≠ ""
  byName_eq_some_iff : ∀ name t, a.byName name = some t ↔ t < a.size ∧ a.name t = name
  children : ∀ p, a.Lists (a.children p) fun t => a.parent? t = some p
  classRoots : a.Lists a.classRoots fun t => a.parent? t = none

/-- Registered types with the same name are the same type. -/
theorem WellFormed.name_inj (h : a.WellFormed) {t u : Nat} (ht : t < a.size) (hu : u < a.size)
    (hname : a.name t = a.name u) : t = u := by
  have hbyName := (h.byName_eq_some_iff (a.name u) t).2 ⟨ht, hname⟩
  rw [(h.byName_eq_some_iff (a.name u) u).2 ⟨hu, rfl⟩] at hbyName
  exact (Option.some.inj hbyName).symm

theorem WellFormed.byName_eq_none_iff (h : a.WellFormed) :
    a.byName name = none ↔ ∀ t < a.size, a.name t ≠ name := by
  constructor
  · intro hnone t ht hname
    rw [(h.byName_eq_some_iff name t).2 ⟨ht, hname⟩] at hnone
    cases hnone
  · intro hall
    cases hbyName : a.byName name with
    | none => rfl
    | some t =>
      obtain ⟨ht, hname⟩ := (h.byName_eq_some_iff name t).1 hbyName
      exact absurd hname (hall t ht)

/-- The types sorted by name are all types. -/
theorem WellFormed.all (h : a.WellFormed) : a.Lists a.all fun _ => True where
  mem_iff t := by simp [TypeArena.all]
  ascending := by
    have hsorted : a.all.Pairwise fun t u => decide (a.name t ≤ a.name u) := by
      refine List.pairwise_mergeSort ?_ ?_ _
      · intro t u v htu huv
        exact decide_eq_true (le_trans (of_decide_eq_true htu) (of_decide_eq_true huv))
      · intro t u
        simpa using le_total (a.name t) (a.name u)
    have hnodup : a.all.Nodup := (List.mergeSort_perm _ _).nodup_iff.2 List.nodup_range
    refine (hsorted.and hnodup).imp_of_mem ?_
    intro t u ht hu ⟨hle, hne⟩
    have hregistered : ∀ {v}, v ∈ a.all → v < a.size := by simp [TypeArena.all]
    exact lt_of_le_of_ne (of_decide_eq_true hle) fun heq =>
      hne (h.name_inj (hregistered ht) (hregistered hu) heq)

section Push

variable (parent? : Option (Fin a.size))

/-- The names of registered types are the same behind a registration. -/
theorem Lists.ascending_push (h : a.Lists ts P) :
    ts.Pairwise fun t u => (a.push parent? name).name t < (a.push parent? name).name u := by
  refine h.ascending.imp_of_mem ?_
  intro t u ht hu hlt
  rwa [name_push, name_push, if_neg (Nat.ne_of_lt ((h.mem_iff t).1 ht).1),
    if_neg (Nat.ne_of_lt ((h.mem_iff u).1 hu).1)]

theorem Lists.push_of_not (h : a.Lists ts P) (hold : ∀ t < a.size, Q t ↔ P t)
    (hnew : ¬ Q a.size) : (a.push parent? name).Lists ts Q where
  mem_iff t := by
    rw [h.mem_iff, size_push, Nat.lt_succ_iff_lt_or_eq]
    constructor
    · rintro ⟨ht, hP⟩
      exact ⟨.inl ht, (hold t ht).2 hP⟩
    · rintro ⟨ht | rfl, hQ⟩
      · exact ⟨ht, (hold t ht).1 hQ⟩
      · exact absurd hQ hnew
  ascending := h.ascending_push parent?

theorem Lists.push (h : a.Lists ts P) (hfresh : ∀ t < a.size, a.name t ≠ name)
    (hold : ∀ t < a.size, Q t ↔ P t) (hnew : Q a.size) :
    (a.push parent? name).Lists (insertSorted (a.push parent? name).name a.size ts) Q where
  mem_iff t := by
    rw [mem_insertSorted, h.mem_iff, size_push, Nat.lt_succ_iff_lt_or_eq]
    constructor
    · rintro (rfl | ⟨ht, hP⟩)
      · exact ⟨.inr rfl, hnew⟩
      · exact ⟨.inl ht, (hold t ht).2 hP⟩
    · rintro ⟨ht | rfl, hQ⟩
      · exact .inr ⟨ht, (hold t ht).1 hQ⟩
      · exact .inl rfl
  ascending := by
    refine pairwise_insertSorted (h.ascending_push parent?) ?_
    intro t ht
    have hlt := ((h.mem_iff t).1 ht).1
    rw [name_push, name_push, if_neg (Nat.ne_of_lt hlt), if_pos rfl]
    exact hfresh t hlt

theorem WellFormed.byName_push_eq_some_iff (h : a.WellFormed)
    (hnames : ∀ t < a.size, a.name t ≠ name) (n : String) (t : Nat) :
    (a.push parent? name).byName n = some t
      ↔ t < (a.push parent? name).size ∧ (a.push parent? name).name t = n := by
  rw [byName_push, name_push, size_push, Nat.lt_succ_iff_lt_or_eq]
  by_cases hn : n = name
  · subst hn
    rw [if_pos rfl, Option.some_inj]
    constructor
    · rintro rfl
      exact ⟨.inr rfl, if_pos rfl⟩
    · rintro ⟨ht | rfl, hname⟩
      · rw [if_neg (Nat.ne_of_lt ht)] at hname
        exact absurd hname (hnames t ht)
      · rfl
  · rw [if_neg hn, h.byName_eq_some_iff]
    constructor
    · rintro ⟨ht, hname⟩
      exact ⟨.inl ht, by rwa [if_neg (Nat.ne_of_lt ht)]⟩
    · rintro ⟨ht | rfl, hname⟩
      · rw [if_neg (Nat.ne_of_lt ht)] at hname
        exact ⟨ht, hname⟩
      · rw [if_pos rfl] at hname
        exact absurd hname.symm hn

theorem WellFormed.push (h : a.WellFormed) (hne : name ≠ "") (hfresh : a.byName name = none) :
    (a.push parent? name).WellFormed := by
  have hnames := h.byName_eq_none_iff.1 hfresh
  -- The parent of a type that has been registered before is the same as before.
  have hold : ∀ (q : Option Nat), ∀ t < a.size,
      (a.push parent? name).parent? t = q ↔ a.parent? t = q := by
    intro q t ht
    rw [parent?_push, if_neg (Nat.ne_of_lt ht)]
  have hnew : (a.push parent? name).parent? a.size = parent?.map (·.val) := by
    rw [parent?_push, if_pos rfl]
  constructor
  case byName_eq_some_iff => exact h.byName_push_eq_some_iff parent? hnames
  case name_ne_empty =>
    intro t ht
    rw [name_push]
    split
    · exact hne
    · rw [size_push] at ht
      exact h.name_ne_empty t (by omega)
  case children =>
    intro p
    rw [children_push]
    split
    · next hp => exact (h.children p).push parent? hnames (hold _) (hnew.trans hp)
    · next hp => exact (h.children p).push_of_not parent? (hold _) fun hq => hp (hnew.symm.trans hq)
  case classRoots =>
    rw [classRoots_push]
    split
    · next hp => exact h.classRoots.push parent? hnames (hold _) (hnew.trans hp)
    · next hp => exact h.classRoots.push_of_not parent? (hold _) fun hq => hp (hnew.symm.trans hq)

/-- A registration is refused and changes nothing, or it adds a type with a new name. -/
theorem tryRegister_cases (parent? : Option (Fin a.size)) (name : String) :
    (name = "" ∧ a.tryRegister parent? name = (.error .emptyName, a)) ∨
    (name ≠ "" ∧ (a.byName name).isSome ∧
      a.tryRegister parent? name = (.error (.duplicate name), a)) ∨
    (name ≠ "" ∧ a.byName name = none ∧
      a.tryRegister parent? name = (.ok a.size, a.push parent? name)) := by
  unfold tryRegister
  split
  · next hname => exact .inl ⟨hname, rfl⟩
  · next hname =>
    split
    · next hsome => exact .inr (.inl ⟨hname, hsome, rfl⟩)
    · next hsome => exact .inr (.inr ⟨hname, by simpa using hsome, rfl⟩)

theorem WellFormed.tryRegister (h : a.WellFormed) : (a.tryRegister parent? name).2.WellFormed := by
  rcases tryRegister_cases parent? name with ⟨-, hcall⟩ | ⟨-, -, hcall⟩ | ⟨hne, hfresh, hcall⟩
  · rwa [hcall]
  · rwa [hcall]
  · rw [hcall]
    exact h.push parent? hne hfresh

end Push

theorem wellFormed_empty : empty.WellFormed where
  name_ne_empty t ht := absurd ht (Nat.not_lt_zero t)
  byName_eq_some_iff name t := iff_of_false (by simp [byName, empty]) fun h => Nat.not_lt_zero t h.1
  children p := ⟨fun t => iff_of_false (by simp [TypeArena.children, empty])
    fun h => Nat.not_lt_zero t h.1, .nil⟩
  classRoots := ⟨fun t => iff_of_false (by simp [TypeArena.classRoots, empty])
    fun h => Nat.not_lt_zero t h.1, .nil⟩

theorem WellFormed.foldl_pushBuiltin {types : List TokenType} (h : a.WellFormed)
    (hne : ∀ t ∈ types, t.name ≠ "") (hnames : (types.map (·.name)).Nodup)
    (hfresh : ∀ t ∈ types, a.byName t.name = none) : (types.foldl pushBuiltin a).WellFormed := by
  induction types generalizing a with
  | nil => exact h
  | cons t types ih =>
    rw [List.map_cons, List.nodup_cons] at hnames
    refine ih (h.push _ (hne t List.mem_cons_self) (hfresh t List.mem_cons_self))
      (fun u hu => hne u (List.mem_cons_of_mem t hu)) hnames.2 ?_
    intro u hu
    have hother : u.name ≠ t.name := by
      intro hname
      exact hnames.1 (hname ▸ List.mem_map_of_mem hu)
    rw [pushBuiltin, byName_push, if_neg hother]
    exact hfresh u (List.mem_cons_of_mem t hu)

theorem wellFormed_builtin : builtin.WellFormed :=
  wellFormed_empty.foldl_pushBuiltin (by decide +kernel) (by decide +kernel) fun _ _ => rfl

/-- The arena `b` is what calls of `tryRegister` make of the arena `a`, each with a parent that is
registered at the time of the call, whether they succeed or not. -/
inductive Reaches (a : TypeArena) : TypeArena → Prop
  | refl : Reaches a a
  | call {b : TypeArena} (h : Reaches a b) (parent? : Option (Fin b.size)) (name : String) :
    Reaches a (b.tryRegister parent? name).2

theorem WellFormed.of_reaches (h : a.WellFormed) (hreach : a.Reaches b) : b.WellFormed := by
  induction hreach with
  | refl => exact h
  | call _ parent? name ih => exact ih.tryRegister parent?

/-- Whatever has been registered after the built-in types, the arena is a forest whose parents have
smaller handles than their children, and the index, the list of all types, the list of the roots and
the lists of children say exactly what the records say, in ascending order. A further registration
is refused for the empty name and for a name that is registered, and in no other case. A refused one
changes nothing, and another one only adds the type. -/
theorem registrations_keep_forest (h : builtin.Reaches a) :
    a.WellFormed ∧ a.Lists a.all (fun _ => True) ∧
    (a.all.Nodup ∧ a.classRoots.Nodup ∧ ∀ p, (a.children p).Nodup) ∧
    (∀ t < a.size, ∀ u < a.size, a.name t = a.name u → t = u) ∧
    (∀ t p, a.parent? t = some p → p < t ∧ t < a.size) ∧
    ∀ (parent? : Option (Fin a.size)) (name : String),
      ((a.tryRegister parent? name).1 = .error .emptyName ↔ name = "") ∧
      ((a.tryRegister parent? name).1 = .error (.duplicate name) ↔
        ∃ t < a.size, a.name t = name) ∧
      (∀ e b, a.tryRegister parent? name = (.error e, b) →
        b = a ∧ (e = .emptyName ∨ e = .duplicate name)) ∧
      ∀ t b, a.tryRegister parent? name = (.ok t, b) →
        t = a.size ∧ b.size = a.size + 1 ∧ b.name t = name ∧ b.parent? t = parent?.map (·.val) ∧
          ∀ u < a.size, b.name u = a.name u ∧ b.parent? u = a.parent? u := by
  have hwf := wellFormed_builtin.of_reaches h
  refine ⟨hwf, hwf.all, ⟨hwf.all.nodup, hwf.classRoots.nodup, fun p => (hwf.children p).nodup⟩,
    fun t ht u hu => hwf.name_inj ht hu,
    fun t p hp => ⟨lt_of_parent? hp, lt_size_of_parent? hp⟩, ?_⟩
  intro parent? name
  rcases tryRegister_cases parent? name with
    ⟨rfl, hcall⟩ | ⟨hne, hsome, hcall⟩ | ⟨hne, hfresh, hcall⟩
  · rw [hcall]
    refine ⟨iff_of_true rfl rfl, iff_of_false (by simp) ?_, ?_, ?_⟩
    · rintro ⟨t, ht, hname⟩
      exact hwf.name_ne_empty t ht hname
    · rintro e b ⟨rfl⟩
      exact ⟨rfl, .inl rfl⟩
    · rintro t b ⟨⟩
  · rw [hcall]
    refine ⟨iff_of_false (by simp) hne, iff_of_true rfl ?_, ?_, ?_⟩
    · obtain ⟨t, ht⟩ := Option.isSome_iff_exists.1 hsome
      exact ⟨t, (hwf.byName_eq_some_iff name t).1 ht⟩
    · rintro e b ⟨rfl⟩
      exact ⟨rfl, .inr rfl⟩
    · rintro t b ⟨⟩
  · rw [hcall]
    refine ⟨iff_of_false (by simp) hne, iff_of_false (by simp) ?_, ?_, ?_⟩
    · rintro ⟨t, ht, hname⟩
      exact hwf.byName_eq_none_iff.1 hfresh t ht hname
    · rintro e b ⟨⟩
    · rintro t b ⟨rfl⟩
      refine ⟨rfl, size_push _ _, by simp, by simp, ?_⟩
      intro u hu
      simp [Nat.ne_of_lt hu]

/-- Two siblings in descending order, and one of them once more. -/
theorem registrations_keep_forest_siblings : ∃ a : TypeArena, builtin.Reaches a ∧ a.WellFormed ∧
    a.size = 49 ∧ a.children 46 = [48, 47] ∧ a.name 48 = "Zeta.a" ∧ a.name 47 = "Zeta.b" ∧
    (a.tryRegister none "Zeta.a").1 = .error (.duplicate "Zeta.a") := by
  have hzeta : builtin.Reaches _ := .call .refl none "Zeta"
  have hb := hzeta.call (some ⟨46, by decide +kernel⟩) "Zeta.b"
  have ha := hb.call (some ⟨46, by decide +kernel⟩) "Zeta.a"
  have hagain := ha.call none "Zeta.b"
  obtain ⟨hwf, -, -, -, -, hcalls⟩ := registrations_keep_forest hagain
  refine ⟨_, hagain, hwf, by decide +kernel, by decide +kernel, by decide +kernel,
    by decide +kernel, ?_⟩
  exact (hcalls none "Zeta.a").2.1.2 ⟨48, by decide +kernel, by decide +kernel⟩

end TypeArena

end ModalLexer
