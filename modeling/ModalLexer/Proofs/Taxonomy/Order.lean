import Mathlib.Data.List.Sort
import ModalLexer.Proofs.Taxonomy.Ancestry
import ModalLexer.Report.Types

/-! # The order of registration

A handle shows when a type was registered. All else that an arena shows goes through names, and in
lists that ascend by name: it follows from the set of the entries, which are the names of the types
with the names of their parents.
-/

namespace ModalLexer.TypeArena

variable {a b c : TypeArena} {t u p : Nat} {n : String} {q : Option String}
  {call : Option String × String} {calls calls' : List (Option String × String)}

/-- The name of each type behind the name of its parent, in the order of registration. -/
def entries (a : TypeArena) : List (Option String × String) :=
  (List.range a.size).map fun t => ((a.parent? t).map a.name, a.name t)

theorem mem_entries_iff :
    (q, n) ∈ a.entries ↔ ∃ t < a.size, (a.parent? t).map a.name = q ∧ a.name t = n := by
  simp [entries]

theorem entries_push (parent? : Option (Fin a.size)) (name : String) :
    (a.push parent? name).entries
      = a.entries ++ [(parent?.map fun p : Fin _ => a.name p, name)] := by
  have hold : ∀ t < a.size, (a.push parent? name).name t = a.name t := by
    intro t ht
    rw [name_push, if_neg (Nat.ne_of_lt ht)]
  rw [entries, size_push, List.range_succ, List.map_append, List.map_singleton, parent?_push,
    if_pos rfl, name_push, if_pos rfl]
  congr 1
  · refine List.map_congr_left ?_
    intro t ht
    have ht := List.mem_range.1 ht
    rw [hold t ht, parent?_push, if_neg (Nat.ne_of_lt ht)]
    cases hp : a.parent? t with
    | none => rfl
    | some p => rw [Option.map_some, Option.map_some, hold p ((lt_of_parent? hp).trans ht)]
  · cases parent? with
    | none => rfl
    | some p => simp [Nat.ne_of_lt p.isLt]

/-- The registered type with the name that is asked for as a parent. -/
def parentNamed? (a : TypeArena) : Option String → Option (Option (Fin a.size))
  | none => some none
  | some parent => ((a.byName parent).bind a.handle?).map some

/-- Registers a type below the one with the given name. There is no result if there is no such type
or if the registration is refused. -/
def registerNamed? (a : TypeArena) (call : Option String × String) : Option TypeArena :=
  (a.parentNamed? call.1).bind fun parent? =>
    match a.tryRegister parent? call.2 with
    | (.ok _, b) => some b
    | (.error _, _) => none

/-- Registers types one after the other. -/
def registerAll? (a : TypeArena) (calls : List (Option String × String)) : Option TypeArena :=
  calls.foldlM registerNamed? a

theorem parentNamed?_spec (ha : a.WellFormed) {parent? : Option (Fin a.size)}
    (h : a.parentNamed? q = some parent?) : parent?.map (fun p : Fin _ => a.name p) = q := by
  cases q with
  | none =>
    cases h
    rfl
  | some parent =>
    obtain ⟨p, hp, rfl⟩ := Option.map_eq_some_iff.1 h
    obtain ⟨t, ht, hhandle⟩ := Option.bind_eq_some_iff.1 hp
    obtain rfl := handle?_eq_some_iff.1 hhandle
    exact congrArg some ((ha.byName_eq_some_iff parent _).1 ht).2

theorem registerNamed?_spec (ha : a.WellFormed) (h : a.registerNamed? call = some b) :
    b.WellFormed ∧ b.entries = a.entries ++ [call] := by
  obtain ⟨q, name⟩ := call
  obtain ⟨parent?, hparent, hcall⟩ := Option.bind_eq_some_iff.1 h
  rcases tryRegister_cases parent? name with ⟨-, htry⟩ | ⟨-, -, htry⟩ | ⟨hne, hfresh, htry⟩
  · rw [htry] at hcall
    cases hcall
  · rw [htry] at hcall
    cases hcall
  · simp only [htry] at hcall
    cases hcall
    exact ⟨ha.push parent? hne hfresh, by rw [entries_push, parentNamed?_spec ha hparent]⟩

theorem registerAll?_spec (ha : a.WellFormed) (h : a.registerAll? calls = some b) :
    b.WellFormed ∧ b.entries = a.entries ++ calls := by
  induction calls generalizing a with
  | nil =>
    cases h
    exact ⟨ha, by simp⟩
  | cons call calls ih =>
    rw [registerAll?, List.foldlM_cons] at h
    obtain ⟨c, hcall, hcalls⟩ := Option.bind_eq_some_iff.1 h
    obtain ⟨hc, hentries⟩ := registerNamed?_spec ha hcall
    obtain ⟨hb, hall⟩ := ih hc hcalls
    exact ⟨hb, by rw [hall, hentries, List.append_assoc, List.singleton_append]⟩

/-- The two arenas have the same types, up to handles. -/
structure SameTypes (a b : TypeArena) : Prop where
  left : a.WellFormed
  right : b.WellFormed
  mem_entries : ∀ entry, entry ∈ a.entries ↔ entry ∈ b.entries

/-- A type has an equal parent under both handles. -/
theorem SameTypes.parent_name (h : a.SameTypes b) (ht : t < a.size) (hu : u < b.size)
    (hname : a.name t = b.name u) : (a.parent? t).map a.name = (b.parent? u).map b.name := by
  obtain ⟨v, hv, hparent, hvname⟩ :=
    mem_entries_iff.1 ((h.mem_entries _).1 (mem_entries_iff.2 ⟨t, ht, rfl, rfl⟩))
  obtain rfl := h.right.name_inj hv hu (hvname.trans hname)
  exact hparent.symm

theorem SameTypes.typeAt_eq (h : a.SameTypes b) (ht : t < a.size) (hu : u < b.size)
    (hname : a.name t = b.name u) : a.typeAt t = b.typeAt u := by
  have hparent := h.parent_name ht hu hname
  induction t using ascent_induction (a := a) generalizing u with
  | root t hnone =>
    rw [hnone, Option.map_none, eq_comm, Option.map_eq_none_iff] at hparent
    rw [typeAt_of_parent?_eq_none hnone, typeAt_of_parent?_eq_none hparent, hname]
  | child t p hp ih =>
    rw [hp, Option.map_some, eq_comm, Option.map_eq_some_iff] at hparent
    obtain ⟨p', hp', hpname⟩ := hparent
    have hlt : p < a.size := (lt_of_parent? hp).trans ht
    have hlt' : p' < b.size := (lt_of_parent? hp').trans hu
    rw [typeAt_of_parent?_eq_some hp, typeAt_of_parent?_eq_some hp', hname,
      ih hlt hlt' hpname.symm (h.parent_name hlt hlt' hpname.symm)]

/-- Lists of the same names are the same. -/
theorem Lists.map_name_eq {ts us : List Nat} {P Q : Nat → Prop} (hts : a.Lists ts P)
    (hus : b.Lists us Q)
    (hsame : ∀ n, (∃ t < a.size, P t ∧ a.name t = n) ↔ ∃ u < b.size, Q u ∧ b.name u = n) :
    ts.map a.name = us.map b.name := by
  refine List.Pairwise.eq_of_mem_iff (List.pairwise_map.2 hts.ascending)
    (List.pairwise_map.2 hus.ascending) ?_
  intro n
  simp only [List.mem_map, hts.mem_iff, hus.mem_iff, and_assoc]
  exact hsame n

theorem exists_name_iff : (∃ t < a.size, a.name t = n) ↔ ∃ q, (q, n) ∈ a.entries := by
  simp only [mem_entries_iff]
  constructor
  · rintro ⟨t, ht, hname⟩
    exact ⟨_, t, ht, rfl, hname⟩
  · rintro ⟨q, t, ht, -, hname⟩
    exact ⟨t, ht, hname⟩

theorem exists_root_iff :
    (∃ t < a.size, a.parent? t = none ∧ a.name t = n) ↔ (none, n) ∈ a.entries := by
  simp only [mem_entries_iff, Option.map_eq_none_iff]

theorem WellFormed.exists_child_iff (h : a.WellFormed) (hp : p < a.size) :
    (∃ t < a.size, a.parent? t = some p ∧ a.name t = n) ↔ (some (a.name p), n) ∈ a.entries := by
  rw [mem_entries_iff]
  constructor
  · rintro ⟨t, ht, hparent, htname⟩
    exact ⟨t, ht, by rw [hparent, Option.map_some], htname⟩
  · rintro ⟨t, ht, hparent, htname⟩
    obtain ⟨p', hp', hpname⟩ := Option.map_eq_some_iff.1 hparent
    obtain rfl := h.name_inj ((lt_of_parent? hp').trans ht) hp hpname
    exact ⟨t, ht, hp', htname⟩

theorem SameTypes.exists_name_iff (h : a.SameTypes b) :
    (∃ t < a.size, a.name t = n) ↔ ∃ u < b.size, b.name u = n := by
  rw [TypeArena.exists_name_iff, TypeArena.exists_name_iff]
  exact exists_congr fun q => h.mem_entries (q, n)

theorem SameTypes.all_names (h : a.SameTypes b) : a.all.map a.name = b.all.map b.name := by
  refine h.left.all.map_name_eq h.right.all ?_
  intro n
  simpa only [true_and] using h.exists_name_iff

theorem SameTypes.classRoots_names (h : a.SameTypes b) :
    a.classRoots.map a.name = b.classRoots.map b.name := by
  refine h.left.classRoots.map_name_eq h.right.classRoots ?_
  intro n
  rw [exists_root_iff, exists_root_iff]
  exact h.mem_entries (none, n)

theorem SameTypes.children_names (h : a.SameTypes b) (ht : t < a.size) (hu : u < b.size)
    (hname : a.name t = b.name u) :
    (a.children t).map a.name = (b.children u).map b.name := by
  refine (h.left.children t).map_name_eq (h.right.children u) ?_
  intro n
  rw [h.left.exists_child_iff ht, h.right.exists_child_iff hu, hname]
  exact h.mem_entries (some (b.name u), n)

theorem SameTypes.class_name (h : a.SameTypes b) (ht : t < a.size) (hu : u < b.size)
    (hname : a.name t = b.name u) : a.name (a.classOf t) = b.name (b.classOf u) := by
  rw [← name_typeAt, ← name_typeAt, ← classRoot_typeAt, ← classRoot_typeAt,
    h.typeAt_eq ht hu hname]

theorem SameTypes.isA_eq (h : a.SameTypes b) {t' u' : Nat} (ht : t < a.size) (hu : u < b.size)
    (hname : a.name t = b.name u) (ht' : t' < a.size) (hu' : u' < b.size)
    (hname' : a.name t' = b.name u') : a.isA t t' = b.isA u u' := by
  rw [Bool.eq_iff_iff, ← h.left.isA_typeAt_iff ht ht', ← h.right.isA_typeAt_iff hu hu',
    h.typeAt_eq ht hu hname, h.typeAt_eq ht' hu' hname']

/-- What is the same for types of the same name is the same for the types that a name finds. -/
theorem SameTypes.byName_map_eq {α : Type} {F G : Nat → α} (h : a.SameTypes b)
    (hsame : ∀ t < a.size, ∀ u < b.size, a.name t = b.name u → F t = G u) (n : String) :
    (a.byName n).map F = (b.byName n).map G := by
  cases ha : a.byName n with
  | none =>
    have hb : b.byName n = none := by
      rw [h.right.byName_eq_none_iff]
      intro u hu hname
      obtain ⟨t, ht, hname⟩ := h.exists_name_iff.2 ⟨u, hu, hname⟩
      exact h.left.byName_eq_none_iff.1 ha t ht hname
    rw [hb, Option.map_none, Option.map_none]
  | some t =>
    obtain ⟨ht, htname⟩ := (h.left.byName_eq_some_iff n t).1 ha
    obtain ⟨u, hu, huname⟩ := h.exists_name_iff.1 ⟨t, ht, htname⟩
    rw [(h.right.byName_eq_some_iff n u).2 ⟨hu, huname⟩, Option.map_some, Option.map_some,
      hsame t ht u hu (htname.trans huname.symm)]

/-- Two functions agree on lists of elements that have the same names in order. -/
theorem map_eq_map_of_names {α : Type} {f g : Nat → String} {F G : Nat → α} {ts us : List Nat}
    (hnames : ts.map f = us.map g) (h : ∀ t ∈ ts, ∀ u ∈ us, f t = g u → F t = G u) :
    ts.map F = us.map G := by
  induction ts generalizing us with
  | nil =>
    obtain rfl : us = [] := by simpa using hnames.symm
    rfl
  | cons t ts ih =>
    cases us with
    | nil => cases hnames
    | cons u us =>
      obtain ⟨hname, hnames⟩ := List.cons_eq_cons.1 hnames
      rw [List.map_cons, List.map_cons, h t List.mem_cons_self u List.mem_cons_self hname,
        ih hnames fun t ht u hu => h t (List.mem_cons_of_mem _ ht) u (List.mem_cons_of_mem _ hu)]

theorem SameTypes.subtree_eq (h : a.SameTypes b) (ht : t < a.size) (hu : u < b.size)
    (hname : a.name t = b.name u) : a.subtree t = b.subtree u := by
  -- The children of a type have greater handles, so this is an induction down from the last one.
  induction hsize : a.size - t using Nat.strongRecOn generalizing t u with
  | ind n ih =>
    rw [TypeArena.subtree_eq, TypeArena.subtree_eq, hname]
    refine congrArg _ (map_eq_map_of_names (h.children_names ht hu hname) ?_)
    intro c hc c' hc' hcname
    have hlt := ((h.left.children t).mem_iff c).1 hc
    have hlt' := ((h.right.children u).mem_iff c').1 hc'
    have hchild := lt_of_parent? hlt.2
    exact ih (a.size - c) (by omega) hlt.1 hlt'.1 hcname rfl

theorem SameTypes.forest_eq (h : a.SameTypes b) : a.forest = b.forest := by
  refine map_eq_map_of_names h.classRoots_names ?_
  intro t ht u hu hname
  exact h.subtree_eq ((h.left.classRoots.mem_iff t).1 ht).1
    ((h.right.classRoots.mem_iff u).1 hu).1 hname

theorem sameTypes_of_perm (ha : a.WellFormed) (hperm : calls.Perm calls')
    (hb : a.registerAll? calls = some b) (hc : a.registerAll? calls' = some c) :
    b.SameTypes c := by
  obtain ⟨hb, hentries⟩ := registerAll?_spec ha hb
  obtain ⟨hc, hentries'⟩ := registerAll?_spec ha hc
  refine ⟨hb, hc, fun entry => ?_⟩
  rw [hentries, hentries', List.mem_append, List.mem_append, hperm.mem_iff]

/-- Types that are registered after the built-in ones, in two orders in which no registration fails,
are shown in the same way: the lists of names, what is known of the type with a given name, and the
tree with its renderings do not depend on the order. -/
theorem registration_order_is_hidden (hperm : calls.Perm calls')
    (ha : builtin.registerAll? calls = some a) (hb : builtin.registerAll? calls' = some b) :
    a.all.map a.name = b.all.map b.name ∧
    a.classRoots.map a.name = b.classRoots.map b.name ∧
    (∀ n, (a.byName n).map (fun t => (a.children t).map a.name)
      = (b.byName n).map fun t => (b.children t).map b.name) ∧
    (∀ n, (a.byName n).map (fun t => (a.parent? t).map a.name)
      = (b.byName n).map fun t => (b.parent? t).map b.name) ∧
    (∀ n, (a.byName n).map (fun t => a.name (a.classOf t))
      = (b.byName n).map fun t => b.name (b.classOf t)) ∧
    (∀ m n, (a.byName m).map (fun t => (a.byName n).map (a.isA t))
      = (b.byName m).map fun t => (b.byName n).map (b.isA t)) ∧
    (∀ n, (a.byName n).map a.typeAt = (b.byName n).map b.typeAt) ∧
    a.forest = b.forest ∧ TypeTree.human a.forest = TypeTree.human b.forest ∧
    (TypeTree.forestJson a.forest).pretty = (TypeTree.forestJson b.forest).pretty := by
  have h : a.SameTypes b := sameTypes_of_perm wellFormed_builtin hperm ha hb
  refine ⟨h.all_names, h.classRoots_names, h.byName_map_eq fun t ht u hu => h.children_names ht hu,
    h.byName_map_eq fun t ht u hu => h.parent_name ht hu,
    h.byName_map_eq fun t ht u hu => h.class_name ht hu, fun m n => ?_,
    h.byName_map_eq fun t ht u hu => h.typeAt_eq ht hu, h.forest_eq, ?_, ?_⟩
  · refine h.byName_map_eq (fun t ht u hu hname => ?_) m
    exact h.byName_map_eq (fun t' ht' u' hu' => h.isA_eq ht hu hname ht' hu') n
  · rw [h.forest_eq]
  · rw [h.forest_eq]

/-- Two roots and the children of one of them, whose handles depend on the order. -/
theorem registration_order_is_hidden_siblings : ∃ a b : TypeArena,
    builtin.registerAll? [(none, "Zeta"), (some "Zeta", "Zeta.b"), (some "Zeta", "Zeta.a"),
      (none, "Alpha")] = some a ∧
    builtin.registerAll? [(none, "Alpha"), (none, "Zeta"), (some "Zeta", "Zeta.a"),
      (some "Zeta", "Zeta.b")] = some b ∧
    a.byName "Zeta" = some 46 ∧ b.byName "Zeta" = some 47 ∧
    a.all.map a.name = b.all.map b.name ∧ TypeTree.human a.forest = TypeTree.human b.forest := by
  have hfirst : ((builtin.registerAll? [(none, "Zeta"), (some "Zeta", "Zeta.b"),
      (some "Zeta", "Zeta.a"), (none, "Alpha")]).bind (·.byName "Zeta")) = some 46 := by
    decide +kernel
  have hsecond : ((builtin.registerAll? [(none, "Alpha"), (none, "Zeta"), (some "Zeta", "Zeta.a"),
      (some "Zeta", "Zeta.b")]).bind (·.byName "Zeta")) = some 47 := by
    decide +kernel
  obtain ⟨a, ha, hzeta⟩ := Option.bind_eq_some_iff.1 hfirst
  obtain ⟨b, hb, hzeta'⟩ := Option.bind_eq_some_iff.1 hsecond
  obtain ⟨hall, -, -, -, -, -, -, -, htree, -⟩ :=
    registration_order_is_hidden (by decide +kernel) ha hb
  exact ⟨a, b, ha, hb, hzeta, hzeta', hall, htree⟩

end ModalLexer.TypeArena
