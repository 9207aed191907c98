import Mathlib.Data.List.Find
import ModalLexer.Proofs.Taxonomy.Ancestry
import ModalLexer.Report.Palette

/-! # Colours go by the nearest class

The colour of a type is looked for along the palette and not along the way up from the type. In the
palette no class stands in front of one below it, so the first class that is found is the nearest
one on the way up. This is shown for every list of entries that is arranged like this, in every
arena.
-/

namespace ModalLexer.TypeArena

variable {a : TypeArena} {α : Type} {entries : List (Nat × α)} {c : α} {t p : Nat}

/-- The value of the first entry for a type on the way up from `t`. -/
def firstAbove? (a : TypeArena) (entries : List (Nat × α)) (t : Nat) : Option α :=
  (entries.find? fun entry => a.isA t entry.1).map (·.2)

/-- No entry stands in front of one for the same type or a type below it. -/
def SpecificFirst (a : TypeArena) (entries : List (Nat × α)) : Prop :=
  entries.Pairwise fun entry later => ¬ a.isA later.1 entry.1

instance (a : TypeArena) (entries : List (Nat × α)) : Decidable (a.SpecificFirst entries) :=
  inferInstanceAs (Decidable (entries.Pairwise _))

theorem firstAbove?_of_lookup_eq_some (h : a.SpecificFirst entries)
    (hown : entries.lookup t = some c) : a.firstAbove? entries t = some c := by
  obtain ⟨front, back, rfl, -⟩ := List.lookup_eq_some_iff.1 hown
  -- An entry in front that fits too would be one for a type above `t`.
  have hfront : front.find? (fun entry => a.isA t entry.1) = none := by
    rw [List.find?_eq_none]
    intro entry hentry
    exact (List.pairwise_append.1 h).2.2 entry hentry (t, c) List.mem_cons_self
  have hback : ((t, c) :: back).find? (fun entry => a.isA t entry.1) = some (t, c) :=
    List.find?_cons_of_pos (isA_refl t)
  rw [firstAbove?, List.find?_append, hfront, Option.none_or, hback, Option.map_some]

theorem ne_of_lookup_eq_none (hown : entries.lookup t = none) :
    ∀ entry ∈ entries, t ≠ entry.1 := by
  simpa using List.lookup_eq_none_iff.1 hown

theorem firstAbove?_of_parent?_eq_none (hown : entries.lookup t = none)
    (hparent : a.parent? t = none) : a.firstAbove? entries t = none := by
  rw [firstAbove?, Option.map_eq_none_iff, List.find?_eq_none]
  intro entry hentry hisA
  exact ne_of_lookup_eq_none hown entry hentry ((isA_of_parent?_eq_none hparent).1 hisA)

/-- A type without an entry has the value of its parent. -/
theorem firstAbove?_of_parent?_eq_some (hown : entries.lookup t = none)
    (hparent : a.parent? t = some p) : a.firstAbove? entries t = a.firstAbove? entries p := by
  have hsearch : entries.find? (fun entry => a.isA t entry.1)
      = entries.find? (fun entry => a.isA p entry.1) := by
    refine List.find?_congr fun entry hentry => ?_
    rw [Bool.eq_iff_iff, isA_of_parent?_eq_some hparent,
      or_iff_right (ne_of_lookup_eq_none hown entry hentry)]
  rw [firstAbove?, hsearch, firstAbove?]

/-- The search along the entries finds what the search along the path finds. -/
theorem firstAbove?_eq_findSome?_path (h : a.SpecificFirst entries) (t : Nat) :
    a.firstAbove? entries t = (a.path t).findSome? (entries.lookup ·) := by
  induction t using ascent_induction (a := a) with
  | root t hnone =>
    rw [path_of_parent?_eq_none hnone, List.findSome?_singleton]
    cases hown : entries.lookup t with
    | none => exact firstAbove?_of_parent?_eq_none hown hnone
    | some c => exact firstAbove?_of_lookup_eq_some h hown
  | child t p hp ih =>
    rw [path_of_parent?_eq_some hp, List.findSome?_cons]
    cases hown : entries.lookup t with
    | none => exact (firstAbove?_of_parent?_eq_some hown hp).trans ih
    | some c => exact firstAbove?_of_lookup_eq_some h hown

/-- The type `u` is the nearest one on the way up from `t` that has an entry, and `c` is its value:
all the others that have an entry are above `u`. -/
structure NearestEntry (a : TypeArena) (entries : List (Nat × α)) (t u : Nat) (c : α) : Prop where
  isA : a.isA t u
  lookup_eq : entries.lookup u = some c
  isA_of_entry : ∀ v, a.isA t v → entries.lookup v ≠ none → a.isA u v

theorem exists_nearestEntry (h : (a.path t).findSome? (entries.lookup ·) = some c) :
    ∃ u, a.NearestEntry entries t u c := by
  induction t using ascent_induction (a := a) with
  | root t hnone =>
    rw [path_of_parent?_eq_none hnone, List.findSome?_singleton] at h
    exact ⟨t, isA_refl t, h, fun v htv _ => htv⟩
  | child t p hp ih =>
    rw [path_of_parent?_eq_some hp, List.findSome?_cons] at h
    cases hown : entries.lookup t with
    | some d =>
      rw [hown] at h
      exact ⟨t, isA_refl t, hown.trans h, fun v htv _ => htv⟩
    | none =>
      rw [hown] at h
      obtain ⟨u, hpu, hu, hnearest⟩ := ih h
      refine ⟨u, (isA_of_parent?_eq_some hp).2 (.inr hpu), hu, fun v htv hv => ?_⟩
      obtain rfl | hpv := (isA_of_parent?_eq_some hp).1 htv
      · exact absurd hown hv
      · exact hnearest v hpv hv

theorem findSome?_path_eq_none_iff :
    (a.path t).findSome? (entries.lookup ·) = none ↔ ∀ u, a.isA t u → entries.lookup u = none := by
  simp only [List.findSome?_eq_none_iff, mem_path_iff]

theorem findSome?_path_eq_some_iff :
    (a.path t).findSome? (entries.lookup ·) = some c ↔ ∃ u, a.NearestEntry entries t u c := by
  refine ⟨exists_nearestEntry, ?_⟩
  rintro ⟨u, htu, hu, hnearest⟩
  have hentry : entries.lookup u ≠ none := by simp [hu]
  cases hfound : (a.path t).findSome? (entries.lookup ·) with
  | none => exact absurd (findSome?_path_eq_none_iff.1 hfound u htu) hentry
  | some d =>
    -- Two nearest types are above each other.
    obtain ⟨v, htv, hv, hnearest'⟩ := exists_nearestEntry hfound
    obtain rfl : u = v :=
      isA_antisymm (hnearest v htv (by simp [hv])) (hnearest' u htu hentry)
    exact hv.symm.trans hu

/-- The palette, by the handles of its classes. -/
def paletteByHandle : List (Nat × Color) :=
  palette.map fun entry => (builtinTypes.idxOf entry.1, entry.2)

theorem lt_size_of_mem_palette : ∀ entry ∈ paletteByHandle, entry.1 < builtin.size := by
  decide +kernel

theorem specificFirst_palette (h : builtin.Reaches a) : a.SpecificFirst paletteByHandle := by
  have hbuiltin : builtin.SpecificFirst paletteByHandle := by decide +kernel
  refine List.Pairwise.imp_of_mem ?_ hbuiltin
  intro entry later _ hlater hnot
  rwa [((Extends.of_reaches h).ascent (lt_size_of_mem_palette later hlater)).1]

/-- Types that are registered after the built-in ones have no entry. -/
theorem lookup_palette_eq_none (ht : builtin.size ≤ t) : paletteByHandle.lookup t = none := by
  rw [List.lookup_eq_none_iff]
  intro entry hentry
  have hlt := (lt_size_of_mem_palette entry hentry).trans_le ht
  exact bne_iff_ne.2 (Nat.ne_of_gt hlt)

theorem color?_typeAt (h : builtin.Reaches a) (ht : t < a.size) :
    (a.typeAt t).color? = a.firstAbove? paletteByHandle t := by
  have hbuiltin : ∀ entry ∈ palette, entry.1 ∈ builtinTypes := by decide
  have hsearch : palette.find? (fun entry => (a.typeAt t).IsA entry.1)
      = palette.find? fun entry => a.isA t (builtinTypes.idxOf entry.1) := by
    refine List.find?_congr fun entry hentry => ?_
    obtain ⟨hlt, htype⟩ := typeAt_idxOf_builtinTypes h (hbuiltin entry hentry)
    have hisA := (wellFormed_builtin.of_reaches h).isA_typeAt_iff ht hlt
    rw [htype] at hisA
    rw [Bool.eq_iff_iff, decide_eq_true_iff, hisA]
  rw [TokenType.color?, hsearch, firstAbove?, paletteByHandle, List.find?_map, Option.map_map]
  rfl

/-- Whatever has been registered after the built-in types, the colour of a type is the first one in
the palette whose class the type is a kind of. This is the colour of the nearest type that has one
on the path from the type up to its class: no other type with a colour is in between. A type has no
colour exactly if no type on its path has one. A type that is not built in never has a colour of its
own but that of its parent, and none if it has no parent. A report finds the colour of a type by its
name. -/
theorem color_is_of_nearest_class (h : builtin.Reaches a) (ht : t < a.size) :
    (a.typeAt t).color? = (paletteByHandle.find? fun entry => a.isA t entry.1).map (·.2) ∧
    (a.typeAt t).color? = (a.path t).findSome? (paletteByHandle.lookup ·) ∧
    ((a.path t).head? = some t ∧ (a.path t).IsChain (fun t p => a.parent? t = some p) ∧
      (a.path t).getLast? = some (a.classOf t)) ∧
    (∀ c, (a.typeAt t).color? = some c ↔ ∃ u, a.NearestEntry paletteByHandle t u c) ∧
    ((a.typeAt t).color? = none ↔ ∀ u, a.isA t u → paletteByHandle.lookup u = none) ∧
    (builtin.size ≤ t →
      (a.typeAt t).color? = (a.parent? t).bind fun p => (a.typeAt p).color?) ∧
    (⟨a⟩ : Taxonomy).color? (a.name t) = (a.typeAt t).color? := by
  have hpath := firstAbove?_eq_findSome?_path (specificFirst_palette h) t
  have hname : a.byName (a.name t) = some t :=
    ((wellFormed_builtin.of_reaches h).byName_eq_some_iff _ _).2 ⟨ht, rfl⟩
  rw [color?_typeAt h ht]
  refine ⟨rfl, hpath, ⟨a.head?_path t, a.isChain_path t, a.getLast?_path t⟩, ?_, ?_, ?_, ?_⟩
  · intro c
    rw [hpath, findSome?_path_eq_some_iff]
  · rw [hpath, findSome?_path_eq_none_iff]
  · intro huser
    have hown := lookup_palette_eq_none huser
    cases hparent : a.parent? t with
    | none => exact firstAbove?_of_parent?_eq_none hown hparent
    | some p =>
      rw [firstAbove?_of_parent?_eq_some hown hparent, Option.bind_some,
        color?_typeAt h ((lt_of_parent? hparent).trans ht)]
  · rw [Taxonomy.color?, Taxonomy.find?, hname, Option.map_some, Option.bind_some,
      color?_typeAt h ht]

/-- Two user types above each other, below `Stop.Error`, which has another colour than `Stop`. -/
theorem color_is_of_nearest_class_fatal : ∃ a : TypeArena, builtin.Reaches a ∧ 47 < a.size ∧
    a.name 47 = "Stop.Error.Fatal.Disk" ∧ a.path 47 = [47, 46, 1, 0] ∧
    paletteByHandle.lookup 1 = some .red ∧ paletteByHandle.lookup 0 = some .brightBlack ∧
    (a.typeAt 47).color? = some .red := by
  have hfatal : builtin.Reaches _ := .call .refl (some ⟨1, by decide +kernel⟩) "Stop.Error.Fatal"
  have ha := hfatal.call (some ⟨46, by decide +kernel⟩) "Stop.Error.Fatal.Disk"
  obtain ⟨-, hnearest, -⟩ := color_is_of_nearest_class ha (t := 47) (by decide +kernel)
  refine ⟨_, ha, by decide +kernel, by decide +kernel, by decide +kernel, by decide +kernel,
    by decide +kernel, ?_⟩
  rw [hnearest]
  decide +kernel

end ModalLexer.TypeArena
