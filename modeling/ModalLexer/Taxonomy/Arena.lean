import ModalLexer.Text.Quoted
import ModalLexer.TokenType

/-! # The arena of token types

The registered types stand in a list, in the order of their registration, and the position of a type
is its handle, a number without a bound. Types are never removed. A record names its parent, and it
lists the children of its type by ascending name. Beside the records the arena keeps an index from
names to handles and the list of the types without a parent.
-/

namespace ModalLexer

inductive RegistrationError where
  | emptyName
  | duplicate (name : String)
deriving DecidableEq, Repr

def RegistrationError.message : RegistrationError → String
  | emptyName => "token type name is empty"
  | duplicate name => "token type " ++ quoteString name ++ " already registered"

structure TypeRecord where
  name : String := ""
  parent? : Option Nat := none
  children : List Nat := []
deriving DecidableEq, Repr

/-- The length of the front of a list that satisfies `p`, found by halving. Only the front may
satisfy `p`. -/
def partitionPoint {α : Type} (p : α → Bool) (l : List α) : Nat :=
  match h : l[l.length / 2]? with
  | none => 0
  | some x =>
    if p x then l.length / 2 + 1 + partitionPoint p (l.drop (l.length / 2 + 1))
    else partitionPoint p (l.take (l.length / 2))
termination_by l.length
decreasing_by
  all_goals
    obtain ⟨hlt, -⟩ := List.getElem?_eq_some_iff.1 h
    simp only [List.length_drop, List.length_take]
    omega

/-- Inserts a handle into a list that ascends by name, before the first one with no smaller name. -/
def insertSorted (nameOf : Nat → String) (h : Nat) (siblings : List Nat) : List Nat :=
  siblings.insertIdx (partitionPoint (fun s => nameOf s < nameOf h) siblings) h

theorem partitionPoint_le {α : Type} (p : α → Bool) (l : List α) :
    partitionPoint p l ≤ l.length := by
  fun_induction partitionPoint p l with
  | case1 l h => exact Nat.zero_le _
  | case2 l x h hx ih =>
    obtain ⟨hlt, -⟩ := List.getElem?_eq_some_iff.1 h
    simp only [List.length_drop] at ih
    omega
  | case3 l x h hx ih =>
    simp only [List.length_take] at ih
    omega

theorem mem_insertSorted {nameOf : Nat → String} {h s : Nat} {siblings : List Nat} :
    s ∈ insertSorted nameOf h siblings ↔ s = h ∨ s ∈ siblings :=
  List.mem_insertIdx (partitionPoint_le _ _)

/-- The name of the type with the given handle, and no name if there is none. -/
def nameIn (records : List TypeRecord) (h : Nat) : String :=
  (records[h]?.getD {}).name

/-- The records with one more at the end. Its handle is put among the children of its parent: the
list is taken out of the record of the parent, and put back with the handle in it. -/
def addRecord (records : List TypeRecord) (parent? : Option Nat) (name : String) :
    List TypeRecord :=
  let added := records ++ [⟨name, parent?, []⟩]
  match parent? with
  | none => added
  | some p =>
    let taken := added.modify p fun r => { r with children := [] }
    let children :=
      insertSorted (nameIn taken) records.length (added[p]?.getD {}).children
    taken.modify p fun r => { r with children }

/-- The name of a type is not touched by what happens to lists of children. -/
theorem nameIn_modify (records : List TypeRecord) (p : Nat)
    (children : TypeRecord → List Nat) :
    nameIn (records.modify p fun r => { r with children := children r }) = nameIn records := by
  funext h
  simp only [nameIn, List.getElem?_modify]
  cases records[h]? with
  | none => rfl
  | some r => by_cases hp : p = h <;> simp [hp]

theorem nameIn_addRecord (records : List TypeRecord) (parent? : Option Nat) (name : String) :
    nameIn (addRecord records parent? name) = nameIn (records ++ [⟨name, parent?, []⟩]) := by
  cases parent? with
  | none => rfl
  | some p => simp only [addRecord, nameIn_modify]

@[simp] theorem length_addRecord (records : List TypeRecord) (parent? : Option Nat)
    (name : String) : (addRecord records parent? name).length = records.length + 1 := by
  unfold addRecord
  split <;> simp

/-- A new record stands behind the others, which stay as they are but for the list of children of
its parent. -/
theorem getElem?_addRecord (records : List TypeRecord) (parent? : Option Nat) (name : String)
    (hparent : ∀ p ∈ parent?, p < records.length) (h : Nat) :
    (addRecord records parent? name)[h]? =
      if h = records.length then some ⟨name, parent?, []⟩
      else records[h]?.map fun r =>
        if parent? = some h then
          { r with
            children :=
              insertSorted (nameIn (records ++ [⟨name, parent?, []⟩])) records.length r.children }
        else r := by
  have happend : (records ++ [(⟨name, parent?, []⟩ : TypeRecord)])[h]?
      = if h = records.length then some ⟨name, parent?, []⟩ else records[h]? := by
    rcases Nat.lt_trichotomy h records.length with hlt | rfl | hgt
    · rw [List.getElem?_append_left hlt, if_neg (Nat.ne_of_lt hlt)]
    · simp
    · rw [if_neg (Nat.ne_of_gt hgt), List.getElem?_eq_none (Nat.le_of_lt hgt),
        List.getElem?_eq_none (by simpa using Nat.succ_le_of_lt hgt)]
  cases parent? with
  | none => simp [addRecord, happend]
  | some p =>
    have hp : p < records.length := hparent p rfl
    have hbefore : (records ++ [(⟨name, some p, []⟩ : TypeRecord)])[p]? = records[p]? :=
      List.getElem?_append_left hp
    simp only [addRecord, List.getElem?_modify, happend, nameIn_modify, hbefore]
    by_cases hnew : h = records.length
    · subst hnew
      simp [Nat.ne_of_lt hp]
    · by_cases hchild : p = h
      · subst hchild
        simp [hnew, hp]
      · simp [hnew, hchild]

/-- In a list of records a parent stands before its children. -/
structure ParentsFirst (records : List TypeRecord) : Prop where
  parent_lt {h p : Nat} {r : TypeRecord} : records[h]? = some r → r.parent? = some p → p < h
  lt_child {h c : Nat} {r : TypeRecord} : records[h]? = some r → c ∈ r.children → h < c

theorem ParentsFirst.addRecord {records : List TypeRecord} (hfirst : ParentsFirst records)
    {parent? : Option Nat} (name : String) (hparent : ∀ p ∈ parent?, p < records.length) :
    ParentsFirst (addRecord records parent? name) where
  parent_lt {h p r} hrecord hp := by
    rw [getElem?_addRecord records parent? name hparent] at hrecord
    split at hrecord
    · next hnew =>
      cases hrecord
      exact hnew ▸ hparent p hp
    · obtain ⟨old, hold, rfl⟩ := Option.map_eq_some_iff.1 hrecord
      refine hfirst.parent_lt hold ?_
      split at hp <;> exact hp
  lt_child {h c r} hrecord hc := by
    rw [getElem?_addRecord records parent? name hparent] at hrecord
    split at hrecord
    · cases hrecord
      simp at hc
    · obtain ⟨old, hold, rfl⟩ := Option.map_eq_some_iff.1 hrecord
      obtain ⟨hlt, -⟩ := List.getElem?_eq_some_iff.1 hold
      split at hc
      · rcases mem_insertSorted.1 hc with rfl | hc
        · exact hlt
        · exact hfirst.lt_child hold hc
      · exact hfirst.lt_child hold hc

theorem lt_of_map_val {n p : Nat} {parent? : Option (Fin n)}
    (h : parent?.map (·.val) = some p) : p < n := by
  obtain ⟨q, -, rfl⟩ := Option.map_eq_some_iff.1 h
  exact q.isLt

structure TypeArena where
  records : List TypeRecord := []
  index : List (String × Nat) := []
  roots : List Nat := []
  parentsFirst : ParentsFirst records

namespace TypeArena

def empty : TypeArena where
  parentsFirst := ⟨by simp, by simp⟩

variable (a : TypeArena)

def size : Nat := a.records.length

def name (t : Nat) : String := nameIn a.records t

def parent? (t : Nat) : Option Nat := a.records[t]?.bind (·.parent?)

/-- The types right below `t`, by ascending name. -/
def children (t : Nat) : List Nat := (a.records[t]?.getD {}).children

/-- The types without a parent, by ascending name. -/
def classRoots : List Nat := a.roots

/-- The type that is registered with the given name. -/
def byName (name : String) : Option Nat := a.index.lookup name

/-- All types, by ascending name. -/
def all : List Nat := (List.range a.size).mergeSort fun t u => a.name t ≤ a.name u

/-- Adds a type below `parent?`, or one without a parent. Its handle is the size of the arena. -/
def push (parent? : Option (Fin a.size)) (name : String) : TypeArena :=
  let records := addRecord a.records (parent?.map (·.val)) name
  { records
    index := (name, a.size) :: a.index
    roots := if parent?.isNone then insertSorted (nameIn records) a.size a.roots else a.roots
    parentsFirst := a.parentsFirst.addRecord name fun _ => lt_of_map_val }

/-- Registers a type, with the answer and the arena behind the call. -/
def tryRegister (parent? : Option (Fin a.size)) (name : String) :
    Except RegistrationError Nat × TypeArena :=
  if name = "" then (.error .emptyName, a)
  else if (a.byName name).isSome then (.error (.duplicate name), a)
  else (.ok a.size, a.push parent? name)

variable {a}

theorem lt_of_parent? {t p : Nat} (h : a.parent? t = some p) : p < t := by
  obtain ⟨r, hrecord, hp⟩ := Option.bind_eq_some_iff.1 h
  exact a.parentsFirst.parent_lt hrecord hp

theorem lt_size_of_parent? {t p : Nat} (h : a.parent? t = some p) : t < a.size := by
  obtain ⟨r, hrecord, -⟩ := Option.bind_eq_some_iff.1 h
  exact (List.getElem?_eq_some_iff.1 hrecord).1

theorem lt_of_mem_children {t c : Nat} (h : c ∈ a.children t) : t < c ∧ t < a.size := by
  cases hrecord : a.records[t]? with
  | none => simp [children, hrecord] at h
  | some r =>
    refine ⟨a.parentsFirst.lt_child hrecord ?_, (List.getElem?_eq_some_iff.1 hrecord).1⟩
    simpa [children, hrecord] using h

variable (parent? : Option (Fin a.size)) (name : String)

@[simp] theorem size_push : (a.push parent? name).size = a.size + 1 :=
  length_addRecord _ _ _

theorem getElem?_records_push (t : Nat) :
    (a.push parent? name).records[t]? =
      if t = a.size then some ⟨name, parent?.map (·.val), []⟩
      else a.records[t]?.map fun r =>
        if parent?.map (·.val) = some t then
          { r with children := insertSorted (a.push parent? name).name a.size r.children }
        else r := by
  have hname : (a.push parent? name).name
      = nameIn (a.records ++ [⟨name, parent?.map (·.val), []⟩]) :=
    nameIn_addRecord _ _ _
  rw [hname]
  exact getElem?_addRecord _ _ _ (fun _ => lt_of_map_val) t

@[simp] theorem name_push (t : Nat) :
    (a.push parent? name).name t = if t = a.size then name else a.name t := by
  rw [TypeArena.name, nameIn, getElem?_records_push]
  split
  · rfl
  · rw [TypeArena.name, nameIn]
    cases a.records[t]? with
    | none => rfl
    | some r => simp only [Option.map_some, Option.getD_some]; split <;> rfl

@[simp] theorem parent?_push (t : Nat) :
    (a.push parent? name).parent? t
      = if t = a.size then parent?.map (·.val) else a.parent? t := by
  rw [TypeArena.parent?, getElem?_records_push]
  split
  · rfl
  · rw [TypeArena.parent?]
    cases a.records[t]? with
    | none => rfl
    | some r => simp only [Option.map_some, Option.bind_some]; split <;> rfl

theorem children_push (t : Nat) :
    (a.push parent? name).children t =
      if parent?.map (·.val) = some t then
        insertSorted (a.push parent? name).name a.size (a.children t)
      else a.children t := by
  rw [children, children, getElem?_records_push]
  cases hrecord : a.records[t]? with
  | none =>
    have hparent : parent?.map (·.val) ≠ some t := fun h =>
      Nat.not_lt.2 (List.getElem?_eq_none_iff.1 hrecord) (lt_of_map_val h)
    rw [if_neg hparent]
    split <;> rfl
  | some r =>
    have hold : t ≠ a.size := Nat.ne_of_lt (List.getElem?_eq_some_iff.1 hrecord).1
    rw [if_neg hold]
    simp only [Option.map_some, Option.getD_some]
    split <;> rfl

theorem classRoots_push :
    (a.push parent? name).classRoots =
      if parent?.map (·.val) = none then
        insertSorted (a.push parent? name).name a.size a.classRoots
      else a.classRoots := by
  cases parent? <;> rfl

@[simp] theorem byName_push (n : String) :
    (a.push parent? name).byName n = if n = name then some a.size else a.byName n := by
  rw [byName, byName, push, List.lookup_cons]
  by_cases h : n = name
  · simp [h]
  · rw [beq_false_of_ne h, if_neg h]

variable {t u p : Nat}

/-- The way up from a type: it is a class root, or its parent is known. -/
theorem ascent_induction {motive : Nat → Prop} (root : ∀ t, a.parent? t = none → motive t)
    (child : ∀ t p, a.parent? t = some p → motive p → motive t) (t : Nat) : motive t := by
  induction t using Nat.strongRecOn with
  | ind t ih =>
    cases hparent : a.parent? t with
    | none => exact root t hparent
    | some p => exact child t p hparent (ih p (lt_of_parent? hparent))

def isClassRoot (a : TypeArena) (t : Nat) : Bool := (a.parent? t).isNone

/-- Whether `other` is this type or one of its ancestors: it is looked for on the way up. -/
def isA (a : TypeArena) (t other : Nat) : Bool :=
  if t = other then true
  else
    match _h : a.parent? t with
    | none => false
    | some p => a.isA p other
termination_by t
decreasing_by exact lt_of_parent? _h

theorem isA_of_parent?_eq_none (h : a.parent? t = none) : a.isA t u ↔ t = u := by
  rw [isA]
  split
  · next heq => simp [heq]
  · next hne =>
    split
    · simp [hne]
    · next p hp => rw [h] at hp; cases hp

theorem isA_of_parent?_eq_some (h : a.parent? t = some p) : a.isA t u ↔ t = u ∨ a.isA p u := by
  rw [isA]
  split
  · next heq => simp [heq]
  · next hne =>
    split
    · next hnone => rw [h] at hnone; cases hnone
    · next q hq =>
      rw [h] at hq
      cases hq
      simp [hne]

/-- The end of the way up from a type. -/
def classOf (a : TypeArena) (t : Nat) : Nat :=
  match _h : a.parent? t with
  | none => t
  | some p => a.classOf p
termination_by t
decreasing_by exact lt_of_parent? _h

theorem classOf_of_parent?_eq_none (h : a.parent? t = none) : a.classOf t = t := by
  rw [classOf]
  split
  · rfl
  · next p hp => rw [h] at hp; cases hp

theorem classOf_of_parent?_eq_some (h : a.parent? t = some p) : a.classOf t = a.classOf p := by
  rw [classOf]
  split
  · next hnone => rw [h] at hnone; cases hnone
  · next q hq =>
    rw [h] at hq
    cases hq
    rfl

/-- The type with the path from its root. -/
def typeAt (a : TypeArena) (t : Nat) : TokenType :=
  match _h : a.parent? t with
  | none => .root (a.name t)
  | some p => .child (a.typeAt p) (a.name t)
termination_by t
decreasing_by exact lt_of_parent? _h

theorem typeAt_of_parent?_eq_none (h : a.parent? t = none) : a.typeAt t = .root (a.name t) := by
  rw [typeAt]
  split
  · rfl
  · next p hp => rw [h] at hp; cases hp

theorem typeAt_of_parent?_eq_some (h : a.parent? t = some p) :
    a.typeAt t = .child (a.typeAt p) (a.name t) := by
  rw [typeAt]
  split
  · next hnone => rw [h] at hnone; cases hnone
  · next q hq =>
    rw [h] at hq
    cases hq
    rfl

/-- The handle as one of a registered type. -/
def handle? (a : TypeArena) (t : Nat) : Option (Fin a.size) :=
  if h : t < a.size then some ⟨t, h⟩ else none

theorem handle?_eq_some_iff {q : Fin a.size} : a.handle? t = some q ↔ q.val = t := by
  unfold handle?
  split
  · simp [Fin.ext_iff, eq_comm]
  · next hlt =>
    refine iff_of_false (by simp) ?_
    rintro rfl
    exact hlt q.isLt

end TypeArena

end ModalLexer
