/-! # Character sets

A set of characters is a list of ascending ranges of code points with gaps between them. A range is
inserted by uniting it with the ranges that it touches, and the other operations go back to
insertion and complement.
-/

namespace ModalLexer

structure CharSet where
  /-- Ascending ranges of code points, both ends included, with gaps between them. -/
  ranges : List (Nat × Nat)
deriving DecidableEq, Repr

namespace CharSet

/-- Whether the code point `n` lies in one of the ascending ranges. -/
def inRanges (n : Nat) : List (Nat × Nat) → Bool
  | [] => false
  | (first, last) :: rest => if n < first then false else n ≤ last || inRanges n rest

def contains (s : CharSet) (c : Char) : Bool := inRanges c.toNat s.ranges

def empty : CharSet := ⟨[]⟩

/-- Inserts a range into ascending ranges. Ranges that touch become one. -/
def insertRange (first last : Nat) : List (Nat × Nat) → List (Nat × Nat)
  | [] => [(first, last)]
  | (a, b) :: rest =>
    if last + 1 < a then (first, last) :: (a, b) :: rest
    else if b + 1 < first then (a, b) :: insertRange first last rest
    else insertRange (min a first) (max b last) rest

def ofRanges (ranges : List (Nat × Nat)) : CharSet :=
  ⟨ranges.foldl (fun all r => insertRange r.1 r.2 all) []⟩

def range (first last : Char) : CharSet := ⟨[(first.toNat, last.toNat)]⟩

def single (c : Char) : CharSet := range c c

def ofChars (cs : List Char) : CharSet := ofRanges (cs.map fun c => (c.toNat, c.toNat))

def any : CharSet := ⟨[(0, 0x10ffff)]⟩

/-- The code point of a character after `n`. No character has a code point from U+D800 to U+DFFF. -/
def nextCode (n : Nat) : Nat := if n = 0xd7ff then 0xe000 else n + 1

/-- The code point of a character before `n`. -/
def prevCode (n : Nat) : Nat := if n = 0xe000 then 0xd7ff else n - 1

/-- The gaps between ascending ranges from the code point `low` on. -/
def gaps (low : Nat) : List (Nat × Nat) → List (Nat × Nat)
  | [] => if low ≤ 0x10ffff then [(low, 0x10ffff)] else []
  | (a, b) :: rest =>
    if low < a then (low, prevCode a) :: gaps (nextCode b) rest else gaps (nextCode b) rest

def compl (s : CharSet) : CharSet := ⟨gaps 0 s.ranges⟩

def union (s t : CharSet) : CharSet :=
  ⟨t.ranges.foldl (fun all r => insertRange r.1 r.2 all) s.ranges⟩

def inter (s t : CharSet) : CharSet := (s.compl.union t.compl).compl

def diff (s t : CharSet) : CharSet := (s.compl.union t).compl

def symmDiff (s t : CharSet) : CharSet := (s.diff t).union (t.diff s)

def unionAll (sets : List CharSet) : CharSet := sets.foldl union empty

/-- Whether the sets have no member in common. -/
def disjoint (s t : CharSet) : Bool := (s.inter t).ranges.isEmpty

def isAscii (s : CharSet) : Bool := s.ranges.all (·.2 < 128)

/-- The only member of a set. -/
def only? (s : CharSet) : Option Char :=
  match s.ranges with
  | [(first, last)] => if first = last then some (Char.ofNat first) else none
  | _ => none

theorem inRanges_cons {n first last : Nat} {rest : List (Nat × Nat)}
    (h : inRanges n rest = true → first ≤ n) :
    inRanges n ((first, last) :: rest) = (decide (first ≤ n ∧ n ≤ last) || inRanges n rest) := by
  simp only [inRanges]
  split
  · next hlt =>
    cases hr : inRanges n rest with
    | false => simp; omega
    | true => have := h hr; omega
  · next hge => simp [Nat.not_lt.1 hge]

/-- The ranges ascend with gaps between them, from the code point `low` on. -/
def Ascending (low : Nat) : List (Nat × Nat) → Prop
  | [] => True
  | (a, b) :: rest => low ≤ a ∧ a ≤ b ∧ Ascending (b + 2) rest

theorem Ascending.mono {low low' : Nat} {rs : List (Nat × Nat)} (h : Ascending low rs)
    (hle : low' ≤ low) : Ascending low' rs := by
  cases rs with
  | nil => trivial
  | cons r rest => exact ⟨Nat.le_trans hle h.1, h.2⟩

theorem Ascending.le_of_inRanges {n low : Nat} {rs : List (Nat × Nat)} (h : Ascending low rs)
    (hn : inRanges n rs = true) : low ≤ n := by
  cases rs with
  | nil => simp [inRanges] at hn
  | cons r rest =>
    simp only [inRanges] at hn
    split at hn
    · simp at hn
    · have := h.1
      omega

theorem Ascending.insertRange {low first last : Nat} {rs : List (Nat × Nat)}
    (h : Ascending low rs) (hlow : low ≤ first) (hle : first ≤ last) :
    Ascending low (CharSet.insertRange first last rs) := by
  induction rs generalizing low first last with
  | nil => exact ⟨hlow, hle, trivial⟩
  | cons r rest ih =>
    obtain ⟨a, b⟩ := r
    obtain ⟨ha, hab, hrest⟩ := h
    simp only [CharSet.insertRange]
    split
    · exact ⟨hlow, hle, by omega, hab, hrest⟩
    · split
      · exact ⟨ha, hab, ih hrest (by omega) hle⟩
      · exact ih (hrest.mono (by omega)) (by omega) (by omega)

theorem inRanges_insertRange {n low first last : Nat} {rs : List (Nat × Nat)}
    (h : Ascending low rs) (hle : first ≤ last) :
    inRanges n (insertRange first last rs)
      = (decide (first ≤ n ∧ n ≤ last) || inRanges n rs) := by
  induction rs generalizing low first last with
  | nil => rw [insertRange, inRanges_cons (by simp [inRanges])]
  | cons r rest ih =>
    obtain ⟨a, b⟩ := r
    obtain ⟨ha, hab, hrest⟩ := h
    have hcons : inRanges n ((a, b) :: rest) = (decide (a ≤ n ∧ n ≤ b) || inRanges n rest) :=
      inRanges_cons fun hn => by have := hrest.le_of_inRanges hn; omega
    simp only [insertRange]
    split
    · rw [inRanges_cons]
      intro hn
      have hasc : Ascending a ((a, b) :: rest) := ⟨Nat.le_refl a, hab, hrest⟩
      have := hasc.le_of_inRanges hn
      omega
    · split
      · have hins : Ascending (b + 2) (insertRange first last rest) :=
          hrest.insertRange (by omega) hle
        rw [inRanges_cons fun hn => by have := hins.le_of_inRanges hn; omega, ih hrest hle, hcons]
        simp only [Bool.or_left_comm]
      · rw [ih hrest (by omega), hcons, ← Bool.or_assoc]
        congr 1
        rw [Bool.eq_iff_iff]
        simp only [decide_eq_true_eq, Bool.or_eq_true]
        omega

end CharSet

end ModalLexer
