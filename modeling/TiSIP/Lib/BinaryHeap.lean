import Mathlib.Logic.Equiv.Basic
import Mathlib.Order.Lattice

namespace BinaryHeap

def parent (slot : Nat) : Nat := (slot - 1) / 2

def left (slot : Nat) : Nat := 2 * slot + 1

theorem parent_lt {slot : Nat} (inner : 0 < slot) : parent slot < slot := by
  unfold parent
  omega

theorem parent_eq_iff {slot hole : Nat} (inner : 0 < slot) : parent slot = hole ↔ slot = left hole ∨ slot = left hole + 1 := by
  unfold parent left
  omega

theorem parent_left (hole : Nat) : parent (left hole) = hole :=
  (parent_eq_iff (Nat.succ_pos _)).mpr (.inl rfl)

theorem parent_right (hole : Nat) : parent (left hole + 1) = hole :=
  (parent_eq_iff (Nat.succ_pos _)).mpr (.inr rfl)

section Exchange

variable {Key : Type*}

def exchanged (key : Nat → Key) (first second : Nat) : Nat → Key := key ∘ Equiv.swap first second

theorem exchanged_first (key : Nat → Key) (first second : Nat) : exchanged key first second first = key second :=
  congrArg key (Equiv.swap_apply_left first second)

theorem exchanged_second (key : Nat → Key) (first second : Nat) : exchanged key first second second = key first :=
  congrArg key (Equiv.swap_apply_right first second)

theorem exchanged_other (key : Nat → Key) {first second slot : Nat} (notFirst : slot ≠ first) (notSecond : slot ≠ second) :
    exchanged key first second slot = key slot :=
  congrArg key (Equiv.swap_apply_of_ne_of_ne notFirst notSecond)

end Exchange

section Order

variable {Key : Type*} [LinearOrder Key] {size : Nat} {key : Nat → Key} {hole : Nat}

def Ordered (size : Nat) (key : Nat → Key) : Prop :=
  ∀ slot, 0 < slot → slot < size → key (parent slot) ≤ key slot

def Bridged (size : Nat) (key : Nat → Key) (hole : Nat) : Prop :=
  0 < hole → ∀ slot, 0 < slot → slot < size → parent slot = hole → key (parent hole) ≤ key slot

/-- Only the hole may come before its parent. -/
structure Rising (size : Nat) (key : Nat → Key) (hole : Nat) : Prop where
  elsewhere : ∀ slot, 0 < slot → slot < size → slot ≠ hole → key (parent slot) ≤ key slot
  bridged : Bridged size key hole

/-- Only the children of the hole may come before their parent. -/
structure Sinking (size : Nat) (key : Nat → Key) (hole : Nat) : Prop where
  elsewhere : ∀ slot, 0 < slot → slot < size → parent slot ≠ hole → key (parent slot) ≤ key slot
  bridged : Bridged size key hole

theorem Ordered.root (ordered : Ordered size key) : ∀ slot, slot < size → key 0 ≤ key slot := by
  intro slot
  induction slot using Nat.strongRecOn with
  | ind slot ih =>
    intro inside
    by_cases inner : 0 < slot
    · have lower := parent_lt inner
      exact (ih _ lower (by omega)).trans (ordered slot inner inside)
    · have atRoot : slot = 0 := by omega
      rw [atRoot]

theorem Ordered.smaller {fewer : Nat} (ordered : Ordered size key) (less : fewer ≤ size) : Ordered fewer key :=
  fun slot inner inside => ordered slot inner (by omega)

theorem Ordered.congr {other : Nat → Key} (ordered : Ordered size key)
    (same : ∀ slot, slot < size → other slot = key slot) : Ordered size other := by
  intro slot inner inside
  have lower := parent_lt inner
  rw [same slot inside, same _ (by omega)]
  exact ordered slot inner inside

theorem Rising.rise (rising : Rising size key hole) (inner : 0 < hole) (inside : hole < size)
    (early : key hole < key (parent hole)) : Rising size (exchanged key hole (parent hole)) (parent hole) := by
  have lower := parent_lt inner
  -- What hangs below the two slots keeps its order below the later of the two.
  have below : ∀ slot, 0 < slot → slot < size → slot ≠ hole → slot ≠ parent hole →
      exchanged key hole (parent hole) (parent slot) ≤ key slot := by
    intro slot positive bound notHole notParent
    by_cases underHole : parent slot = hole
    · rw [underHole, exchanged_first]
      exact rising.bridged inner slot positive bound underHole
    · by_cases sibling : parent slot = parent hole
      · rw [sibling, exchanged_second]
        have before := rising.elsewhere slot positive bound notHole
        rw [sibling] at before
        exact early.le.trans before
      · rw [exchanged_other _ underHole sibling]
        exact rising.elsewhere slot positive bound notHole
  constructor
  · intro slot positive bound notParent
    by_cases atHole : slot = hole
    · rw [atHole, exchanged_first, exchanged_second]
      exact early.le
    · rw [exchanged_other _ atHole notParent]
      exact below slot positive bound atHole notParent
  · intro parentInner slot positive bound child
    have grand := parent_lt parentInner
    have up := rising.elsewhere (parent hole) parentInner (by omega) (by omega)
    rw [exchanged_other key (by omega : parent (parent hole) ≠ hole) (by omega)]
    by_cases atHole : slot = hole
    · rw [atHole, exchanged_first]
      exact up
    · have notParent : slot ≠ parent hole := by
        have deeper := parent_lt positive
        omega
      rw [exchanged_other _ atHole notParent]
      have before := rising.elsewhere slot positive bound atHole
      rw [child] at before
      exact up.trans before

theorem Rising.settled (rising : Rising size key hole) (late : 0 < hole → key (parent hole) ≤ key hole) :
    Ordered size key := by
  intro slot positive bound
  by_cases atHole : slot = hole
  · subst atHole
    exact late positive
  · exact rising.elsewhere slot positive bound atHole

structure EarliestChild (size : Nat) (key : Nat → Key) (hole child : Nat) : Prop where
  inner : 0 < child
  inside : child < size
  under : parent child = hole
  least : ∀ slot, 0 < slot → slot < size → parent slot = hole → key child ≤ key slot

theorem Sinking.sink (sinking : Sinking size key hole) {child : Nat} (earliest : EarliestChild size key hole child)
    (early : key child < key hole) : Sinking size (exchanged key hole child) child := by
  obtain ⟨inner, inside, under, least⟩ := earliest
  have lower := parent_lt inner
  constructor
  · intro slot positive bound notBelow
    have higher := parent_lt positive
    by_cases atChild : slot = child
    · rw [atChild, under, exchanged_first, exchanged_second]
      exact early.le
    · by_cases sibling : parent slot = hole
      · have notHole : slot ≠ hole := by omega
        rw [sibling, exchanged_first, exchanged_other _ notHole atChild]
        exact least slot positive bound sibling
      · rw [exchanged_other _ sibling notBelow]
        by_cases atHole : slot = hole
        · subst atHole
          rw [exchanged_first]
          exact sinking.bridged positive child inner inside under
        · rw [exchanged_other _ atHole atChild]
          exact sinking.elsewhere slot positive bound sibling
  · intro _ slot positive bound below
    have deeper := parent_lt positive
    rw [under, exchanged_first, exchanged_other _ (by omega) (by omega)]
    have before := sinking.elsewhere slot positive bound (by omega)
    rw [below] at before
    exact before

theorem Sinking.settled (sinking : Sinking size key hole)
    (late : ∀ slot, 0 < slot → slot < size → parent slot = hole → key hole ≤ key slot) : Ordered size key := by
  intro slot positive bound
  by_cases below : parent slot = hole
  · rw [below]
    exact late slot positive bound below
  · exact sinking.elsewhere slot positive bound below

section Placed

variable (moved : Nat → Key)

theorem Ordered.sinking (ordered : Ordered size key) (same : ∀ slot, slot < size → slot ≠ hole → moved slot = key slot)
    (inside : hole < size) (late : 0 < hole → moved (parent hole) ≤ moved hole) : Sinking size moved hole := by
  constructor
  · intro slot positive bound notBelow
    have higher := parent_lt positive
    by_cases atHole : slot = hole
    · subst atHole
      exact late positive
    · rw [same slot bound atHole, same _ (by omega) notBelow]
      exact ordered slot positive bound
  · intro inner slot positive bound below
    have higher := parent_lt inner
    have deeper := parent_lt positive
    rw [same _ (by omega) (by omega), same slot bound (by omega)]
    have first := ordered hole inner inside
    have second := ordered slot positive bound
    rw [below] at second
    exact first.trans second

theorem Ordered.rising (ordered : Ordered size key) (same : ∀ slot, slot < size → slot ≠ hole → moved slot = key slot)
    (inside : hole < size) (inner : 0 < hole) (early : moved hole ≤ moved (parent hole)) : Rising size moved hole := by
  have up := parent_lt inner
  have above : moved (parent hole) = key (parent hole) := same _ (by omega) (by omega)
  have first := ordered hole inner inside
  constructor
  · intro slot positive bound notHole
    have higher := parent_lt positive
    rw [same slot bound notHole]
    by_cases below : parent slot = hole
    · have second := ordered slot positive bound
      rw [below] at second ⊢
      rw [above] at early
      exact early.trans (first.trans second)
    · rw [same _ (by omega) below]
      exact ordered slot positive bound
  · intro _ slot positive bound below
    have deeper := parent_lt positive
    have second := ordered slot positive bound
    rw [below] at second
    rw [above, same slot bound (by omega)]
    exact first.trans second

theorem Ordered.appended (ordered : Ordered size key) (same : ∀ slot, slot < size → moved slot = key slot) :
    Rising (size + 1) moved size := by
  constructor
  · intro slot positive bound notLast
    have higher := parent_lt positive
    rw [same slot (by omega), same _ (by omega)]
    exact ordered slot positive (by omega)
  · intro _ slot positive bound below
    have deeper := parent_lt positive
    omega

end Placed

end Order

end BinaryHeap
