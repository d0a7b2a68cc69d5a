import Mathlib.Data.Prod.Lex
import Mathlib.Order.WithBot
import TiSIP.Pjlib.Timer

namespace TiSIP.Pjlib

open Pjsip BinaryHeap

def timeKey (t : TimeVal) : Int ×ₗ Int := toLex (t.sec, t.msec)

theorem timeValLte_iff (t1 t2 : TimeVal) : timeValLte t1 t2 = true ↔ timeKey t1 ≤ timeKey t2 := by
  unfold timeValLte timeValGt timeKey
  rw [Prod.Lex.toLex_le_toLex]
  simp only [Bool.not_eq_true', Bool.or_eq_false_iff, Bool.and_eq_false_iff, decide_eq_false_iff_not, beq_eq_false_iff_ne]
  omega

theorem timeValLt_iff (t1 t2 : TimeVal) : timeValLt t1 t2 = true ↔ timeKey t1 < timeKey t2 := by
  unfold timeValLt timeValGte timeValGt timeValEq timeKey
  rw [Prod.Lex.toLex_lt_toLex]
  simp only [Bool.not_eq_true', Bool.or_eq_false_iff, Bool.and_eq_false_iff, decide_eq_false_iff_not, beq_eq_false_iff_ne]
  omega

theorem timeValGte_iff (t1 t2 : TimeVal) : timeValGte t1 t2 = true ↔ timeKey t2 ≤ timeKey t1 := by
  rw [← not_lt, ← timeValLt_iff]
  unfold timeValLt
  simp

@[simp]
theorem heapParent_eq (x : Nat) : heapParent x = parent x := by
  unfold heapParent parent
  split <;> omega

@[simp]
theorem heapLeft_eq (x : Nat) : heapLeft x = left x := by
  unfold heapLeft left
  omega

namespace TimerHeap

variable {Entry Lock : Type}

def idOf (ht : TimerHeap Entry Lock) (entry : Entry) : Int := (ht.entries entry).timerId

/-- The times of the entries that lie in an array; a slot that was never written comes first. -/
def keys (ht : TimerHeap Entry Lock) (items : Nat → Option Entry) (slot : Nat) : WithBot (Int ×ₗ Int) :=
  (items slot).map fun entry => timeKey (ht.value entry)

theorem keys_some {ht : TimerHeap Entry Lock} {items : Nat → Option Entry} {slot : Nat} {entry : Entry}
    (held : items slot = some entry) : ht.keys items slot = ((timeKey (ht.value entry) : Int ×ₗ Int) : WithBot (Int ×ₗ Int)) := by
  unfold keys
  rw [held]
  rfl

section Loops

def filled (ht : TimerHeap Entry Lock) (hole : Nat) (moved : Entry) : Nat → Option Entry :=
  Function.update ht.heap hole (some moved)

theorem filled_hole (ht : TimerHeap Entry Lock) (hole : Nat) (moved : Entry) : ht.filled hole moved hole = some moved :=
  Function.update_self _ _ _

theorem filled_other (ht : TimerHeap Entry Lock) {hole slot : Nat} (moved : Entry) (other : slot ≠ hole) :
    ht.filled hole moved slot = ht.heap slot :=
  Function.update_of_ne other _ _

def Placeable (ht : TimerHeap Entry Lock) (entry : Entry) : Prop :=
  1 ≤ ht.idOf entry ∧ ht.idOf entry < ht.maxSize

/-- The nodes of the array but the moved one are where their identifiers say. -/
structure Aloft (ht : TimerHeap Entry Lock) (size hole : Nat) (moved : Entry) : Prop where
  inside : hole < size
  room : size ≤ ht.maxSize
  seated : ∀ slot, slot < size → slot ≠ hole → ∃ entry, ht.heap slot = some entry ∧ ht.Placeable entry ∧
    ht.timerIds (ht.idOf entry).toNat = slot ∧ ht.idOf entry ≠ ht.idOf moved
  moved : ht.Placeable moved

def copied (ht : TimerHeap Entry Lock) (slot : Nat) (node : Entry) : TimerHeap Entry Lock :=
  { ht with
    heap := Function.update ht.heap slot (some node)
    timerIds := Function.update ht.timerIds (ht.idOf node).toNat slot }

theorem copyNode_eq {ht : TimerHeap Entry Lock} {slot : Nat} {node : Entry} (inside : slot < ht.maxSize)
    (placeable : ht.Placeable node) : ht.copyNode slot node = some (ht.copied slot node) := by
  have low := placeable.1
  have high := placeable.2
  unfold idOf at low high
  unfold copyNode writeTimerId
  dsimp only
  rw [if_pos inside, if_pos ⟨by omega, high⟩]
  rfl

theorem readHeap_eq {ht : TimerHeap Entry Lock} {slot : Nat} {entry : Entry} (inside : slot < ht.maxSize)
    (held : ht.heap slot = some entry) : ht.readHeap slot = some entry :=
  (if_pos inside).trans held

theorem filled_copied {ht : TimerHeap Entry Lock} {hole slot : Nat} {node : Entry} (moved : Entry)
    (held : ht.heap slot = some node) (other : slot ≠ hole) :
    (ht.copied hole node).filled slot moved = ht.filled hole moved ∘ Equiv.swap hole slot := by
  funext index
  unfold filled copied
  by_cases atSlot : index = slot
  · subst atSlot
    simp
  · by_cases atHole : index = hole
    · subst atHole
      simp [held, atSlot, other]
    · simp [atSlot, atHole, Equiv.swap_apply_of_ne_of_ne]

theorem Aloft.copied {ht : TimerHeap Entry Lock} {size hole slot : Nat} {node moved : Entry}
    (aloft : ht.Aloft size hole moved) (held : ht.heap slot = some node) (inside : slot < size) (other : slot ≠ hole) :
    (ht.copied hole node).Aloft size slot moved := by
  obtain ⟨same, sameHeld, placeable, located, different⟩ := aloft.seated slot inside other
  rw [held] at sameHeld
  cases sameHeld
  refine ⟨inside, aloft.room, ?_, aloft.moved⟩
  intro index bound notSlot
  by_cases atHole : index = hole
  · refine ⟨node, ?_, placeable, ?_, different⟩
    · rw [atHole]
      exact Function.update_self _ _ _
    · rw [atHole]
      exact Function.update_self _ _ _
  · obtain ⟨entry, entryHeld, entryPlaceable, entryLocated, entryDifferent⟩ := aloft.seated index bound atHole
    refine ⟨entry, ?_, entryPlaceable, ?_, entryDifferent⟩
    · exact (Function.update_of_ne atHole _ _).trans entryHeld
    · have apart : (ht.idOf entry).toNat ≠ (ht.idOf node).toNat := by
        intro same
        rw [same, located] at entryLocated
        omega
      exact (Function.update_of_ne apart _ _).trans entryLocated

def Uses (ht : TimerHeap Entry Lock) (items : Nat → Option Entry) (size id : Nat) : Prop :=
  ∃ slot entry, slot < size ∧ items slot = some entry ∧ (ht.idOf entry).toNat = id

/-- The nodes of an array are put in order, and their identifiers follow them. -/
structure Arranged (before : TimerHeap Entry Lock) (items : Nat → Option Entry) (size : Nat)
    (after : TimerHeap Entry Lock) : Prop where
  kept : after = { before with heap := after.heap, timerIds := after.timerIds }
  permuted : ∃ order : Equiv.Perm Nat, (∀ slot, order slot < size ↔ slot < size) ∧
    ∀ slot, slot < size → after.heap slot = items (order slot)
  located : ∀ slot entry, slot < size → after.heap slot = some entry → after.timerIds (before.idOf entry).toNat = slot
  others : ∀ id, ¬ before.Uses items size id → after.timerIds id = before.timerIds id
  ordered : Ordered size (before.keys after.heap)

theorem arranged_settled {ht : TimerHeap Entry Lock} {size hole : Nat} {moved : Entry} (aloft : ht.Aloft size hole moved)
    (ordered : Ordered size (ht.keys (ht.filled hole moved))) :
    ht.copyNode hole moved = some (ht.copied hole moved) ∧
      Arranged ht (ht.filled hole moved) size (ht.copied hole moved) := by
  have inside := aloft.inside
  refine ⟨copyNode_eq (by have room := aloft.room; omega) aloft.moved, rfl, ?_, ?_, ?_, ordered⟩
  · exact ⟨Equiv.refl Nat, fun _ => Iff.rfl, fun _ _ => rfl⟩
  · intro slot entry bound held
    by_cases atHole : slot = hole
    · subst atHole
      have same : some moved = some entry := (filled_hole ht slot moved).symm.trans held
      cases same
      exact Function.update_self _ _ _
    · obtain ⟨seated, seatedHeld, placeable, located, different⟩ := aloft.seated slot bound atHole
      have same : some seated = some entry := by
        rw [← seatedHeld, ← filled_other ht moved atHole]
        exact held
      cases same
      have movedPlaceable := aloft.moved
      have apart : (ht.idOf entry).toNat ≠ (ht.idOf moved).toNat := by
        unfold Placeable at placeable movedPlaceable
        omega
      exact (Function.update_of_ne apart _ _).trans located
  · intro id unused
    have apart : id ≠ (ht.idOf moved).toNat := by
      rintro rfl
      exact unused ⟨hole, moved, inside, filled_hole ht hole moved, rfl⟩
    exact Function.update_of_ne apart _ _

theorem Arranged.after_copy {ht after : TimerHeap Entry Lock} {size hole slot : Nat} {node moved : Entry}
    (aloft : ht.Aloft size hole moved) (held : ht.heap slot = some node) (inside : slot < size) (other : slot ≠ hole)
    (rest : Arranged (ht.copied hole node) ((ht.copied hole node).filled slot moved) size after) :
    Arranged ht (ht.filled hole moved) size after := by
  have swapped := filled_copied moved held other
  have swaps : ∀ index, Equiv.swap hole slot index < size ↔ index < size := by
    intro index
    have holeInside := aloft.inside
    by_cases atHole : index = hole
    · subst atHole
      rw [Equiv.swap_apply_left]
      omega
    · by_cases atSlot : index = slot
      · subst atSlot
        rw [Equiv.swap_apply_right]
        omega
      · rw [Equiv.swap_apply_of_ne_of_ne atHole atSlot]
  constructor
  · rw [rest.kept]
    rfl
  · obtain ⟨order, bounds, permuted⟩ := rest.permuted
    refine ⟨order.trans (Equiv.swap hole slot), ?_, ?_⟩
    · intro index
      exact (swaps (order index)).trans (bounds index)
    · intro index bound
      rw [permuted index bound, swapped]
      rfl
  · exact rest.located
  · intro id unused
    have unusedAfter : ¬ (ht.copied hole node).Uses ((ht.copied hole node).filled slot moved) size id := by
      rintro ⟨index, entry, bound, entryHeld, used⟩
      rw [swapped] at entryHeld
      exact unused ⟨_, entry, (swaps index).mpr bound, entryHeld, used⟩
    rw [rest.others id unusedAfter]
    apply Function.update_of_ne
    rintro rfl
    exact unused ⟨slot, node, inside, (filled_other ht moved other).trans held, rfl⟩
  · exact rest.ordered

theorem Aloft.held {ht : TimerHeap Entry Lock} {size hole slot : Nat} {moved : Entry} (aloft : ht.Aloft size hole moved)
    (inside : slot < size) (other : slot ≠ hole) :
    ∃ entry, ht.heap slot = some entry ∧ ht.readHeap slot = some entry ∧
      ht.keys (ht.filled hole moved) slot = ((timeKey (ht.value entry) : Int ×ₗ Int) : WithBot (Int ×ₗ Int)) := by
  obtain ⟨entry, held, _⟩ := aloft.seated slot inside other
  have room := aloft.room
  exact ⟨entry, held, readHeap_eq (by omega) held, keys_some ((filled_other ht moved other).trans held)⟩

theorem keys_hole (ht : TimerHeap Entry Lock) (hole : Nat) (moved : Entry) :
    ht.keys (ht.filled hole moved) hole = ((timeKey (ht.value moved) : Int ×ₗ Int) : WithBot (Int ×ₗ Int)) :=
  keys_some (filled_hole ht hole moved)

theorem reheapUp_arranges (moved : Entry) {size : Nat} (fuel : Nat) (ht : TimerHeap Entry Lock) (slot : Nat)
    (enough : slot < fuel) (aloft : ht.Aloft size slot moved) (rising : Rising size (ht.keys (ht.filled slot moved)) slot) :
    ∃ after, reheapUp moved fuel ht slot (heapParent slot) = some after ∧
      Arranged ht (ht.filled slot moved) size after := by
  induction fuel generalizing ht slot with
  | zero => omega
  | succ fuel ih =>
    rw [heapParent_eq]
    unfold reheapUp
    by_cases inner : 0 < slot
    · have lower := parent_lt inner
      have inside := aloft.inside
      obtain ⟨above, held, read, key⟩ := aloft.held (by omega : parent slot < size) (by omega)
      rw [if_pos inner, read]
      simp only [Option.bind_eq_bind, Option.bind_some]
      by_cases early : timeValLt (ht.value moved) (ht.value above) = true
      · have room := aloft.room
        have placeable : ht.Placeable above := by
          obtain ⟨same, sameHeld, placeable, _⟩ := aloft.seated (parent slot) (by omega) (by omega)
          rw [held] at sameHeld
          cases sameHeld
          exact placeable
        rw [if_pos early, copyNode_eq (by omega) placeable, Option.bind_some]
        have earlier := (timeValLt_iff _ _).mp early
        have before : ht.keys (ht.filled slot moved) slot < ht.keys (ht.filled slot moved) (parent slot) := by
          rw [keys_hole, key]
          exact WithBot.coe_lt_coe.mpr earlier
        have risen := rising.rise inner inside before
        have swapped : (ht.copied slot above).keys ((ht.copied slot above).filled (parent slot) moved) =
            exchanged (ht.keys (ht.filled slot moved)) slot (parent slot) := by
          rw [filled_copied moved held (by omega)]
          rfl
        rw [← swapped] at risen
        obtain ⟨after, ran, arranged⟩ := ih (ht.copied slot above) (parent slot) (by omega)
          (aloft.copied held (by omega) (by omega)) risen
        exact ⟨after, ran, arranged.after_copy aloft held (by omega) (by omega)⟩
      · rw [if_neg early]
        have ordered := rising.settled fun _ => by
          rw [keys_hole, key]
          apply WithBot.coe_le_coe.mpr
          exact not_lt.mp fun earlier => early ((timeValLt_iff _ _).mpr earlier)
        exact ⟨_, arranged_settled aloft ordered⟩
    · rw [if_neg inner]
      exact ⟨_, arranged_settled aloft (rising.settled fun positive => absurd positive inner)⟩

theorem smallerChild_earliest {ht : TimerHeap Entry Lock} {slot : Nat} {moved : Entry}
    (aloft : ht.Aloft ht.curSize slot moved) (inside : left slot < ht.curSize) :
    ∃ child, ht.smallerChild (left slot) = some child ∧
      EarliestChild ht.curSize (ht.keys (ht.filled slot moved)) slot child := by
  have notSlot : left slot ≠ slot := by
    unfold left
    omega
  obtain ⟨first, _, read, key⟩ := aloft.held inside notSlot
  unfold smallerChild
  rw [read]
  simp only [Option.bind_eq_bind, Option.bind_some]
  by_cases both : left slot + 1 < ht.curSize
  · have otherSlot : left slot + 1 ≠ slot := by
      unfold left
      omega
    obtain ⟨second, _, secondRead, secondKey⟩ := aloft.held both otherSlot
    rw [if_pos both, secondRead, Option.bind_some]
    by_cases early : timeValLt (ht.value second) (ht.value first) = true
    · have earlier := (timeValLt_iff _ _).mp early
      rw [if_pos early]
      refine ⟨_, rfl, Nat.succ_pos _, both, parent_right slot, ?_⟩
      intro other positive _ child
      rcases (parent_eq_iff positive).mp child with rfl | rfl
      · rw [key, secondKey]
        exact WithBot.coe_le_coe.mpr earlier.le
      · exact le_rfl
    · have later := not_lt.mp fun earlier => early ((timeValLt_iff _ _).mpr earlier)
      rw [if_neg early]
      refine ⟨_, rfl, Nat.succ_pos _, inside, parent_left slot, ?_⟩
      intro other positive _ child
      rcases (parent_eq_iff positive).mp child with rfl | rfl
      · exact le_rfl
      · rw [key, secondKey]
        exact WithBot.coe_le_coe.mpr later
  · rw [if_neg both]
    refine ⟨_, rfl, Nat.succ_pos _, inside, parent_left slot, ?_⟩
    intro other positive bound child
    rcases (parent_eq_iff positive).mp child with rfl | rfl
    · exact le_rfl
    · exact absurd bound both

theorem reheapDown_arranges (moved : Entry) (fuel : Nat) (ht : TimerHeap Entry Lock) (slot : Nat)
    (enough : ht.curSize < slot + fuel) (aloft : ht.Aloft ht.curSize slot moved)
    (sinking : Sinking ht.curSize (ht.keys (ht.filled slot moved)) slot) :
    ∃ after, reheapDown moved fuel ht slot (heapLeft slot) = some after ∧
      Arranged ht (ht.filled slot moved) ht.curSize after := by
  induction fuel generalizing ht slot with
  | zero =>
    have inside := aloft.inside
    omega
  | succ fuel ih =>
    rw [heapLeft_eq]
    unfold reheapDown
    by_cases children : left slot < ht.curSize
    · obtain ⟨child, chosen, earliest⟩ := smallerChild_earliest aloft children
      have positive := earliest.inner
      have inside := earliest.inside
      have under := earliest.under
      have lower := parent_lt positive
      obtain ⟨node, held, read, key⟩ := aloft.held inside (by omega)
      rw [if_pos children, chosen]
      simp only [Option.bind_eq_bind, Option.bind_some, read]
      by_cases early : timeValLt (ht.value node) (ht.value moved) = true
      · have room := aloft.room
        have slotInside := aloft.inside
        have placeable : ht.Placeable node := by
          obtain ⟨same, sameHeld, placeable, _⟩ := aloft.seated child inside (by omega)
          rw [held] at sameHeld
          cases sameHeld
          exact placeable
        rw [if_pos early, copyNode_eq (by omega) placeable, Option.bind_some]
        have before : ht.keys (ht.filled slot moved) child < ht.keys (ht.filled slot moved) slot := by
          rw [keys_hole, key]
          exact WithBot.coe_lt_coe.mpr ((timeValLt_iff _ _).mp early)
        have sunk := sinking.sink earliest before
        have swapped : (ht.copied slot node).keys ((ht.copied slot node).filled child moved) =
            exchanged (ht.keys (ht.filled slot moved)) slot child := by
          rw [filled_copied moved held (by omega)]
          rfl
        rw [← swapped] at sunk
        obtain ⟨after, ran, arranged⟩ := ih (ht.copied slot node) child
          (show ht.curSize < child + fuel by omega) (aloft.copied held inside (by omega)) sunk
        exact ⟨after, ran, arranged.after_copy aloft held inside (by omega)⟩
      · rw [if_neg early]
        have ordered := sinking.settled fun other otherPositive bound below => by
          apply le_trans _ (earliest.least other otherPositive bound below)
          rw [keys_hole, key]
          apply WithBot.coe_le_coe.mpr
          exact not_lt.mp fun earlier => early ((timeValLt_iff _ _).mpr earlier)
        exact ⟨_, arranged_settled aloft ordered⟩
    · rw [if_neg children]
      have ordered := sinking.settled fun other positive bound below => by
        rcases (parent_eq_iff positive).mp below with rfl | rfl <;> omega
      exact ⟨_, arranged_settled aloft ordered⟩

end Loops

end TimerHeap

end TiSIP.Pjlib
