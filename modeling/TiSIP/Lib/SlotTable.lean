import Mathlib.Data.Fin.Basic
import Mathlib.Logic.Function.Basic
import Mathlib.Data.Fin.Tuple.Basic

def SlotTable (size : Nat) (α : Type*) := Fin size → Option α

namespace SlotTable

variable {size : Nat} {α : Type*}

def empty : SlotTable size α := fun _ => none

def Live (table : SlotTable size α) (slot : Fin size) : Prop := (table slot).isSome

instance (table : SlotTable size α) (slot : Fin size) : Decidable (table.Live slot) :=
  inferInstanceAs (Decidable (_ = true))

def lowestFree (table : SlotTable size α) : Option (Fin size) :=
  Fin.find? fun slot => (table slot).isNone

def put (table : SlotTable size α) (slot : Fin size) (value : α) : SlotTable size α :=
  Function.update table slot (some value)

def clear (table : SlotTable size α) (slot : Fin size) : SlotTable size α :=
  Function.update table slot none

def modify (table : SlotTable size α) (slot : Fin size) (change : α → α) : SlotTable size α :=
  Function.update table slot ((table slot).map change)

def map {β : Type*} (change : α → β) (table : SlotTable size α) : SlotTable size β :=
  fun slot => (table slot).map change

/-- The slot a C integer names, when it is in the array's range. -/
def slotOf (size : Nat) (id : Int) : Option (Fin size) :=
  if range : 0 ≤ id ∧ id < size then some ⟨id.toNat, by omega⟩ else none

@[simp]
theorem empty_apply (slot : Fin size) : (empty : SlotTable size α) slot = none := rfl

@[simp]
theorem live_empty (slot : Fin size) : ¬ (empty : SlotTable size α).Live slot := by
  simp [Live, empty]

@[simp]
theorem put_same (table : SlotTable size α) (slot : Fin size) (value : α) :
    table.put slot value slot = some value :=
  Function.update_self _ _ _

theorem put_other (table : SlotTable size α) {slot other : Fin size} (value : α) (different : other ≠ slot) :
    table.put slot value other = table other :=
  Function.update_of_ne different _ _

theorem put_eq_some {table : SlotTable size α} {slot other : Fin size} {value held : α} :
    table.put slot value other = some held ↔
      other = slot ∧ value = held ∨ other ≠ slot ∧ table other = some held := by
  by_cases same : other = slot
  · subst same
    simp
  · simp [put_other _ _ same, same]

@[simp]
theorem clear_same (table : SlotTable size α) (slot : Fin size) : table.clear slot slot = none :=
  Function.update_self _ _ _

theorem clear_other (table : SlotTable size α) {slot other : Fin size} (different : other ≠ slot) :
    table.clear slot other = table other :=
  Function.update_of_ne different _ _

@[simp]
theorem live_put (table : SlotTable size α) (slot other : Fin size) (value : α) :
    (table.put slot value).Live other ↔ other = slot ∨ table.Live other := by
  by_cases same : other = slot
  · subst same
    simp [Live]
  · simp [Live, put_other _ _ same, same]

@[simp]
theorem live_clear (table : SlotTable size α) (slot other : Fin size) :
    (table.clear slot).Live other ↔ other ≠ slot ∧ table.Live other := by
  by_cases same : other = slot
  · subst same
    simp [Live]
  · simp [Live, clear_other _ same, same]

@[simp]
theorem modify_same (table : SlotTable size α) (slot : Fin size) (change : α → α) :
    table.modify slot change slot = (table slot).map change :=
  Function.update_self _ _ _

theorem modify_other (table : SlotTable size α) {slot other : Fin size} (change : α → α) (different : other ≠ slot) :
    table.modify slot change other = table other :=
  Function.update_of_ne different _ _

section Map

variable {β : Type*} (view : α → β) (table : SlotTable size α) (slot : Fin size)

theorem map_apply : table.map view slot = (table slot).map view := rfl

theorem map_put (value : α) : (table.put slot value).map view = (table.map view).put slot (view value) := by
  funext other
  rw [map_apply]
  by_cases same : other = slot
  · subst same
    rw [put_same, put_same, Option.map_some]
  · rw [put_other _ _ same, put_other _ _ same]
    rfl

theorem map_clear : (table.clear slot).map view = (table.map view).clear slot := by
  funext other
  rw [map_apply]
  by_cases same : other = slot
  · subst same
    rw [clear_same, clear_same, Option.map_none]
  · rw [clear_other _ same, clear_other _ same]
    rfl

theorem map_modify {change : α → α} {shown : β → β} (commutes : ∀ value, view (change value) = shown (view value)) :
    (table.modify slot change).map view = (table.map view).modify slot shown := by
  funext other
  rw [map_apply]
  by_cases same : other = slot
  · subst same
    rw [modify_same, modify_same, map_apply, Option.map_map, Option.map_map]
    congr 1
    funext value
    exact commutes value
  · rw [modify_other _ _ same, modify_other _ _ same]
    rfl

theorem lowestFree_map : (table.map view).lowestFree = table.lowestFree := by
  unfold lowestFree
  congr 1
  funext other
  exact Option.isNone_map

end Map

theorem foldl_modify (change : α → α) {slots : List (Fin size)} (nodup : slots.Nodup) (table : SlotTable size α)
    (slot : Fin size) :
    slots.foldl (fun table slot => table.modify slot change) table slot =
      if slot ∈ slots then (table slot).map change else table slot := by
  induction slots generalizing table with
  | nil => simp
  | cons first rest ih =>
    obtain ⟨fresh, distinct⟩ := List.nodup_cons.mp nodup
    rw [List.foldl_cons, ih distinct]
    by_cases same : slot = first
    · subst same
      simp [fresh]
    · simp [same, modify_other _ _ same]

theorem lowestFree_free {table : SlotTable size α} {slot : Fin size} (found : table.lowestFree = some slot) :
    ¬ table.Live slot := by
  have free := Fin.eq_true_of_find?_eq_some found
  simp_all [Live]

theorem lowestFree_eq_none {table : SlotTable size α} : table.lowestFree = none ↔ ∀ slot, table.Live slot := by
  rw [lowestFree, Fin.find?_eq_none_iff]
  simp [Live]

theorem slotOf_eq_some {id : Int} {slot : Fin size} : slotOf size id = some slot ↔ id = slot.val := by
  unfold slotOf
  constructor
  · intro found
    split at found
    · cases found
      simp only
      omega
    · cases found
  · intro same
    simp [same]

@[simp]
theorem slotOf_val (slot : Fin size) : slotOf size (slot.val : Int) = some slot :=
  slotOf_eq_some.mpr rfl

end SlotTable
