import Mathlib.Data.List.Basic
import Mathlib.Data.List.Nodup
import Mathlib.Data.List.Perm.Basic

namespace Keyed

variable {Item Key : Type*} (key : Item → Key)

def Distinct (items : List Item) : Prop := (items.map key).Nodup

variable {key} {items : List Item}

theorem Distinct.tail {item : Item} (distinct : Distinct key (item :: items)) : Distinct key items :=
  (List.nodup_cons.mp distinct).2

theorem Distinct.head {item other : Item} (distinct : Distinct key (item :: items)) (member : other ∈ items) :
    key other ≠ key item := by
  intro same
  exact (List.nodup_cons.mp distinct).1 (same ▸ List.mem_map_of_mem member)

theorem Distinct.eq {first second : Item} (distinct : Distinct key items) (left : first ∈ items)
    (right : second ∈ items) (same : key first = key second) : first = second :=
  List.inj_on_of_nodup_map distinct left right same

theorem Distinct.sublist {others : List Item} (distinct : Distinct key items) (fewer : others.Sublist items) :
    Distinct key others :=
  List.Nodup.sublist (fewer.map key) distinct

theorem Distinct.perm {others : List Item} (distinct : Distinct key items) (same : others.Perm items) :
    Distinct key others :=
  (same.map key).nodup_iff.mpr distinct

variable [DecidableEq Key]

instance (key : Item → Key) (items : List Item) : Decidable (Distinct key items) :=
  inferInstanceAs (Decidable (List.Nodup _))

theorem find_eq_some_iff (distinct : Distinct key items) {wanted : Key} {item : Item} :
    items.find? (fun item => key item == wanted) = some item ↔ item ∈ items ∧ key item = wanted := by
  constructor
  · intro found
    exact ⟨List.mem_of_find?_eq_some found, by simpa using List.find?_some found⟩
  · rintro ⟨member, rfl⟩
    cases found : items.find? (fun other => key other == key item) with
    | none => exact absurd (List.find?_eq_none.mp found item member) (by simp)
    | some other =>
      have same : key other = key item := by simpa using List.find?_some found
      rw [distinct.eq (List.mem_of_find?_eq_some found) member same]

theorem erase_eq_filter (distinct : Distinct key items) (gone : Key) :
    items.eraseP (fun item => key item == gone) = items.filter fun item => key item != gone := by
  induction items with
  | nil => rfl
  | cons item items ih =>
    by_cases same : key item = gone
    · have others : ∀ other ∈ items, (key other != gone) = true := by
        intro other member
        simpa [same] using distinct.head member
      simp only [same, bne_self_eq_false, List.eraseP_cons, List.filter_cons, beq_self_eq_true]
      simpa using (List.filter_eq_self.mpr others).symm
    · have kept : (key item != gone) = true := by simpa using same
      have skipped : (key item == gone) = false := by simpa using same
      simp only [List.eraseP_cons, List.filter_cons, kept, skipped, ih distinct.tail]
      rfl

theorem filter_eq_find (distinct : Distinct key items) (wanted : Key) :
    (items.filter fun item => key item == wanted) = (items.find? fun item => key item == wanted).toList := by
  induction items with
  | nil => rfl
  | cons item items ih =>
    by_cases same : key item = wanted
    · have others : ∀ other ∈ items, ¬ (key other == wanted) = true := by
        intro other member
        simpa [same] using distinct.head member
      simpa [same] using others
    · have skipped : (key item == wanted) = false := by simpa using same
      simp only [List.filter_cons, List.find?_cons, skipped]
      exact ih distinct.tail

end Keyed
