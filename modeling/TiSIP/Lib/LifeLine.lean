import Mathlib.Data.List.Basic
import Mathlib.Data.List.Count

namespace LifeLine

variable {α : Type*} {rank : α → Nat} {last next : α} {passed : List α}

def Ascends (rank : α → Nat) (last : α) (passed : List α) : Prop :=
  passed.Pairwise fun earlier later => rank earlier ≤ rank later ∧ earlier ≠ last

theorem ascends_nil : Ascends rank last [] := List.Pairwise.nil

theorem Ascends.append (ascends : Ascends rank last passed)
    (above : ∀ state, state ∈ passed → rank state ≤ rank next ∧ state ≠ last) : Ascends rank last (passed ++ [next]) := by
  refine List.pairwise_append.mpr ⟨ascends, List.pairwise_singleton _ _, ?_⟩
  intro state member other single
  rw [List.mem_singleton.mp single]
  exact above state member

theorem Ascends.of_append {first second : List α} (ascends : Ascends rank last (first ++ second)) :
    Ascends rank last first :=
  (List.pairwise_append.mp ascends).1

theorem Ascends.closed [DecidableEq α] (ascends : Ascends rank last passed) (reached : last ∈ passed) :
    passed.getLast? = some last ∧ passed.count last = 1 := by
  obtain ⟨before, after, rfl⟩ := List.append_of_mem reached
  obtain ⟨_, tail, across⟩ := List.pairwise_append.mp ascends
  have none : after = [] := by
    cases after with
    | nil => rfl
    | cons later rest => exact absurd rfl ((List.pairwise_cons.mp tail).1 later (List.mem_cons_self ..)).2
  have fresh : last ∉ before := fun member => (across last member last (List.mem_cons_self ..)).2 rfl
  rw [none]
  refine ⟨List.getLast?_concat, ?_⟩
  rw [List.count_append, List.count_eq_zero.mpr fresh, List.count_singleton_self]

end LifeLine
