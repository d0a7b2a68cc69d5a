import Mathlib.Data.List.Perm.Basic
import Mathlib.Data.List.Perm.Subperm
import Mathlib.Data.List.Sort
import Mathlib.Order.Basic

namespace Rearrange

section Forward

variable {Item : Type*} [DecidableEq Item]

/-- For each position the wanted item is looked up from there on and exchanged with the item that
    stands there. A wanted item that is not found has no outcome. -/
def bringForward : List Item → List Item → Option (List Item)
  | items, [] => some items
  | [], _ :: _ => none
  | item :: items, wanted :: more =>
    if item = wanted then (bringForward items more).map (item :: ·)
    else if wanted ∈ items then (bringForward (items.replace wanted item) more).map (wanted :: ·)
    else none

theorem perm_replace {items : List Item} {wanted : Item} (held : wanted ∈ items) (item : Item) :
    (wanted :: items.replace wanted item).Perm (item :: items) := by
  induction items with
  | nil => cases held
  | cons first items ih =>
    by_cases same : wanted = first
    · subst same
      simpa [List.replace_cons] using List.Perm.swap item wanted items
    · have later : wanted ∈ items := (List.mem_cons.mp held).resolve_left same
      have skipped : (first :: items).replace wanted item = first :: items.replace wanted item := by
        rw [List.replace_cons, beq_eq_false_iff_ne.mpr same]
      rw [skipped]
      apply (List.Perm.swap first wanted _).trans
      apply ((ih later).cons first).trans
      exact List.Perm.swap item first items

theorem bringForward_spec {items wanted moved : List Item} (done : bringForward items wanted = some moved) :
    moved.Perm items ∧ wanted <+: moved := by
  induction wanted generalizing items moved with
  | nil =>
    cases items <;> cases done <;> exact ⟨.refl _, List.nil_prefix⟩
  | cons first wanted ih =>
    cases items with
    | nil => cases done
    | cons item items =>
      simp only [bringForward] at done
      split at done
      · rename_i same
        subst same
        obtain ⟨rest, tail, rfl⟩ := Option.map_eq_some_iff.mp done
        obtain ⟨same, front⟩ := ih tail
        exact ⟨same.cons item, List.prefix_cons_inj item |>.mpr front⟩
      · split at done
        · rename_i held
          obtain ⟨rest, tail, rfl⟩ := Option.map_eq_some_iff.mp done
          obtain ⟨same, front⟩ := ih tail
          exact ⟨(same.cons first).trans (perm_replace held item), List.prefix_cons_inj first |>.mpr front⟩
        · cases done

theorem bringForward_isSome {items wanted : List Item} (enough : wanted.Subperm items) :
    ∃ moved, bringForward items wanted = some moved := by
  induction wanted generalizing items with
  | nil =>
    cases items <;> exact ⟨_, rfl⟩
  | cons first wanted ih =>
    cases items with
    | nil =>
      have short := enough.length_le
      simp at short
    | cons item items =>
      simp only [bringForward]
      split
      · rename_i same
        subst same
        obtain ⟨moved, tail⟩ := ih ((List.subperm_cons item).mp enough)
        exact ⟨item :: moved, by rw [tail]; rfl⟩
      · rename_i other
        have held : first ∈ items := by
          have inside := enough.subset (List.mem_cons_self)
          exact (List.mem_cons.mp inside).resolve_left fun same => other same.symm
        have rest : wanted.Subperm (items.replace first item) := by
          apply (List.subperm_cons first).mp
          exact enough.trans (perm_replace held item).symm.subperm
        obtain ⟨moved, tail⟩ := ih rest
        exact ⟨first :: moved, by rw [if_pos held, tail]; rfl⟩

end Forward

section Exchange

variable {Item Key : Type*} [LinearOrder Key] (key : Item → Key)

def leastFirst : Item → List Item → Item × List Item
  | front, [] => (front, [])
  | front, item :: items =>
    if key item < key front then
      let round := leastFirst item items
      (round.1, front :: round.2)
    else
      let round := leastFirst front items
      (round.1, item :: round.2)

theorem leastFirst_perm (front : Item) (items : List Item) :
    ((leastFirst key front items).1 :: (leastFirst key front items).2).Perm (front :: items) := by
  induction items generalizing front with
  | nil => exact .refl _
  | cons item items ih =>
    simp only [leastFirst]
    split
    · exact (List.Perm.swap _ _ _).trans ((ih item).cons front)
    · exact (List.Perm.swap _ _ _).trans (((ih front).cons item).trans (List.Perm.swap _ _ _))

theorem leastFirst_length (front : Item) (items : List Item) : (leastFirst key front items).2.length = items.length := by
  have same := (leastFirst_perm key front items).length_eq
  simpa using same

theorem leastFirst_least (front : Item) (items : List Item) :
    key (leastFirst key front items).1 ≤ key front ∧
      ∀ item ∈ (leastFirst key front items).2, key (leastFirst key front items).1 ≤ key item := by
  induction items generalizing front with
  | nil => simp [leastFirst]
  | cons item items ih =>
    simp only [leastFirst]
    split
    · rename_i before
      obtain ⟨least, others⟩ := ih item
      have low := le_of_lt (lt_of_le_of_lt least before)
      exact ⟨low, fun other member => (List.mem_cons.mp member).elim (fun same => same ▸ low) (others other)⟩
    · rename_i notBefore
      obtain ⟨least, others⟩ := ih front
      have low := le_trans least (le_of_not_gt notBefore)
      exact ⟨least, fun other member => (List.mem_cons.mp member).elim (fun same => same ▸ low) (others other)⟩

def exchangeRounds : Nat → List Item → List Item
  | 0, items => items
  | _ + 1, [] => []
  | rounds + 1, front :: items =>
    let round := leastFirst key front items
    round.1 :: exchangeRounds rounds round.2

/-- The two nested loops that exchange what is out of order. -/
def exchangeSort (items : List Item) : List Item := exchangeRounds key items.length items

theorem exchangeRounds_perm (rounds : Nat) (items : List Item) : (exchangeRounds key rounds items).Perm items := by
  induction rounds generalizing items with
  | zero => exact .refl _
  | succ rounds ih =>
    cases items with
    | nil => exact .refl _
    | cons front items => exact ((ih _).cons _).trans (leastFirst_perm key front items)

theorem exchangeRounds_sorted (rounds : Nat) (items : List Item) (enough : items.length ≤ rounds) :
    (exchangeRounds key rounds items).Pairwise fun first second => key first ≤ key second := by
  induction rounds generalizing items with
  | zero =>
    rw [List.eq_nil_of_length_eq_zero (Nat.le_zero.mp enough)]
    exact .nil
  | succ rounds ih =>
    cases items with
    | nil => exact .nil
    | cons front items =>
      apply List.Pairwise.cons
      · intro item member
        exact (leastFirst_least key front items).2 item ((exchangeRounds_perm key rounds _).mem_iff.mp member)
      · apply ih
        rw [leastFirst_length]
        simpa using enough

theorem exchangeSort_perm (items : List Item) : (exchangeSort key items).Perm items :=
  exchangeRounds_perm key items.length items

theorem exchangeSort_sorted (items : List Item) :
    (exchangeSort key items).Pairwise fun first second => key first ≤ key second :=
  exchangeRounds_sorted key items.length items le_rfl

end Exchange

end Rearrange
