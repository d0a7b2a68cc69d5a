import Mathlib.Data.Set.Card

namespace Holders

variable {Entry Lock : Type*}

/-- Who holds a lock, when each entry holds one at most. -/
def holders (locks : Entry → Option Lock) (lock : Lock) : Set Entry := { entry | locks entry = some lock }

variable [DecidableEq Entry] [DecidableEq Lock]

theorem card_holders_release {locks : Entry → Option Lock} (entry : Entry) (lock : Lock) (finite : (holders locks lock).Finite) :
    ((holders locks lock).ncard : Int) =
      (holders (Function.update locks entry none) lock).ncard + if locks entry = some lock then 1 else 0 := by
  have without : holders (Function.update locks entry none) lock = holders locks lock \ {entry} := by
    ext other
    unfold holders
    by_cases same : other = entry
    · subst same
      simp
    · simp [same]
  rw [without]
  split
  · rename_i held
    have counted := Set.ncard_sdiff_singleton_add_one (show entry ∈ holders locks lock from held) finite
    omega
  · rename_i free
    have absent : entry ∉ holders locks lock := free
    rw [Set.sdiff_singleton_eq_self absent]
    omega

theorem card_holders_take {locks : Entry → Option Lock} {entry : Entry} (free : locks entry = none) (taken : Option Lock)
    (lock : Lock) (finite : (holders locks lock).Finite) :
    ((holders (Function.update locks entry taken) lock).ncard : Int) =
      (holders locks lock).ncard + if taken = some lock then 1 else 0 := by
  have back : Function.update (Function.update locks entry taken) entry none = locks := by
    rw [Function.update_idem, ← free, Function.update_eq_self]
  have finiteTaken : (holders (Function.update locks entry taken) lock).Finite := by
    apply (finite.insert entry).subset
    intro other held
    by_cases same : other = entry
    · exact .inl same
    · unfold holders at held
      rw [Set.mem_ofPred_eq, Function.update_of_ne same] at held
      exact .inr held
  have released := card_holders_release entry lock finiteTaken
  rw [back, Function.update_self] at released
  exact released

end Holders
