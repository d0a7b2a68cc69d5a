import Mathlib.Data.List.Nodup
import Mathlib.Data.List.Perm.Basic
import Mathlib.Data.Set.Insert
import Mathlib.Data.Set.Card

structure Mirrors {ι β : Type*} (name : ι → β) (members : Set ι) (entries : List β) : Prop where
  nodup : entries.Nodup
  exact : ∀ entry, entry ∈ entries ↔ ∃ member ∈ members, name member = entry

namespace Mirrors

variable {ι β : Type*} {name : ι → β} {members : Set ι} {entries : List β}

theorem nil : Mirrors name ∅ [] :=
  ⟨List.nodup_nil, by simp⟩

theorem congr {others : Set ι} (mirror : Mirrors name members entries)
    (same : ∀ member, member ∈ members ↔ member ∈ others) : Mirrors name others entries := by
  have equal : members = others := Set.ext same
  exact equal ▸ mirror

theorem fresh (injective : Function.Injective name) (mirror : Mirrors name members entries) {member : ι}
    (absent : member ∉ members) : name member ∉ entries := by
  intro listed
  obtain ⟨other, held, named⟩ := (mirror.exact _).mp listed
  exact absent (injective named ▸ held)

theorem append (injective : Function.Injective name) (mirror : Mirrors name members entries) {member : ι}
    (absent : member ∉ members) : Mirrors name (insert member members) (entries ++ [name member]) := by
  refine ⟨?_, fun entry => ?_⟩
  · have single : [name member].Nodup := List.nodup_singleton _
    apply mirror.nodup.append single
    simpa using mirror.fresh injective absent
  · simp only [List.mem_append, mirror.exact, List.mem_singleton, Set.mem_insert_iff]
    constructor
    · rintro (⟨other, held, named⟩ | rfl)
      · exact ⟨other, Or.inr held, named⟩
      · exact ⟨member, Or.inl rfl, rfl⟩
    · rintro ⟨other, rfl | held, rfl⟩
      · exact Or.inr rfl
      · exact Or.inl ⟨other, held, rfl⟩

theorem remove (injective : Function.Injective name) [DecidableEq β]
    (mirror : Mirrors name members entries) (member : ι) :
    Mirrors name (members \ {member}) (entries.filter fun entry => !decide (name member = entry)) := by
  refine ⟨mirror.nodup.filter _, fun entry => ?_⟩
  simp only [List.mem_filter, mirror.exact, Set.mem_sdiff, Set.mem_singleton_iff, Bool.not_eq_true',
    decide_eq_false_iff_not]
  constructor
  · rintro ⟨⟨other, held, rfl⟩, different⟩
    exact ⟨other, ⟨held, fun same => different (by rw [same])⟩, rfl⟩
  · rintro ⟨other, ⟨held, different⟩, rfl⟩
    exact ⟨⟨other, held, rfl⟩, fun same => different (injective same).symm⟩

theorem not_remove {member : ι} (mirror : Mirrors name members entries) (held : member ∈ members)
    (injective : Function.Injective name) : ¬ Mirrors name (members \ {member}) entries := by
  intro shrunk
  have listed : name member ∈ entries := (mirror.exact _).mpr ⟨member, held, rfl⟩
  exact shrunk.fresh injective (by simp) listed

theorem length_eq (injective : Function.Injective name) (mirror : Mirrors name members entries) :
    entries.length = members.ncard := by
  classical
  have listed : (entries.toFinset : Set β) = name '' members := by
    ext entry
    simp [mirror.exact]
  calc entries.length = entries.toFinset.card := (List.toFinset_card_of_nodup mirror.nodup).symm
    _ = (entries.toFinset : Set β).ncard := (Set.ncard_coe_finset _).symm
    _ = (name '' members).ncard := by rw [listed]
    _ = members.ncard := Set.ncard_image_of_injective _ injective

end Mirrors
