import Mathlib.Data.Fintype.Prod
import Mathlib.Data.Finset.Card
import TiSIP.Lib.Switchboard

namespace Switchboard

variable {Slot : Type*} [Fintype Slot] (board : Switchboard Slot)

open Classical in
noncomputable def links : Finset (Slot × Slot) :=
  Finset.univ.filter fun link => board.linked link.1 link.2

open Classical in
noncomputable def sources (sink : Slot) : Finset Slot :=
  Finset.univ.filter fun source => board.linked source sink

open Classical in
noncomputable def sinks (source : Slot) : Finset Slot :=
  Finset.univ.filter fun sink => board.linked source sink

@[simp]
theorem mem_links {source sink : Slot} : (source, sink) ∈ board.links ↔ board.linked source sink := by
  simp [links]

@[simp]
theorem mem_sources {source sink : Slot} : source ∈ board.sources sink ↔ board.linked source sink := by
  simp [sources]

@[simp]
theorem mem_sinks {source sink : Slot} : sink ∈ board.sinks source ↔ board.linked source sink := by
  simp [sinks]

variable {board}

section Connect

variable [DecidableEq Slot] {source sink : Slot}

theorem links_connect (sourcePlugged : source ∈ board.plugged) (sinkPlugged : sink ∈ board.plugged) :
    (board.connect source sink).links = insert (source, sink) board.links := by
  ext ⟨left, right⟩
  rw [mem_links, Finset.mem_insert, mem_links, Prod.mk.injEq]
  constructor
  · intro linked
    rcases linked with old | ⟨rfl, rfl, _⟩
    · exact .inr old
    · exact .inl ⟨rfl, rfl⟩
  · intro linked
    rcases linked with ⟨rfl, rfl⟩ | old
    · exact .inr ⟨rfl, rfl, sourcePlugged, sinkPlugged⟩
    · exact .inl old

theorem card_links_connect (sourcePlugged : source ∈ board.plugged) (sinkPlugged : sink ∈ board.plugged)
    (absent : ¬ board.linked source sink) : (board.connect source sink).links.card = board.links.card + 1 := by
  rw [links_connect sourcePlugged sinkPlugged]
  exact Finset.card_insert_of_notMem fun member => absent (board.mem_links.mp member)

theorem card_sources_connect (sourcePlugged : source ∈ board.plugged) (sinkPlugged : sink ∈ board.plugged)
    (absent : ¬ board.linked source sink) (other : Slot) :
    ((board.connect source sink).sources other).card =
      (board.sources other).card + if other = sink then 1 else 0 := by
  by_cases same : other = sink
  · subst same
    have grown : (board.connect source other).sources other = insert source (board.sources other) := by
      ext left
      rw [mem_sources, Finset.mem_insert, mem_sources]
      constructor
      · intro linked
        rcases linked with old | ⟨rfl, _⟩
        · exact .inr old
        · exact .inl rfl
      · intro linked
        rcases linked with rfl | old
        · exact .inr ⟨rfl, rfl, sourcePlugged, sinkPlugged⟩
        · exact .inl old
    rw [grown, if_pos rfl]
    exact Finset.card_insert_of_notMem fun member => absent (board.mem_sources.mp member)
  · have kept : (board.connect source sink).sources other = board.sources other := by
      ext left
      rw [mem_sources, mem_sources]
      constructor
      · intro linked
        rcases linked with old | ⟨_, rfl, _⟩
        · exact old
        · exact absurd rfl same
      · exact .inl
    rw [kept, if_neg same, Nat.add_zero]

theorem card_links_disconnect (linked : board.linked source sink) :
    board.links.card = (board.disconnect source sink).links.card + 1 := by
  obtain ⟨sourcePlugged, sinkPlugged⟩ := board.grounded _ _ linked
  have sourceLeft : source ∈ (board.disconnect source sink).plugged := sourcePlugged
  have grown := card_links_connect sourceLeft sinkPlugged fun kept => kept.2 ⟨rfl, rfl⟩
  rwa [connect_disconnect linked] at grown

theorem card_sources_disconnect (linked : board.linked source sink) (other : Slot) :
    (board.sources other).card =
      ((board.disconnect source sink).sources other).card + if other = sink then 1 else 0 := by
  obtain ⟨sourcePlugged, sinkPlugged⟩ := board.grounded _ _ linked
  have sourceLeft : source ∈ (board.disconnect source sink).plugged := sourcePlugged
  have grown := card_sources_connect sourceLeft sinkPlugged (fun kept => kept.2 ⟨rfl, rfl⟩) other
  rwa [connect_disconnect linked] at grown

end Connect

section Unplug

variable [DecidableEq Slot]

theorem card_links_unplug (slot : Slot) :
    board.links.card =
      (board.unplug slot).links.card + (board.sources slot).card + ((board.sinks slot).erase slot).card := by
  classical
  have incoming : (board.links.filter fun link => link.2 = slot).card = (board.sources slot).card := by
    apply Finset.card_bij fun link _ => link.1
    · intro link member
      obtain ⟨linked, ends⟩ := Finset.mem_filter.mp member
      rw [← ends, mem_sources]
      exact board.mem_links.mp linked
    · intro first firstMember second secondMember same
      have firstEnd := (Finset.mem_filter.mp firstMember).2
      have secondEnd := (Finset.mem_filter.mp secondMember).2
      exact Prod.ext same (firstEnd.trans secondEnd.symm)
    · intro source member
      exact ⟨(source, slot), by simpa using member, rfl⟩
  have outgoing : (board.links.filter fun link => link.2 ≠ slot ∧ link.1 = slot).card =
      ((board.sinks slot).erase slot).card := by
    apply Finset.card_bij fun link _ => link.2
    · intro link member
      obtain ⟨linked, other, starts⟩ := Finset.mem_filter.mp member
      rw [Finset.mem_erase, mem_sinks, ← starts]
      exact ⟨by simpa [starts] using other, board.mem_links.mp linked⟩
    · intro first firstMember second secondMember same
      have firstStart := (Finset.mem_filter.mp firstMember).2.2
      have secondStart := (Finset.mem_filter.mp secondMember).2.2
      exact Prod.ext (firstStart.trans secondStart.symm) same
    · intro sink member
      obtain ⟨other, linked⟩ := Finset.mem_erase.mp member
      exact ⟨(slot, sink), by simpa [other] using linked, rfl⟩
  have rest : board.links.filter (fun link => ¬ link.2 = slot ∧ ¬ link.1 = slot) = (board.unplug slot).links := by
    ext ⟨left, right⟩
    rw [Finset.mem_filter, mem_links, mem_links]
    constructor
    · exact fun kept => ⟨kept.1, kept.2.2, kept.2.1⟩
    · exact fun kept => ⟨kept.1, kept.2.2, kept.2.1⟩
  have first := Finset.card_filter_add_card_filter_not (s := board.links) fun link => link.2 = slot
  have second := Finset.card_filter_add_card_filter_not (s := board.links.filter fun link => ¬ link.2 = slot)
    fun link => link.1 = slot
  rw [Finset.filter_filter, Finset.filter_filter, rest, outgoing] at second
  rw [incoming] at first
  omega

theorem card_sources_unplug (board : Switchboard Slot) {slot sink : Slot} (other : sink ≠ slot) :
    (board.sources sink).card =
      ((board.unplug slot).sources sink).card + if sink ∈ board.sinks slot then 1 else 0 := by
  have kept : (board.unplug slot).sources sink = (board.sources sink).erase slot := by
    ext source
    rw [mem_sources, Finset.mem_erase, mem_sources]
    constructor
    · exact fun linked => ⟨linked.2.1, linked.1⟩
    · exact fun linked => ⟨linked.2, linked.1, other⟩
  rw [kept]
  split
  · rename_i linked
    have member : slot ∈ board.sources sink := board.mem_sources.mpr (board.mem_sinks.mp linked)
    exact (Finset.card_erase_add_one member).symm
  · rename_i unlinked
    have absent : slot ∉ board.sources sink :=
      fun member => unlinked (board.mem_sinks.mpr (board.mem_sources.mp member))
    rw [Finset.erase_eq_of_notMem absent, Nat.add_zero]

end Unplug

@[simp]
theorem links_plug (slot : Slot) : (board.plug slot).links = board.links := rfl

@[simp]
theorem sources_plug (slot sink : Slot) : (board.plug slot).sources sink = board.sources sink := rfl

theorem sources_unplugged {slot : Slot} (free : slot ∉ board.plugged) : board.sources slot = ∅ := by
  ext source
  rw [mem_sources]
  constructor
  · exact fun linked => absurd (board.grounded _ _ linked).2 free
  · exact fun member => absurd member (Finset.notMem_empty _)

end Switchboard
