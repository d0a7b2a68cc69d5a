import Mathlib.Data.Set.Insert

/-- Slots, some of them plugged, and links that carry the sound of one plugged slot to another. -/
@[ext]
structure Switchboard (Slot : Type*) where
  plugged : Set Slot
  linked : Slot → Slot → Prop
  grounded : ∀ source sink, linked source sink → source ∈ plugged ∧ sink ∈ plugged

namespace Switchboard

variable {Slot : Type*}

def connect (board : Switchboard Slot) (source sink : Slot) : Switchboard Slot where
  plugged := board.plugged
  linked := fun left right => board.linked left right ∨
    (left = source ∧ right = sink ∧ source ∈ board.plugged ∧ sink ∈ board.plugged)
  grounded := by
    rintro left right (old | ⟨rfl, rfl, fromPlugged, toPlugged⟩)
    · exact board.grounded _ _ old
    · exact ⟨fromPlugged, toPlugged⟩

def disconnect (board : Switchboard Slot) (source sink : Slot) : Switchboard Slot where
  plugged := board.plugged
  linked := fun left right => board.linked left right ∧ ¬ (left = source ∧ right = sink)
  grounded := fun _ _ kept => board.grounded _ _ kept.1

def plug (board : Switchboard Slot) (slot : Slot) : Switchboard Slot where
  plugged := insert slot board.plugged
  linked := board.linked
  grounded := fun _ _ old => (board.grounded _ _ old).imp (Set.mem_insert_of_mem _) (Set.mem_insert_of_mem _)

def unplug (board : Switchboard Slot) (slot : Slot) : Switchboard Slot where
  plugged := board.plugged \ {slot}
  linked := fun left right => board.linked left right ∧ left ≠ slot ∧ right ≠ slot
  grounded := by
    rintro left right ⟨old, leftOther, rightOther⟩
    obtain ⟨leftPlugged, rightPlugged⟩ := board.grounded _ _ old
    exact ⟨⟨leftPlugged, leftOther⟩, rightPlugged, rightOther⟩

/-- Every link starts or ends at the hub. -/
def Star (hub : Slot) (board : Switchboard Slot) : Prop :=
  ∀ source sink, board.linked source sink → source = hub ∨ sink = hub

def Wired (hub : Slot) (board : Switchboard Slot) (slot : Slot) : Prop :=
  board.linked slot hub ∧ board.linked hub slot

theorem star_connect {hub source sink : Slot} {board : Switchboard Slot} (star : board.Star hub)
    (touches : source = hub ∨ sink = hub) : (board.connect source sink).Star hub := by
  rintro left right (old | ⟨rfl, rfl, _⟩)
  · exact star _ _ old
  · exact touches

theorem star_of_fewer {hub : Slot} {board fewer : Switchboard Slot} (star : board.Star hub)
    (kept : ∀ source sink, fewer.linked source sink → board.linked source sink) : fewer.Star hub :=
  fun source sink link => star source sink (kept source sink link)

theorem Star.apart {hub first second : Slot} {board : Switchboard Slot} (star : board.Star hub)
    (firstOther : first ≠ hub) (secondOther : second ≠ hub) : ¬ board.linked first second := by
  intro link
  rcases star _ _ link with same | same
  · exact firstOther same
  · exact secondOther same

theorem wired_connect {hub slot source sink : Slot} {board : Switchboard Slot} (wired : board.Wired hub slot) :
    (board.connect source sink).Wired hub slot :=
  ⟨.inl wired.1, .inl wired.2⟩

theorem wired_of_connects {hub slot : Slot} {board : Switchboard Slot} (hubPlugged : hub ∈ board.plugged)
    (slotPlugged : slot ∈ board.plugged) : ((board.connect slot hub).connect hub slot).Wired hub slot :=
  ⟨.inl (.inr ⟨rfl, rfl, slotPlugged, hubPlugged⟩), .inr ⟨rfl, rfl, hubPlugged, slotPlugged⟩⟩

theorem wired_disconnect {hub slot other : Slot} {board : Switchboard Slot} (wired : board.Wired hub slot)
    (different : slot ≠ other) (notHub : slot ≠ hub) : (board.disconnect hub other).Wired hub slot :=
  ⟨⟨wired.1, fun same => notHub same.1⟩, wired.2, fun same => different same.2⟩

theorem wired_plug {hub slot other : Slot} {board : Switchboard Slot} (wired : board.Wired hub slot) :
    (board.plug other).Wired hub slot :=
  wired

theorem wired_unplug {hub slot other : Slot} {board : Switchboard Slot} (wired : board.Wired hub slot)
    (different : slot ≠ other) (notHub : hub ≠ other) : (board.unplug other).Wired hub slot :=
  ⟨⟨wired.1, different, notHub⟩, wired.2, notHub, different⟩

theorem disconnect_elsewhere_iff {board : Switchboard Slot} {source sink : Slot} {exempt : Slot → Slot → Prop} :
    (∀ left right, ¬ exempt left right → ((board.disconnect source sink).linked left right ↔ board.linked left right)) ↔
      (board.linked source sink → exempt source sink) := by
  constructor
  · intro same link
    by_contra foreign
    have kept := (same source sink foreign).mpr link
    exact kept.2 ⟨rfl, rfl⟩
  · intro allowed left right foreign
    refine ⟨fun link => link.1, fun link => ⟨link, ?_⟩⟩
    intro hit
    obtain ⟨rfl, rfl⟩ := hit
    exact foreign (allowed link)

theorem connect_elsewhere_iff {board : Switchboard Slot} {source sink : Slot} {exempt : Slot → Slot → Prop}
    (sourcePlugged : source ∈ board.plugged) :
    (∀ left right, ¬ exempt left right → ((board.connect source sink).linked left right ↔ board.linked left right)) ↔
      (sink ∈ board.plugged ∧ ¬ board.linked source sink → exempt source sink) := by
  constructor
  · intro same missing
    by_contra foreign
    have made : (board.connect source sink).linked source sink := .inr ⟨rfl, rfl, sourcePlugged, missing.1⟩
    exact missing.2 ((same source sink foreign).mp made)
  · intro allowed left right foreign
    refine ⟨fun link => ?_, fun link => .inl link⟩
    rcases link with old | ⟨rfl, rfl, _, sinkPlugged⟩
    · exact old
    · by_contra missing
      exact foreign (allowed ⟨sinkPlugged, missing⟩)

theorem connect_unlooped {board : Switchboard Slot} {hub source sink : Slot} (other : source ≠ hub ∨ sink ≠ hub)
    (loop : (board.connect source sink).linked hub hub) : board.linked hub hub := by
  rcases loop with old | ⟨rfl, rfl, _⟩
  · exact old
  · rcases other with different | different <;> exact absurd rfl different

theorem connect_disconnect {board : Switchboard Slot} {source sink : Slot} (linked : board.linked source sink) :
    (board.disconnect source sink).connect source sink = board := by
  apply Switchboard.ext
  · rfl
  · funext left right
    apply propext
    constructor
    · intro either
      rcases either with kept | ⟨rfl, rfl, _⟩
      · exact kept.1
      · exact linked
    · intro old
      by_cases same : left = source ∧ right = sink
      · obtain ⟨sourcePlugged, sinkPlugged⟩ := board.grounded _ _ linked
        exact .inr ⟨same.1, same.2, sourcePlugged, sinkPlugged⟩
      · exact .inl ⟨old, same⟩

theorem disconnect_unlinked {board : Switchboard Slot} {source sink : Slot} (unlinked : ¬ board.linked source sink) :
    board.disconnect source sink = board := by
  apply Switchboard.ext
  · rfl
  · funext left right
    apply propext
    constructor
    · exact fun kept => kept.1
    · intro old
      refine ⟨old, ?_⟩
      rintro ⟨rfl, rfl⟩
      exact unlinked old

theorem unlinked_of_unplugged {board : Switchboard Slot} {slot other : Slot} (free : slot ∉ board.plugged) :
    ¬ board.linked slot other ∧ ¬ board.linked other slot :=
  ⟨fun link => free (board.grounded _ _ link).1, fun link => free (board.grounded _ _ link).2⟩

end Switchboard
