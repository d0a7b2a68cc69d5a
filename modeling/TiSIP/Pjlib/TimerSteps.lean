import Mathlib.Data.List.Nodup
import TiSIP.Pjlib.TimerSound

namespace TiSIP.Pjlib.TimerHeap

open Pjsip Pjsua BinaryHeap FreeList

variable {Entry Lock : Type} [DecidableEq Entry] {ht : TimerHeap Entry Lock}

structure Changes (before : TimerHeap Entry Lock) (entry : Entry) (fields : TimerEntry Lock)
    (after : TimerHeap Entry Lock) : Prop where
  entries : after.entries = Function.update before.entries entry fields
  refs : after.refs = before.refs
  limit : after.maxEntriesPerPoll = before.maxEntriesPerPoll

section Remove

variable {slot : Nat} {removed : Entry}

theorem Removes.last (removes : ht.Removes slot removed) (last : slot = ht.curSize - 1) :
    ht.Rest slot removed (ht.detached removed) ht.heap ∧
      Arranged (ht.detached removed) ht.heap (ht.curSize - 1) (ht.detached removed) := by
  constructor
  · refine ⟨rfl, ?_, fun _ _ => rfl⟩
    intro index bound
    unfold origin
    rw [if_neg (by omega)]
  · refine ⟨rfl, ⟨Equiv.refl Nat, fun _ => Iff.rfl, fun _ _ => rfl⟩, ?_, fun _ _ => rfl, ?_⟩
    · intro index entry bound held
      obtain ⟨sameId, _, located, apart⟩ := removes.other (by omega : index < ht.curSize) (by omega) held
      rw [sameId]
      exact (Function.update_of_ne apart _ _).trans located
    · rw [keys_detached]
      exact removes.sound.ordered.smaller (Nat.sub_le _ _)

theorem Removes.removeNode (removes : ht.Removes slot removed) :
    ∃ after, ht.removeNode slot = some (after, removed) ∧ after.Sound ∧
      Changes ht removed { ht.entries removed with timerId := -1 } after ∧ after.curSize + 1 = ht.curSize := by
  have room := removes.sound.room
  have inside := removes.inside
  have placeable := (removes.sound.node removes.inside removes.held).1
  unfold TimerHeap.removeNode
  rw [readHeap_eq (by omega) removes.held]
  simp only [Option.bind_eq_bind, Option.bind_some]
  rw [pushFreelist_eq placeable]
  simp only [Option.bind_some]
  rw [if_neg (by omega)]
  change ∃ after, (if slot < ht.curSize - 1 then ((ht.detached removed).refill slot).bind fun ht => some (ht, removed)
      else some (ht.detached removed, removed)) = some (after, removed) ∧ _
  by_cases notLast : slot < ht.curSize - 1
  · obtain ⟨after, base, items, ran, rest, arranged⟩ := removes.refill notLast
    have kept : after = { ht.detached removed with heap := after.heap, timerIds := after.timerIds } := by
      rw [arranged.kept, rest.kept]
    have sound := removes.arranged rest arranged
    have size : after.curSize = ht.curSize - 1 := by
      rw [kept]
      rfl
    rw [← size] at sound
    rw [if_pos notLast, ran]
    refine ⟨after, rfl, sound, ⟨?_, ?_, ?_⟩, ?_⟩
    · rw [kept]
      rfl
    · rw [kept]
      rfl
    · rw [kept]
      rfl
    · omega
  · obtain ⟨rest, arranged⟩ := removes.last (by omega)
    rw [if_neg notLast]
    exact ⟨ht.detached removed, rfl, removes.arranged rest arranged, ⟨rfl, rfl, rfl⟩, show ht.curSize - 1 + 1 = _ by omega⟩

end Remove

section Insert

omit [DecidableEq Entry] in
theorem Sound.growHeap (sound : ht.Sound) : ht.growHeap.Sound := by
  have room := sound.room
  have sameIds : ∀ id, id < ht.maxSize → ht.growHeap.timerIds id = ht.timerIds id := fun _ inside => if_pos inside
  have sameHeap : ∀ slot, slot < ht.maxSize → ht.growHeap.heap slot = ht.heap slot := fun _ inside => if_pos inside
  obtain ⟨ids, free, length⟩ := sound.free
  constructor
  · show ht.curSize + 1 < ht.maxSize * 2
    omega
  · intro slot inside
    have inHeap : slot < ht.curSize := inside
    obtain ⟨entry, held, placeable, located⟩ := sound.seated slot inHeap
    unfold Placeable at placeable
    refine ⟨entry, (sameHeap slot (by omega)).trans held, ⟨placeable.1, ?_⟩, ?_⟩
    · show ht.idOf entry < ((ht.maxSize * 2 : Nat) : Int)
      omega
    · exact (sameIds (ht.idOf entry).toNat (by omega)).trans located
  · intro entry runs
    obtain ⟨slot, inside, held⟩ := sound.running entry runs
    exact ⟨slot, inside, (sameHeap slot (by omega)).trans held⟩
  · apply sound.ordered.congr
    intro slot inside
    unfold keys
    rw [sameHeap slot (by omega)]
    rfl
  · have row : Threads ht.growHeap.nextFree _ _ _ := threads_row id ht.maxSize ht.maxSize fun i low _ => by
      unfold nextFree TimerHeap.growHeap
      dsimp only [id]
      rw [if_neg (by omega)]
      omega
    rw [List.map_id] at row
    have old : Threads ht.growHeap.nextFree ht.maxSize ht.timerIdsFreelist.toNat ids := by
      apply free.threads.congr
      intro id member
      have inside := free.inside id member
      exact congrArg (fun link => (-link).toNat) (sameIds id inside.2.1)
    refine ⟨ids ++ List.range' ht.maxSize ht.maxSize, ⟨free.start, ?_, ?_, ?_⟩, ?_⟩
    · show Threads _ (ht.maxSize * 2) ht.timerIdsFreelist.toNat _
      rw [Nat.mul_two]
      exact old.append row
    · apply List.Nodup.append free.nodup List.nodup_range'
      intro id member new
      have inside := free.inside id member
      rw [List.mem_range'_1] at new
      omega
    · intro id member
      show 1 ≤ id ∧ id < ht.maxSize * 2 ∧ ht.growHeap.timerIds id < 0
      rcases List.mem_append.mp member with before | new
      · have inside := free.inside id before
        rw [sameIds id inside.2.1]
        omega
      · rw [List.mem_range'_1] at new
        have link : ht.growHeap.timerIds id = -((id : Int) + 1) := if_neg (by omega)
        rw [link]
        omega
    · rw [List.length_append, List.length_range']
      show ids.length + ht.maxSize + ht.curSize + 1 = ht.maxSize * 2
      omega
  · rw [sameIds 0 (by omega)]
    exact sound.unused

def admitted (ht : TimerHeap Entry Lock) (entry : Entry) (time : TimeVal) : TimerHeap Entry Lock :=
  { ht with
    timerIdsFreelist := -ht.timerIds ht.timerIdsFreelist.toNat
    entries := Function.update ht.entries entry
      { ht.entries entry with timerId := ht.timerIdsFreelist, timerValue := time } }

variable {entry : Entry} {time : TimeVal}

theorem idOf_admitted_own : (ht.admitted entry time).idOf entry = ht.timerIdsFreelist := by
  unfold idOf admitted
  dsimp only
  rw [Function.update_self]

theorem idOf_admitted {other : Entry} (different : other ≠ entry) : (ht.admitted entry time).idOf other = ht.idOf other := by
  unfold idOf admitted
  dsimp only
  rw [Function.update_of_ne different]

theorem value_admitted {other : Entry} (different : other ≠ entry) : (ht.admitted entry time).value other = ht.value other := by
  unfold value admitted
  dsimp only
  rw [Function.update_of_ne different]

structure Admits (ht : TimerHeap Entry Lock) (entry : Entry) : Prop where
  sound : ht.Sound
  idle : ht.idOf entry < 1

omit [DecidableEq Entry] in
theorem Sound.available (sound : ht.Sound) :
    ∃ rest, ht.FreeIds (ht.timerIdsFreelist.toNat :: rest) ∧ rest.length + ht.curSize + 2 = ht.maxSize := by
  have room := sound.room
  obtain ⟨ids, free, length⟩ := sound.free
  cases ids with
  | nil =>
    rw [List.length_nil] at length
    omega
  | cons id rest =>
    have first : ht.timerIdsFreelist.toNat = id := free.threads.1
    rw [List.length_cons] at length
    rw [first]
    exact ⟨rest, free, by omega⟩

theorem Admits.node (admits : ht.Admits entry) (time : TimeVal) {slot : Nat} {node : Entry} (inside : slot < ht.curSize)
    (held : ht.heap slot = some node) : node ≠ entry ∧ (ht.admitted entry time).idOf node = ht.idOf node ∧
      ht.Placeable node ∧ ht.timerIds (ht.idOf node).toNat = slot := by
  obtain ⟨placeable, located⟩ := admits.sound.node inside held
  have different : node ≠ entry := by
    rintro rfl
    have idle := admits.idle
    unfold Placeable at placeable
    omega
  exact ⟨different, idOf_admitted different, placeable, located⟩

theorem Admits.inserted (admits : ht.Admits entry) (time : TimeVal) (large : ht.curSize + 2 < ht.maxSize) :
    ∃ after, reheapUp entry (ht.curSize + 1) (ht.admitted entry time) ht.curSize (heapParent ht.curSize) = some after ∧
      Sound { after with curSize := ht.curSize + 1 } ∧
      after = { ht.admitted entry time with heap := after.heap, timerIds := after.timerIds } := by
  have sound := admits.sound
  obtain ⟨rest, free, length⟩ := sound.available
  have head := free.inside _ List.mem_cons_self
  have start := free.start
  have placeable : (ht.admitted entry time).Placeable entry := by
    unfold Placeable
    rw [idOf_admitted_own]
    show 1 ≤ ht.timerIdsFreelist ∧ ht.timerIdsFreelist < ht.maxSize
    omega
  have aloft : (ht.admitted entry time).Aloft (ht.curSize + 1) ht.curSize entry := by
    refine ⟨Nat.lt_succ_self _, show ht.curSize + 1 ≤ ht.maxSize by omega, ?_, placeable⟩
    intro slot bound notLast
    have inside : slot < ht.curSize := by omega
    obtain ⟨node, held, _⟩ := sound.seated slot inside
    obtain ⟨_, sameId, nodePlaceable, located⟩ := admits.node time inside held
    refine ⟨node, held, ?_, ?_, ?_⟩
    · unfold Placeable at nodePlaceable ⊢
      rw [sameId]
      exact nodePlaceable
    · rw [sameId]
      exact located
    · rw [sameId, idOf_admitted_own]
      intro same
      rw [same] at located
      omega
  have sameKeys : ∀ slot, slot < ht.curSize →
      (ht.admitted entry time).keys ((ht.admitted entry time).filled ht.curSize entry) slot = ht.keys ht.heap slot := by
    intro slot inside
    obtain ⟨node, held, _⟩ := sound.seated slot inside
    have different := (admits.node time inside held).1
    have stays : (ht.admitted entry time).filled ht.curSize entry slot = some node :=
      (filled_other (ht.admitted entry time) entry (by omega)).trans held
    rw [keys_some held, keys_some stays, value_admitted different]
  obtain ⟨after, ran, arranged⟩ := reheapUp_arranges entry (ht.curSize + 1) (ht.admitted entry time) ht.curSize
    (Nat.lt_succ_self _) aloft (sound.ordered.appended _ sameKeys)
  refine ⟨after, ran, ?_, arranged.kept⟩
  have nodes : ∀ slot, slot < ht.curSize + 1 → ∃ node,
      (ht.admitted entry time).filled ht.curSize entry slot = some node ∧
        (slot = ht.curSize ∧ node = entry ∨ slot < ht.curSize ∧ ht.heap slot = some node) := by
    intro slot bound
    by_cases last : slot = ht.curSize
    · rw [last]
      exact ⟨entry, filled_hole _ _ _, .inl ⟨rfl, rfl⟩⟩
    · obtain ⟨node, held, _⟩ := sound.seated slot (by omega)
      exact ⟨node, (filled_other _ _ last).trans held, .inr ⟨by omega, held⟩⟩
  apply arranged.sound _ _ _ rest
  · have fresh := List.nodup_cons.mp free.nodup
    constructor
    · show 0 ≤ -ht.timerIds ht.timerIdsFreelist.toNat
      omega
    · exact free.threads.2
    · exact fresh.2
    · exact fun id member => free.inside id (List.mem_cons_of_mem _ member)
  · show rest.length + (ht.curSize + 1) + 1 = ht.maxSize
    omega
  · rintro id member ⟨slot, node, bound, held, same⟩
    have negative := (free.inside id (List.mem_cons_of_mem _ member)).2.2
    obtain ⟨other, otherHeld, origin⟩ := nodes slot bound
    rw [held] at otherHeld
    cases otherHeld
    rcases origin with ⟨_, rfl⟩ | ⟨inside, before⟩
    · rw [idOf_admitted_own] at same
      rw [same] at free
      exact (List.nodup_cons.mp free.nodup).1 member
    · obtain ⟨_, sameId, _, located⟩ := admits.node time inside before
      rw [sameId] at same
      rw [same] at located
      omega
  · exact sound.unused
  · intro slot bound
    obtain ⟨node, held, origin⟩ := nodes slot bound
    refine ⟨node, held, ?_⟩
    rcases origin with ⟨_, rfl⟩ | ⟨inside, before⟩
    · exact placeable
    · obtain ⟨_, sameId, nodePlaceable, _⟩ := admits.node time inside before
      unfold Placeable at nodePlaceable ⊢
      rw [sameId]
      exact nodePlaceable
  · show ht.curSize + 1 + 1 < ht.maxSize
    omega
  · intro node runs
    by_cases same : node = entry
    · rw [same]
      exact ⟨ht.curSize, Nat.lt_succ_self _, filled_hole _ _ _⟩
    · rw [idOf_admitted same] at runs
      obtain ⟨slot, inside, held⟩ := sound.running node runs
      exact ⟨slot, by omega, (filled_other _ _ (by omega)).trans held⟩

theorem admitted_growHeap (sound : ht.Sound) : (ht.admitted entry time).growHeap = ht.growHeap.admitted entry time := by
  obtain ⟨rest, free, _⟩ := sound.available
  have head := (free.inside _ List.mem_cons_self).2.1
  have link : ht.growHeap.timerIds ht.timerIdsFreelist.toNat = ht.timerIds ht.timerIdsFreelist.toNat := if_pos head
  unfold admitted
  rw [show ht.growHeap.timerIdsFreelist = ht.timerIdsFreelist from rfl, link]
  rfl

omit [DecidableEq Entry] in
theorem Admits.growHeap (admits : ht.Admits entry) : ht.growHeap.Admits entry :=
  ⟨admits.sound.growHeap, admits.idle⟩

theorem Admits.insertNode (admits : ht.Admits entry) (time : TimeVal) :
    ∃ after, (ht.admitted entry time).insertNode entry = some after ∧ after.Sound ∧
      Changes ht entry { ht.entries entry with timerId := ht.timerIdsFreelist, timerValue := time } after ∧
      after.curSize = ht.curSize + 1 := by
  have room := admits.sound.room
  unfold TimerHeap.insertNode
  dsimp only
  by_cases full : ht.curSize + 2 ≥ ht.maxSize
  · rw [if_pos (show (ht.admitted entry time).curSize + 2 ≥ (ht.admitted entry time).maxSize from full),
      admitted_growHeap admits.sound]
    obtain ⟨after, ran, sound, kept⟩ := admits.growHeap.inserted time (show ht.curSize + 2 < ht.maxSize * 2 by omega)
    refine ⟨{ after with curSize := ht.curSize + 1 }, ?_, sound, ?_, rfl⟩
    · change (reheapUp entry (ht.curSize + 1) (ht.growHeap.admitted entry time) ht.curSize (heapParent ht.curSize)).bind _ = _
      have ranHere : reheapUp entry (ht.curSize + 1) (ht.growHeap.admitted entry time) ht.curSize
          (heapParent ht.curSize) = some after := ran
      rw [ranHere, Option.bind_some, kept]
      rfl
    · rw [kept]
      exact ⟨rfl, rfl, rfl⟩
  · rw [if_neg (show ¬ (ht.admitted entry time).curSize + 2 ≥ (ht.admitted entry time).maxSize from full)]
    obtain ⟨after, ran, sound, kept⟩ := admits.inserted time (by omega)
    refine ⟨{ after with curSize := ht.curSize + 1 }, ?_, sound, ?_, rfl⟩
    · change (reheapUp entry (ht.curSize + 1) (ht.admitted entry time) ht.curSize (heapParent ht.curSize)).bind _ = _
      rw [ran, Option.bind_some, kept]
      rfl
    · rw [kept]
      exact ⟨rfl, rfl, rfl⟩

theorem Admits.scheduleEntry (admits : ht.Admits entry) (time : TimeVal) :
    ∃ after id, ht.scheduleEntry entry time = some (after, true) ∧ after.Sound ∧ 1 ≤ id ∧
      Changes ht entry { ht.entries entry with timerId := id, timerValue := time } after ∧
      after.curSize = ht.curSize + 1 := by
  have room := admits.sound.room
  obtain ⟨rest, free, _⟩ := admits.sound.available
  have head := free.inside _ List.mem_cons_self
  have start := free.start
  have popped : ht.popFreelist = some ({ ht with timerIdsFreelist := -ht.timerIds ht.timerIdsFreelist.toNat },
      ht.timerIdsFreelist) := by
    unfold popFreelist readTimerId
    rw [if_pos (by omega)]
    rfl
  obtain ⟨after, inserted, sound, changes, size⟩ := admits.insertNode time
  unfold TimerHeap.scheduleEntry
  rw [if_pos (by omega), popped]
  simp only [Option.bind_eq_bind, Option.bind_some]
  change ∃ after id, ((ht.admitted entry time).insertNode entry).bind _ = _ ∧ _
  rw [inserted]
  exact ⟨after, ht.timerIdsFreelist, rfl, sound, by omega, changes, size⟩

end Insert

section Fields

variable {entry : Entry} {fields : TimerEntry Lock}

/-- Fields that the heap's order does not depend on may be written at any time, and any fields of an
    entry that stays idle. -/
def Harmless (ht : TimerHeap Entry Lock) (entry : Entry) (fields : TimerEntry Lock) : Prop :=
  fields.timerId = ht.idOf entry ∧ fields.timerValue = ht.value entry ∨ fields.timerId < 1 ∧ ht.idOf entry < 1

theorem Sound.setEntry (sound : ht.Sound) (harmless : ht.Harmless entry fields) : (ht.setEntry entry fields).Sound := by
  have ids : ∀ other, (ht.setEntry entry fields).idOf other = ht.idOf other ∨
      other = entry ∧ (ht.setEntry entry fields).idOf other < 1 ∧ ht.idOf other < 1 := by
    intro other
    unfold idOf TimerHeap.setEntry
    dsimp only
    by_cases same : other = entry
    · subst same
      rw [Function.update_self]
      exact harmless.imp (fun kept => kept.1) fun idle => ⟨rfl, idle⟩
    · rw [Function.update_of_ne same]
      exact .inl rfl
  have nodes : ∀ slot node, slot < ht.curSize → ht.heap slot = some node →
      (ht.setEntry entry fields).idOf node = ht.idOf node ∧ (ht.setEntry entry fields).value node = ht.value node := by
    intro slot node inside held
    have placeable := (sound.node inside held).1
    unfold Placeable at placeable
    constructor
    · rcases ids node with same | ⟨_, _, idle⟩
      · exact same
      · omega
    · unfold value TimerHeap.setEntry
      dsimp only
      by_cases same : node = entry
      · subst same
        rw [Function.update_self]
        rcases harmless with kept | idle
        · exact kept.2
        · omega
      · rw [Function.update_of_ne same]
  constructor
  · exact sound.room
  · intro slot inside
    obtain ⟨node, held, placeable, located⟩ := sound.seated slot inside
    have sameId := (nodes slot node inside held).1
    refine ⟨node, held, ?_, ?_⟩
    · unfold Placeable at placeable ⊢
      rw [sameId]
      exact placeable
    · rw [sameId]
      exact located
  · intro node runs
    rcases ids node with same | ⟨_, idle, _⟩
    · rw [same] at runs
      exact sound.running node runs
    · omega
  · apply sound.ordered.congr
    intro slot inside
    obtain ⟨node, held, _⟩ := sound.seated slot inside
    rw [keys_some held, ← (nodes slot node inside held).2]
    exact keys_some held
  · obtain ⟨free, isFree, length⟩ := sound.free
    exact ⟨free, ⟨isFree.start, isFree.threads, isFree.nodup, isFree.inside⟩, length⟩
  · exact sound.unused

end Fields

section Cancel

variable {entry : Entry}

theorem Sound.cancel_running (sound : ht.Sound) (dontAssert : Bool) (running : 1 ≤ ht.idOf entry) :
    ∃ after, ht.cancel entry dontAssert = some (after, 1) ∧ after.Sound ∧
      Changes ht entry { ht.entries entry with timerId := -1 } after ∧ after.curSize + 1 = ht.curSize := by
  have room := sound.room
  obtain ⟨slot, inside, held⟩ := sound.running entry running
  obtain ⟨placeable, located⟩ := sound.node inside held
  unfold Placeable idOf at placeable
  unfold idOf at located
  have removes : ht.Removes slot entry := ⟨sound, inside, held⟩
  obtain ⟨after, removed, facts⟩ := removes.removeNode
  have found : ht.readTimerId (ht.entries entry).timerId = some (slot : Int) := by
    unfold readTimerId
    rw [if_pos (by omega), located]
  refine ⟨after, ?_, facts⟩
  unfold cancel
  dsimp only
  rw [if_neg (by omega), found]
  simp only [Option.bind_eq_bind, Option.bind_some]
  rw [if_neg (by omega), Int.toNat_natCast, readHeap_eq (by omega) held]
  simp only [Option.bind_some]
  rw [if_neg (not_not.mpr rfl), removed]
  rfl

theorem Sound.cancel_idle (sound : ht.Sound) (dontAssert : Bool) (idle : ht.idOf entry < 1) :
    ht.cancel entry dontAssert = some (ht.setTimerId entry (-1), 0) := by
  have room := sound.room
  unfold idOf at idle
  unfold cancel
  dsimp only
  by_cases negative : (ht.entries entry).timerId < 0
  · rw [if_pos (.inl negative)]
  · have zero : (ht.entries entry).timerId = 0 := by omega
    have found : ht.readTimerId (ht.entries entry).timerId = some (ht.timerIds 0) := by
      unfold readTimerId
      rw [if_pos (by omega), zero]
      rfl
    rw [if_neg (by omega), found]
    simp only [Option.bind_eq_bind, Option.bind_some]
    rw [if_pos sound.unused]

end Cancel

end TiSIP.Pjlib.TimerHeap
