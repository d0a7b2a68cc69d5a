import TiSIP.Lib.FreeList
import TiSIP.Pjlib.TimerLoops

namespace TiSIP.Pjlib.TimerHeap

open Pjsip BinaryHeap FreeList

section Sound

variable {Entry Lock : Type}

def nextFree (ht : TimerHeap Entry Lock) (id : Nat) : Nat := (-ht.timerIds id).toNat

/-- The identifiers on the free list, which ends behind the last identifier there is. -/
structure FreeIds (ht : TimerHeap Entry Lock) (ids : List Nat) : Prop where
  start : 0 ≤ ht.timerIdsFreelist
  threads : Threads ht.nextFree ht.maxSize ht.timerIdsFreelist.toNat ids
  nodup : ids.Nodup
  inside : ∀ id ∈ ids, 1 ≤ id ∧ id < ht.maxSize ∧ ht.timerIds id < 0

structure Sound (ht : TimerHeap Entry Lock) : Prop where
  room : ht.curSize + 1 < ht.maxSize
  seated : ∀ slot, slot < ht.curSize → ∃ entry, ht.heap slot = some entry ∧ ht.Placeable entry ∧
    ht.timerIds (ht.idOf entry).toNat = slot
  running : ∀ entry, 1 ≤ ht.idOf entry → ∃ slot, slot < ht.curSize ∧ ht.heap slot = some entry
  ordered : Ordered ht.curSize (ht.keys ht.heap)
  free : ∃ ids, ht.FreeIds ids ∧ ids.length + ht.curSize + 1 = ht.maxSize
  unused : ht.timerIds 0 < 0

theorem create_sound (size : Nat) (entries : Entry → TimerEntry Lock) (refs : Lock → Int)
    (idle : ∀ entry, (entries entry).timerId ≤ 0) : (create size entries refs).Sound where
  room := by
    show 0 + 1 < size + 2
    omega
  seated := fun slot inside => absurd inside (Nat.not_lt_zero slot)
  running := by
    intro entry running
    have notRunning : (create size entries refs).idOf entry ≤ 0 := idle entry
    omega
  ordered := fun slot _ inside => absurd inside (Nat.not_lt_zero slot)
  free := by
    refine ⟨List.range' 1 (size + 1), ⟨Int.one_nonneg, ?_, List.nodup_range', ?_⟩, ?_⟩
    · have row : Threads (create size entries refs).nextFree _ _ _ := threads_row id 1 (size + 1) fun i _ _ => by
        unfold nextFree create
        dsimp only [id]
        omega
      rw [List.map_id] at row
      show Threads _ (size + 2) 1 _
      rwa [show size + 2 = id (1 + (size + 1)) by dsimp only [id]; omega]
    · intro id member
      rw [List.mem_range'_1] at member
      show 1 ≤ id ∧ id < size + 2 ∧ -((id : Int) + 1) < 0
      omega
    · rw [List.length_range']
      show size + 1 + 0 + 1 = size + 2
      omega
  unused := by
    show -(((0 : Nat) : Int) + 1) < 0
    omega

variable {ht : TimerHeap Entry Lock}

theorem Sound.alone (sound : ht.Sound) {first second : Nat} {entry : Entry} (firstInside : first < ht.curSize)
    (secondInside : second < ht.curSize) (firstHeld : ht.heap first = some entry) (secondHeld : ht.heap second = some entry) :
    first = second := by
  obtain ⟨left, leftHeld, _, leftLocated⟩ := sound.seated first firstInside
  obtain ⟨right, rightHeld, _, rightLocated⟩ := sound.seated second secondInside
  rw [firstHeld] at leftHeld
  rw [secondHeld] at rightHeld
  cases leftHeld
  cases rightHeld
  rw [leftLocated] at rightLocated
  omega

theorem Sound.node (sound : ht.Sound) {slot : Nat} {entry : Entry} (inside : slot < ht.curSize)
    (held : ht.heap slot = some entry) : ht.Placeable entry ∧ ht.timerIds (ht.idOf entry).toNat = slot := by
  obtain ⟨same, sameHeld, facts⟩ := sound.seated slot inside
  rw [held] at sameHeld
  cases sameHeld
  exact facts

theorem Sound.root (sound : ht.Sound) {slot : Nat} {first entry : Entry} (inside : slot < ht.curSize)
    (firstHeld : ht.heap 0 = some first) (held : ht.heap slot = some entry) :
    timeKey (ht.value first) ≤ timeKey (ht.value entry) := by
  have below := sound.ordered.root slot inside
  rw [keys_some firstHeld, keys_some held] at below
  exact WithBot.coe_le_coe.mp below

theorem Arranged.sound {after : TimerHeap Entry Lock} {items : Nat → Option Entry} {size : Nat}
    (arranged : Arranged ht items size after) (nodes : ∀ slot, slot < size → ∃ entry, items slot = some entry ∧ ht.Placeable entry)
    (room : size + 1 < ht.maxSize) (running : ∀ entry, 1 ≤ ht.idOf entry → ∃ slot, slot < size ∧ items slot = some entry)
    (ids : List Nat) (free : ht.FreeIds ids) (length : ids.length + size + 1 = ht.maxSize)
    (apart : ∀ id, id ∈ ids → ¬ ht.Uses items size id) (unused : ht.timerIds 0 < 0) :
    Sound { after with curSize := size } := by
  obtain ⟨order, bounds, permuted⟩ := arranged.permuted
  have kept := arranged.kept
  have sameIds : ∀ entry, idOf { after with curSize := size } entry = ht.idOf entry := by
    intro entry
    rw [kept]
    rfl
  have sameMax : after.maxSize = ht.maxSize := by rw [kept]
  have sameStart : after.timerIdsFreelist = ht.timerIdsFreelist := by rw [kept]
  constructor
  · show size + 1 < after.maxSize
    rw [sameMax]
    exact room
  · intro slot inside
    have orderInside := (bounds slot).mpr inside
    obtain ⟨entry, held, placeable⟩ := nodes _ orderInside
    have afterHeld : after.heap slot = some entry := (permuted slot inside).trans held
    have located := arranged.located slot entry inside afterHeld
    refine ⟨entry, afterHeld, ?_, ?_⟩
    · unfold Placeable at placeable ⊢
      rw [sameIds]
      show 1 ≤ ht.idOf entry ∧ ht.idOf entry < after.maxSize
      rw [sameMax]
      exact placeable
    · rw [sameIds]
      exact located
  · intro entry runs
    rw [sameIds] at runs
    obtain ⟨slot, inside, held⟩ := running entry runs
    have orderInside : order.symm slot < size := by
      rw [← bounds, Equiv.apply_symm_apply]
      exact inside
    refine ⟨order.symm slot, orderInside, (permuted _ orderInside).trans ?_⟩
    rw [Equiv.apply_symm_apply]
    exact held
  · have sameKeys : keys { after with curSize := size } after.heap = ht.keys after.heap := by
      funext slot
      unfold keys value
      rw [kept]
    show Ordered size (keys { after with curSize := size } after.heap)
    rw [sameKeys]
    exact arranged.ordered
  · have sameLinks : ∀ id ∈ ids, after.timerIds id = ht.timerIds id := fun id member => arranged.others id (apart id member)
    refine ⟨ids, ⟨?_, ?_, free.nodup, ?_⟩, ?_⟩
    · show 0 ≤ after.timerIdsFreelist
      rw [sameStart]
      exact free.start
    · show Threads (nextFree { after with curSize := size }) after.maxSize after.timerIdsFreelist.toNat ids
      rw [sameMax, sameStart]
      apply free.threads.congr
      intro id member
      exact congrArg (fun link => (-link).toNat) (sameLinks id member)
    · intro id member
      show 1 ≤ id ∧ id < after.maxSize ∧ after.timerIds id < 0
      rw [sameMax, sameLinks id member]
      exact free.inside id member
    · show ids.length + size + 1 = after.maxSize
      rw [sameMax]
      exact length
  · have notUsed : ¬ ht.Uses items size 0 := by
      rintro ⟨slot, entry, inside, held, zero⟩
      obtain ⟨same, sameHeld, placeable⟩ := nodes slot inside
      rw [held] at sameHeld
      cases sameHeld
      unfold Placeable at placeable
      omega
    show after.timerIds 0 < 0
    rw [arranged.others 0 notUsed]
    exact unused

theorem FreeIds.positive {ids : List Nat} (free : ht.FreeIds ids) (room : 1 ≤ ht.maxSize) : 1 ≤ ht.timerIdsFreelist := by
  have start := free.start
  have first : 1 ≤ ht.timerIdsFreelist.toNat := by
    have threads := free.threads
    cases ids with
    | nil =>
      have atEnd : ht.timerIdsFreelist.toNat = ht.maxSize := threads
      omega
    | cons id rest =>
      have atHead : ht.timerIdsFreelist.toNat = id := threads.1
      have inside := free.inside id List.mem_cons_self
      omega
  omega

def origin (ht : TimerHeap Entry Lock) (slot index : Nat) : Nat := if index = slot then ht.curSize - 1 else index

theorem origin_inside {slot index : Nat} (inside : slot < ht.curSize) (bound : index < ht.curSize - 1) :
    ht.origin slot index < ht.curSize ∧ ht.origin slot index ≠ slot := by
  unfold origin
  split <;> omega

theorem origin_onto {slot index : Nat} (bound : index < ht.curSize) (other : index ≠ slot) (inside : slot < ht.curSize) :
    ∃ now, now < ht.curSize - 1 ∧ ht.origin slot now = index := by
  by_cases last : index = ht.curSize - 1
  · refine ⟨slot, by omega, ?_⟩
    unfold origin
    rw [if_pos rfl, last]
  · refine ⟨index, by omega, ?_⟩
    unfold origin
    rw [if_neg other]

theorem pushFreelist_eq {removed : Entry} (placeable : ht.Placeable removed) :
    ht.pushFreelist (ht.entries removed).timerId = some { ht with
      timerIds := Function.update ht.timerIds (ht.idOf removed).toNat (-ht.timerIdsFreelist)
      timerIdsFreelist := ht.idOf removed } := by
  unfold Placeable idOf at placeable
  unfold pushFreelist writeTimerId
  rw [if_pos ⟨by omega, placeable.2⟩]
  rfl

end Sound

section Removal

variable {Entry Lock : Type} [DecidableEq Entry] {ht : TimerHeap Entry Lock} {slot : Nat} {removed : Entry}

def detached (ht : TimerHeap Entry Lock) (removed : Entry) : TimerHeap Entry Lock :=
  { ht with
    curSize := ht.curSize - 1
    timerIds := Function.update ht.timerIds (ht.idOf removed).toNat (-ht.timerIdsFreelist)
    timerIdsFreelist := ht.idOf removed
    entries := Function.update ht.entries removed { ht.entries removed with timerId := -1 } }

theorem idOf_detached_removed : (ht.detached removed).idOf removed = -1 := by
  unfold idOf detached
  dsimp only
  rw [Function.update_self]

theorem idOf_detached {entry : Entry} (other : entry ≠ removed) : (ht.detached removed).idOf entry = ht.idOf entry := by
  unfold idOf detached
  dsimp only
  rw [Function.update_of_ne other]

theorem keys_detached (items : Nat → Option Entry) : (ht.detached removed).keys items = ht.keys items := by
  funext index
  unfold keys
  congr 1
  funext entry
  unfold value detached
  dsimp only
  by_cases same : entry = removed
  · rw [same, Function.update_self]
  · rw [Function.update_of_ne same]

theorem FreeIds.detached {ids : List Nat} (free : ht.FreeIds ids) (room : 1 ≤ ht.maxSize) (placeable : ht.Placeable removed)
    (used : 0 ≤ ht.timerIds (ht.idOf removed).toNat) :
    (ht.detached removed).FreeIds ((ht.idOf removed).toNat :: ids) := by
  have positive := free.positive room
  unfold Placeable at placeable
  have fresh : (ht.idOf removed).toNat ∉ ids := by
    intro member
    have negative := (free.inside _ member).2.2
    omega
  have links : (ht.detached removed).nextFree =
      Function.update ht.nextFree (ht.idOf removed).toNat ht.timerIdsFreelist.toNat := by
    funext id
    unfold nextFree TimerHeap.detached
    dsimp only
    by_cases same : id = (ht.idOf removed).toNat
    · rw [same, Function.update_self, Function.update_self, Int.neg_neg]
    · rw [Function.update_of_ne same, Function.update_of_ne same]
  constructor
  · show 0 ≤ ht.idOf removed
    omega
  · rw [links]
    exact free.threads.push fresh
  · exact List.nodup_cons.mpr ⟨fresh, free.nodup⟩
  · intro id member
    show 1 ≤ id ∧ id < ht.maxSize ∧ Function.update ht.timerIds (ht.idOf removed).toNat (-ht.timerIdsFreelist) id < 0
    rcases List.mem_cons.mp member with rfl | old
    · rw [Function.update_self]
      omega
    · have other : id ≠ (ht.idOf removed).toNat := by
        rintro rfl
        exact fresh old
      rw [Function.update_of_ne other]
      exact free.inside id old

structure Removes (ht : TimerHeap Entry Lock) (slot : Nat) (removed : Entry) : Prop where
  sound : ht.Sound
  inside : slot < ht.curSize
  held : ht.heap slot = some removed

theorem Removes.other (removes : ht.Removes slot removed) {index : Nat} {entry : Entry} (inside : index < ht.curSize)
    (other : index ≠ slot) (held : ht.heap index = some entry) :
    (ht.detached removed).idOf entry = ht.idOf entry ∧ ht.Placeable entry ∧ ht.timerIds (ht.idOf entry).toNat = index ∧
      (ht.idOf entry).toNat ≠ (ht.idOf removed).toNat := by
  obtain ⟨placeable, located⟩ := removes.sound.node inside held
  obtain ⟨_, removedLocated⟩ := removes.sound.node removes.inside removes.held
  have different : entry ≠ removed := by
    rintro rfl
    exact other (removes.sound.alone inside removes.inside held removes.held)
  refine ⟨idOf_detached different, placeable, located, ?_⟩
  intro same
  rw [same, removedLocated] at located
  omega

structure Rest (ht : TimerHeap Entry Lock) (slot : Nat) (removed : Entry) (base : TimerHeap Entry Lock)
    (items : Nat → Option Entry) : Prop where
  kept : base = { ht.detached removed with heap := base.heap, timerIds := base.timerIds }
  items : ∀ index, index < ht.curSize - 1 → items index = ht.heap (ht.origin slot index)
  others : ∀ id, (∀ index entry, index < ht.curSize → index ≠ slot → ht.heap index = some entry →
    (ht.idOf entry).toNat ≠ id) → base.timerIds id = (ht.detached removed).timerIds id

theorem Rest.idOf {base : TimerHeap Entry Lock} {items : Nat → Option Entry} (rest : ht.Rest slot removed base items)
    (entry : Entry) : base.idOf entry = (ht.detached removed).idOf entry := by
  rw [rest.kept]
  rfl

theorem Removes.node (removes : ht.Removes slot removed) {base : TimerHeap Entry Lock} {items : Nat → Option Entry}
    (rest : ht.Rest slot removed base items) {index : Nat} (bound : index < ht.curSize - 1) :
    ∃ entry, items index = some entry ∧ base.idOf entry = ht.idOf entry ∧ ht.Placeable entry ∧
      ht.timerIds (ht.idOf entry).toNat = ht.origin slot index ∧ (ht.idOf entry).toNat ≠ (ht.idOf removed).toNat := by
  obtain ⟨inside, other⟩ := origin_inside removes.inside bound
  obtain ⟨entry, held, _⟩ := removes.sound.seated _ inside
  obtain ⟨sameId, placeable, located, apart⟩ := removes.other inside other held
  exact ⟨entry, (rest.items index bound).trans held, (rest.idOf entry).trans sameId, placeable, located, apart⟩

theorem Removes.arranged (removes : ht.Removes slot removed) {base after : TimerHeap Entry Lock}
    {items : Nat → Option Entry} (rest : ht.Rest slot removed base items)
    (arranged : Arranged base items (ht.curSize - 1) after) : Sound { after with curSize := ht.curSize - 1 } := by
  have room := removes.sound.room
  have slotInside := removes.inside
  obtain ⟨placeable, located⟩ := removes.sound.node removes.inside removes.held
  obtain ⟨ids, free, length⟩ := removes.sound.free
  have detached := free.detached (by omega) placeable (by omega)
  have sameMax : base.maxSize = ht.maxSize := by
    rw [rest.kept]
    rfl
  have apart : ∀ id, id ∈ (ht.idOf removed).toNat :: ids → ∀ index entry, index < ht.curSize → index ≠ slot →
      ht.heap index = some entry → (ht.idOf entry).toNat ≠ id := by
    intro id member index entry inside other held same
    obtain ⟨_, _, entryLocated, different⟩ := removes.other inside other held
    rcases List.mem_cons.mp member with rfl | old
    · exact different same
    · have negative := (free.inside id old).2.2
      rw [same] at entryLocated
      omega
  have links : ∀ id ∈ (ht.idOf removed).toNat :: ids, base.timerIds id = (ht.detached removed).timerIds id :=
    fun id member => rest.others id (apart id member)
  have zero : ∀ index entry, index < ht.curSize → index ≠ slot → ht.heap index = some entry →
      (ht.idOf entry).toNat ≠ 0 := by
    intro index entry inside other held
    have entryPlaceable := (removes.other inside other held).2.1
    unfold Placeable at entryPlaceable
    omega
  apply arranged.sound _ _ _ ((ht.idOf removed).toNat :: ids)
  · constructor
    · rw [rest.kept]
      exact detached.start
    · have threads : Threads base.nextFree _ _ _ := detached.threads.congr fun id member =>
        congrArg (fun link => (-link).toNat) (links id member)
      rw [rest.kept]
      rw [rest.kept] at threads
      exact threads
    · exact detached.nodup
    · intro id member
      rw [links id member, sameMax]
      exact detached.inside id member
  · rw [List.length_cons, sameMax]
    omega
  · rintro id member ⟨index, entry, bound, held, same⟩
    obtain ⟨inside, other⟩ := origin_inside removes.inside bound
    have before : ht.heap (ht.origin slot index) = some entry := (rest.items index bound).symm.trans held
    rw [rest.idOf, (removes.other inside other before).1] at same
    exact apart id member _ entry inside other before same
  · rw [rest.others 0 zero]
    have notRemoved : 0 ≠ (ht.idOf removed).toNat := by
      unfold Placeable at placeable
      omega
    have old : (ht.detached removed).timerIds 0 = ht.timerIds 0 := Function.update_of_ne notRemoved _ _
    rw [old]
    exact removes.sound.unused
  · intro index bound
    obtain ⟨entry, held, sameId, entryPlaceable, _⟩ := removes.node rest bound
    refine ⟨entry, held, ?_⟩
    unfold Placeable at entryPlaceable ⊢
    rw [sameId, sameMax]
    exact entryPlaceable
  · rw [sameMax]
    omega
  · intro entry runs
    rw [rest.idOf] at runs
    have different : entry ≠ removed := by
      rintro rfl
      rw [idOf_detached_removed] at runs
      omega
    rw [idOf_detached different] at runs
    obtain ⟨index, inside, held⟩ := removes.sound.running entry runs
    have other : index ≠ slot := by
      rintro rfl
      exact different (Option.some.inj (held.symm.trans removes.held))
    obtain ⟨now, bound, came⟩ := origin_onto inside other removes.inside
    exact ⟨now, bound, (rest.items now bound).trans (came ▸ held)⟩

theorem Removes.refill (removes : ht.Removes slot removed) (notLast : slot < ht.curSize - 1) :
    ∃ (after base : TimerHeap Entry Lock) (items : Nat → Option Entry), (ht.detached removed).refill slot = some after ∧
      ht.Rest slot removed base items ∧ Arranged base items (ht.curSize - 1) after := by
  have room := removes.sound.room
  obtain ⟨moved, held, _⟩ := removes.sound.seated (ht.curSize - 1) (by omega)
  obtain ⟨sameId, placeable, _, _⟩ := removes.other (by omega : ht.curSize - 1 < ht.curSize) (by omega) held
  have detachedHeap : (ht.detached removed).heap = ht.heap := rfl
  have detachedSize : (ht.detached removed).curSize = ht.curSize - 1 := rfl
  have detachedMax : (ht.detached removed).maxSize = ht.maxSize := rfl
  have movedPlaceable : (ht.detached removed).Placeable moved := by
    unfold Placeable at placeable ⊢
    rw [sameId]
    exact placeable
  have again : ((ht.detached removed).copied slot moved).filled slot moved = (ht.detached removed).filled slot moved :=
    Function.update_idem _ _ _
  have rest : ht.Rest slot removed ((ht.detached removed).copied slot moved) ((ht.detached removed).filled slot moved) := by
    refine ⟨rfl, ?_, ?_⟩
    · intro index bound
      unfold origin
      split
      · rename_i same
        rw [same, filled_hole, held]
      · rename_i other
        rw [filled_other _ _ other]
        rfl
    · intro id free
      apply Function.update_of_ne
      rintro rfl
      exact free (ht.curSize - 1) moved (by omega) (by omega) held (congrArg Int.toNat sameId.symm)
  have aloft : ((ht.detached removed).copied slot moved).Aloft (ht.curSize - 1) slot moved := by
    refine ⟨notLast, show ht.curSize - 1 ≤ ht.maxSize by omega, ?_, movedPlaceable⟩
    intro index bound other
    obtain ⟨entry, entryHeld, _⟩ := removes.sound.seated index (by omega)
    obtain ⟨entryId, entryPlaceable, entryLocated, entryApart⟩ := removes.other (by omega : index < ht.curSize) other entryHeld
    obtain ⟨_, movedLocated⟩ := removes.sound.node (by omega : ht.curSize - 1 < ht.curSize) held
    have different : (ht.idOf entry).toNat ≠ (ht.idOf moved).toNat := by
      intro same
      rw [same, movedLocated] at entryLocated
      omega
    have stays : ((ht.detached removed).copied slot moved).timerIds (ht.idOf entry).toNat =
        ht.timerIds (ht.idOf entry).toNat := by
      unfold copied
      dsimp only
      rw [sameId, Function.update_of_ne different]
      exact Function.update_of_ne entryApart _ _
    have copiedId : ((ht.detached removed).copied slot moved).idOf entry = ht.idOf entry := entryId
    have copiedMoved : ((ht.detached removed).copied slot moved).idOf moved = ht.idOf moved := sameId
    refine ⟨entry, ?_, ?_, ?_, ?_⟩
    · exact (Function.update_of_ne other _ _).trans entryHeld
    · unfold Placeable at entryPlaceable ⊢
      rw [copiedId]
      exact entryPlaceable
    · rw [copiedId, stays]
      exact entryLocated
    · rw [copiedId, copiedMoved]
      intro same
      exact different (congrArg Int.toNat same)
  have sameKeys : ∀ index, index ≠ slot → ((ht.detached removed).copied slot moved).keys
      (((ht.detached removed).copied slot moved).filled slot moved) index = ht.keys ht.heap index := by
    intro index other
    rw [again]
    show (ht.detached removed).keys ((ht.detached removed).filled slot moved) index = _
    rw [keys_detached]
    unfold keys
    rw [filled_other _ _ other]
    rfl
  have ordered : Ordered (ht.curSize - 1) (ht.keys ht.heap) := removes.sound.ordered.smaller (Nat.sub_le _ _)
  have parentInside : parent slot < ht.maxSize := by
    unfold parent
    omega
  obtain ⟨above, aboveHeld⟩ : ∃ above, ((ht.detached removed).copied slot moved).heap (parent slot) = some above := by
    by_cases inner : 0 < slot
    · have lower := parent_lt inner
      obtain ⟨above, aboveHeld, _⟩ := removes.sound.seated (parent slot) (by omega)
      exact ⟨above, (Function.update_of_ne (by omega) _ _).trans aboveHeld⟩
    · have root : parent slot = slot := by
        unfold parent
        omega
      rw [root]
      exact ⟨moved, Function.update_self _ _ _⟩
  have aboveKey : ((ht.detached removed).copied slot moved).keys ((ht.detached removed).copied slot moved).heap
      (parent slot) = _ := keys_some aboveHeld
  have aboveRead : ((ht.detached removed).copied slot moved).readHeap (parent slot) = some above :=
    readHeap_eq (show parent slot < ht.maxSize from parentInside) aboveHeld
  have heapFilled : ((ht.detached removed).copied slot moved).filled slot moved =
      ((ht.detached removed).copied slot moved).heap := again
  unfold TimerHeap.refill
  rw [readHeap_eq (by rw [detachedMax, detachedSize]; omega) (by rw [detachedHeap, detachedSize]; exact held)]
  simp only [Option.bind_eq_bind, Option.bind_some]
  rw [copyNode_eq (by rw [detachedMax]; omega) movedPlaceable]
  simp only [Option.bind_some, heapParent_eq]
  rw [aboveRead]
  simp only [Option.bind_some]
  by_cases late : timeValGte (((ht.detached removed).copied slot moved).value moved)
      (((ht.detached removed).copied slot moved).value above) = true
  · rw [if_pos late]
    have sinking := ordered.sinking (((ht.detached removed).copied slot moved).keys
        (((ht.detached removed).copied slot moved).filled slot moved)) (fun index _ other => sameKeys index other) notLast
      fun _ => by
        rw [keys_hole, heapFilled, aboveKey]
        exact WithBot.coe_le_coe.mpr ((timeValGte_iff _ _).mp late)
    obtain ⟨after, ran, arranged⟩ := reheapDown_arranges moved (ht.curSize - 1 + 1)
      ((ht.detached removed).copied slot moved) slot (show ht.curSize - 1 < slot + (ht.curSize - 1 + 1) by omega) aloft sinking
    rw [again] at arranged
    exact ⟨after, _, _, ran, rest, arranged⟩
  · rw [if_neg late]
    have early : timeKey (((ht.detached removed).copied slot moved).value moved) <
        timeKey (((ht.detached removed).copied slot moved).value above) :=
      not_le.mp fun later => late ((timeValGte_iff _ _).mpr later)
    have inner : 0 < slot := by
      apply Nat.pos_of_ne_zero
      intro root
      have same : some moved = some above := by
        have placed : ((ht.detached removed).copied slot moved).heap slot = some moved := Function.update_self _ _ _
        rw [← aboveHeld, ← placed, root]
        rfl
      cases same
      exact lt_irrefl _ early
    have rising := ordered.rising (((ht.detached removed).copied slot moved).keys
        (((ht.detached removed).copied slot moved).filled slot moved)) (fun index _ other => sameKeys index other) notLast
      inner (by
        rw [keys_hole, heapFilled, aboveKey]
        exact WithBot.coe_le_coe.mpr early.le)
    obtain ⟨after, ran, arranged⟩ := reheapUp_arranges moved (slot + 1)
      ((ht.detached removed).copied slot moved) slot (Nat.lt_succ_self slot) aloft rising
    rw [heapParent_eq] at ran
    rw [again] at arranged
    exact ⟨after, _, _, ran, rest, arranged⟩

end Removal

end TiSIP.Pjlib.TimerHeap
