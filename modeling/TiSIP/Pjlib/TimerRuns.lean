import Mathlib.Order.Interval.Finset.Nat
import TiSIP.Lib.Agenda
import TiSIP.Lib.Holders
import TiSIP.Pjlib.TimerSteps

namespace TiSIP.Pjlib

open Pjsip Pjsua Transition BinaryHeap Holders

namespace TimerHeap

section Pending

variable {Entry Lock : Type}

def pending (ht : TimerHeap Entry Lock) (entry : Entry) : Option (Int ×ₗ Int) :=
  if 1 ≤ ht.idOf entry then some (timeKey (ht.value entry)) else none

def locks (ht : TimerHeap Entry Lock) (entry : Entry) : Option Lock := (ht.entries entry).grpLock

theorem pending_eq_some {ht : TimerHeap Entry Lock} {entry : Entry} {time : Int ×ₗ Int} :
    ht.pending entry = some time ↔ 1 ≤ ht.idOf entry ∧ timeKey (ht.value entry) = time := by
  unfold pending
  split
  · rename_i runs
    rw [Option.some_inj]
    exact ⟨fun same => ⟨runs, same⟩, fun both => both.2⟩
  · rename_i idle
    constructor
    · intro impossible
      cases impossible
    · exact fun both => absurd both.1 idle

theorem pending_eq_none {ht : TimerHeap Entry Lock} {entry : Entry} : ht.pending entry = none ↔ ht.idOf entry < 1 := by
  unfold pending
  split
  · rename_i runs
    constructor
    · intro impossible
      cases impossible
    · intro idle
      omega
  · rename_i idle
    constructor
    · intro _
      omega
    · exact fun _ => rfl

variable [DecidableEq Entry] {ht after : TimerHeap Entry Lock} {entry : Entry} {fields : TimerEntry Lock}

theorem pending_update (entries : after.entries = Function.update ht.entries entry fields) :
    after.pending = Function.update ht.pending entry
      (if 1 ≤ fields.timerId then some (timeKey fields.timerValue) else none) := by
  funext other
  unfold pending idOf value
  rw [entries]
  by_cases same : other = entry
  · subst same
    rw [Function.update_self, Function.update_self]
  · rw [Function.update_of_ne same, Function.update_of_ne same]

theorem locks_update (entries : after.entries = Function.update ht.entries entry fields) :
    after.locks = Function.update ht.locks entry fields.grpLock := by
  funext other
  unfold locks
  rw [entries]
  by_cases same : other = entry
  · subst same
    rw [Function.update_self, Function.update_self]
  · rw [Function.update_of_ne same, Function.update_of_ne same]

end Pending

section Requests

variable {Entry Lock : Type} {ht : TimerHeap Entry Lock}

theorem Sound.withRefs (sound : ht.Sound) (refs : Lock → Int) : Sound { ht with refs } := by
  obtain ⟨ids, free, length⟩ := sound.free
  exact ⟨sound.room, sound.seated, sound.running, sound.ordered,
    ⟨ids, ⟨free.start, free.threads, free.nodup, free.inside⟩, length⟩, sound.unused⟩

theorem Sound.setMax (sound : ht.Sound) (count : Nat) : (ht.setMaxTimedOutPerPoll count).Sound := by
  obtain ⟨ids, free, length⟩ := sound.free
  exact ⟨sound.room, sound.seated, sound.running, sound.ordered,
    ⟨ids, ⟨free.start, free.threads, free.nodup, free.inside⟩, length⟩, sound.unused⟩

variable [DecidableEq Lock]

theorem Sound.addRef (sound : ht.Sound) (lock : Option Lock) : (ht.addRef lock).Sound := by
  cases lock with
  | none => exact sound
  | some lock => exact sound.withRefs _

theorem Sound.decRef (sound : ht.Sound) (lock : Option Lock) : (ht.decRef lock).Sound := by
  cases lock with
  | none => exact sound
  | some lock => exact sound.withRefs _

structure Effect (before after : TimerHeap Entry Lock) (pending : Entry → Option (Int ×ₗ Int)) (locks : Entry → Option Lock)
    (refs : Lock → Int) : Prop where
  sound : after.Sound
  pending : after.pending = pending
  locks : after.locks = locks
  refs : after.refs = refs
  limit : after.maxEntriesPerPoll = before.maxEntriesPerPoll

theorem addRef_kept (ht : TimerHeap Entry Lock) (lock : Option Lock) : (ht.addRef lock).pending = ht.pending ∧ (ht.addRef lock).locks = ht.locks ∧
    (ht.addRef lock).maxEntriesPerPoll = ht.maxEntriesPerPoll := by
  cases lock <;> exact ⟨rfl, rfl, rfl⟩

theorem decRef_kept (ht : TimerHeap Entry Lock) (lock : Option Lock) : (ht.decRef lock).pending = ht.pending ∧ (ht.decRef lock).locks = ht.locks ∧
    (ht.decRef lock).maxEntriesPerPoll = ht.maxEntriesPerPoll := by
  cases lock <;> exact ⟨rfl, rfl, rfl⟩

theorem addRef_refs (grpLock : Option Lock) (lock : Lock) :
    (ht.addRef grpLock).refs lock = ht.refs lock + if grpLock = some lock then 1 else 0 := by
  cases grpLock with
  | none => exact (Int.add_zero _).symm
  | some held =>
    unfold addRef
    by_cases same : held = lock
    · subst same
      simp
    · simp [same, Ne.symm same]

theorem decRef_refs (grpLock : Option Lock) (lock : Lock) :
    (ht.decRef grpLock).refs lock = ht.refs lock - if grpLock = some lock then 1 else 0 := by
  cases grpLock with
  | none => exact (Int.sub_zero _).symm
  | some held =>
    unfold decRef
    by_cases same : held = lock
    · subst same
      simp
    · simp [same, Ne.symm same]

variable [DecidableEq Entry] {entry : Entry}

omit [DecidableEq Lock] [DecidableEq Entry] in
theorem isScheduled_eq_false : ht.isScheduled entry = false ↔ ht.pending entry = none := by
  rw [pending_eq_none, isScheduled, decide_eq_false_iff_not, idOf]
  omega

theorem Sound.schedule_idle (sound : ht.Sound) (long : CLong) (now delay : TimeVal) (setId : Option Int)
    (grpLock : Option Lock) (idle : ht.pending entry = none) :
    ∃ after, ht.scheduleLocked long now entry delay setId grpLock = some (after, .ok ()) ∧
      Effect ht after (Function.update ht.pending entry (some (timeKey (timeValAdd long now delay))))
        (Function.update ht.locks entry grpLock) (ht.addRef grpLock).refs := by
  have notRunning := pending_eq_none.mp idle
  have admits : ht.Admits entry := ⟨sound, notRunning⟩
  obtain ⟨taken, id, ran, takenSound, positive, changes, _⟩ := admits.scheduleEntry (timeValAdd long now delay)
  have own : taken.entries entry =
      { ht.entries entry with timerId := id, timerValue := timeValAdd long now delay } := by
    rw [changes.entries, Function.update_self]
  let fields : TimerEntry Lock := { taken.entries entry with id := setId.getD (taken.entries entry).id, grpLock }
  have harmless : taken.Harmless entry fields := .inl ⟨rfl, rfl⟩
  have entries : (taken.setEntry entry fields).entries = Function.update ht.entries entry fields := by
    show Function.update taken.entries entry fields = _
    rw [changes.entries, Function.update_idem]
  obtain ⟨pendingKept, locksKept, limitKept⟩ := addRef_kept (taken.setEntry entry fields) grpLock
  refine ⟨(taken.setEntry entry fields).addRef grpLock, ?_, (takenSound.setEntry harmless).addRef grpLock, ?_, ?_, ?_, ?_⟩
  · unfold scheduleLocked
    rw [ran]
    rfl
  · rw [pendingKept, pending_update entries, show fields.timerId = id from congrArg TimerEntry.timerId own,
      show fields.timerValue = timeValAdd long now delay from congrArg TimerEntry.timerValue own, if_pos positive]
  · rw [locksKept, locks_update entries]
  · cases grpLock with
    | none => exact changes.refs
    | some lock =>
      show Function.update taken.refs lock (taken.refs lock + 1) = Function.update ht.refs lock (ht.refs lock + 1)
      rw [changes.refs]
  · rw [limitKept]
    exact changes.limit

theorem Sound.cancel_pending (sound : ht.Sound) (setId : Option Int) {time : Int ×ₗ Int} (armed : ht.pending entry = some time) :
    ∃ after, ht.cancelTimer entry setId = some (after, 1) ∧
      Effect ht after (Function.update ht.pending entry none) (Function.update ht.locks entry none)
        (ht.decRef (ht.locks entry)).refs := by
  obtain ⟨runs, _⟩ := pending_eq_some.mp armed
  obtain ⟨taken, ran, takenSound, changes, _⟩ := sound.cancel_running setId.isSome runs
  have own : taken.entries entry = { ht.entries entry with timerId := -1 } := by
    rw [changes.entries, Function.update_self]
  let fields : TimerEntry Lock := { taken.entries entry with id := setId.getD (taken.entries entry).id, grpLock := none }
  have harmless : taken.Harmless entry fields := .inl ⟨rfl, rfl⟩
  have entries : (taken.setEntry entry fields).entries = Function.update ht.entries entry fields := by
    show Function.update taken.entries entry fields = _
    rw [changes.entries, Function.update_idem]
  have lock : (taken.entries entry).grpLock = ht.locks entry := by
    rw [own]
    rfl
  obtain ⟨pendingKept, locksKept, limitKept⟩ := decRef_kept (taken.setEntry entry fields) (ht.locks entry)
  refine ⟨(taken.setEntry entry fields).decRef (ht.locks entry), ?_, (takenSound.setEntry harmless).decRef _, ?_, ?_, ?_, ?_⟩
  · unfold cancelTimer
    rw [ran]
    simp only [Option.bind_eq_bind, Option.bind_some]
    rw [lock]
  · have stopped : ¬ 1 ≤ fields.timerId := by
      show ¬ 1 ≤ (taken.entries entry).timerId
      rw [own]
      show ¬ (1 : Int) ≤ -1
      decide
    rw [pendingKept, pending_update entries, if_neg stopped]
  · rw [locksKept, locks_update entries]
  · cases ht.locks entry with
    | none => exact changes.refs
    | some lock =>
      show Function.update taken.refs lock (taken.refs lock - 1) = Function.update ht.refs lock (ht.refs lock - 1)
      rw [changes.refs]
  · rw [limitKept]
    exact changes.limit

theorem Sound.cancel_missed (sound : ht.Sound) (setId : Option Int) (idle : ht.pending entry = none) :
    ∃ after, ht.cancelTimer entry setId = some (after, 0) ∧
      Effect ht after ht.pending (Function.update ht.locks entry none) (ht.decRef (ht.locks entry)).refs := by
  have notRunning := pending_eq_none.mp idle
  let fields : TimerEntry Lock :=
    { ht.entries entry with id := setId.getD (ht.entries entry).id, timerId := -1, grpLock := none }
  have harmless : ht.Harmless entry fields := .inr ⟨show (-1 : Int) < 1 by decide, notRunning⟩
  have twice : ∀ first : TimerEntry Lock, (ht.setEntry entry first).setEntry entry fields = ht.setEntry entry fields := by
    intro first
    unfold TimerHeap.setEntry
    rw [Function.update_idem]
  have entries : (ht.setEntry entry fields).entries = Function.update ht.entries entry fields := rfl
  obtain ⟨pendingKept, locksKept, limitKept⟩ := decRef_kept (ht.setEntry entry fields) (ht.locks entry)
  refine ⟨(ht.setEntry entry fields).decRef (ht.locks entry), ?_, (sound.setEntry harmless).decRef _, ?_, ?_, ?_, ?_⟩
  · unfold cancelTimer
    rw [sound.cancel_idle setId.isSome notRunning]
    simp only [Option.bind_eq_bind, Option.bind_some]
    have own : (ht.setTimerId entry (-1)).entries entry = { ht.entries entry with timerId := -1 } := Function.update_self _ _ _
    rw [own]
    exact congrArg (fun changed => some (TimerHeap.decRef changed (ht.locks entry), (0 : Int))) (twice _)
  · rw [pendingKept, pending_update entries, if_neg (show ¬ (1 : Int) ≤ -1 by decide)]
    exact (congrArg (Function.update ht.pending entry) idle.symm).trans (Function.update_eq_self _ _)
  · rw [locksKept, locks_update entries]
  · cases ht.locks entry <;> rfl
  · rw [limitKept]
    rfl

omit [DecidableEq Lock] in
theorem Sound.pollNext_due (sound : ht.Sound) {now : TimeVal} {count : Nat} (more : count < ht.maxEntriesPerPoll)
    {due : Entry} {time : Int ×ₗ Int} (armed : ht.pending due = some time) (past : time ≤ timeKey now) :
    ∃ first earliest after, ht.pollNext now count = some (after, some (first, ht.locks first)) ∧
      ht.pending first = some earliest ∧ earliest ≤ timeKey now ∧
      (∀ other later, ht.pending other = some later → earliest ≤ later) ∧
      timeKey (after.value first) = earliest ∧
      Effect ht after (Function.update ht.pending first none) (Function.update ht.locks first none) ht.refs := by
  have room := sound.room
  obtain ⟨dueRuns, dueKey⟩ := pending_eq_some.mp armed
  obtain ⟨slot, inside, held⟩ := sound.running due dueRuns
  obtain ⟨first, firstHeld, firstPlaceable, _⟩ := sound.seated 0 (by omega)
  unfold Placeable at firstPlaceable
  have earliest : ∀ other later, ht.pending other = some later → timeKey (ht.value first) ≤ later := by
    intro other later otherArmed
    obtain ⟨runs, key⟩ := pending_eq_some.mp otherArmed
    obtain ⟨otherSlot, otherInside, otherHeld⟩ := sound.running other runs
    rw [← key]
    exact sound.root otherInside firstHeld otherHeld
  have firstDue : timeKey (ht.value first) ≤ timeKey now := (earliest due time armed).trans past
  have removes : ht.Removes 0 first := ⟨sound, by omega, firstHeld⟩
  obtain ⟨taken, ran, takenSound, changes, _⟩ := removes.removeNode
  have own : taken.entries first = { ht.entries first with timerId := -1 } := by
    rw [changes.entries, Function.update_self]
  let fields : TimerEntry Lock := { taken.entries first with grpLock := none }
  have harmless : taken.Harmless first fields := .inl ⟨rfl, rfl⟩
  have entries : (taken.setEntry first fields).entries = Function.update ht.entries first fields := by
    show Function.update taken.entries first fields = _
    rw [changes.entries, Function.update_idem]
  have lock : (taken.entries first).grpLock = ht.locks first := by
    rw [own]
    rfl
  refine ⟨first, timeKey (ht.value first), taken.setEntry first fields, ?_, pending_eq_some.mpr ⟨firstPlaceable.1, rfl⟩,
    firstDue, earliest, ?_, takenSound.setEntry harmless, ?_, ?_, changes.refs, changes.limit⟩
  · unfold pollNext
    rw [if_neg (by omega), readHeap_eq (by omega) firstHeld]
    simp only [Option.bind_eq_bind, Option.bind_some]
    rw [if_pos (by rw [(timeValLte_iff _ _).mpr firstDue, decide_eq_true more]; rfl), ran]
    simp only [Option.bind_some]
    rw [lock]
  · have kept : (taken.setEntry first fields).value first = (taken.entries first).timerValue := by
      unfold value
      rw [entries, Function.update_self]
    rw [kept, own]
    rfl
  · have stopped : ¬ 1 ≤ fields.timerId := by
      show ¬ 1 ≤ (taken.entries first).timerId
      rw [own]
      show ¬ (1 : Int) ≤ -1
      decide
    rw [pending_update entries, if_neg stopped]
  · exact locks_update entries

omit [DecidableEq Lock] in
theorem Sound.pollNext_quiet (sound : ht.Sound) {now : TimeVal} {count : Nat}
    (quiet : count < ht.maxEntriesPerPoll → ∀ entry time, ht.pending entry = some time → timeKey now < time) :
    ht.pollNext now count = some (ht, none) := by
  have room := sound.room
  unfold pollNext
  by_cases empty : ht.curSize = 0
  · rw [if_pos empty]
  · obtain ⟨first, firstHeld, firstPlaceable, _⟩ := sound.seated 0 (by omega)
    unfold Placeable at firstPlaceable
    rw [if_neg empty, readHeap_eq (by omega) firstHeld]
    simp only [Option.bind_eq_bind, Option.bind_some]
    apply if_neg
    rw [Bool.and_eq_true, decide_eq_true_iff]
    rintro ⟨due, more⟩
    have later := quiet more first _ (pending_eq_some.mpr ⟨firstPlaceable.1, rfl⟩)
    exact absurd ((timeValLte_iff _ _).mp due) (not_le.mpr later)

end Requests

end TimerHeap

section System

variable {Entry Lock : Type}

/-- A timer heap with the threads at it: the entries that threads found idle and are about to
    schedule, and the locks whose references pollers give back when the callbacks they run return. -/
structure Timers (Entry Lock : Type) where
  heap : TimerHeap Entry Lock
  tested : List Entry
  owed : List Lock

/-- What the threads of the library do with a timer heap. A scheduling is two steps, since it tests
    the entry before it takes the heap's lock. -/
inductive TimerCall (Entry Lock : Type)
  | test (entry : Entry)
  | schedule (now : TimeVal) (entry : Entry) (delay : TimeVal) (setId : Option Int) (grpLock : Option Lock)
  | cancel (entry : Entry)
  | cancelIfActive (entry : Entry) (idVal : Int)
  | setMaxTimedOutPerPoll (count : Nat)
  | pollRound (now : TimeVal) (count : Nat)
  | callbackDone (lock : Lock)

abbrev TimerEvent (Entry : Type) := Agenda.Event Entry (Int ×ₗ Int)

def scheduled (entry : Entry) (expires : TimeVal) : Except PjError Unit → TimerEvent Entry
  | .ok _ => .armed entry (timeKey expires)
  | .error _ => .refused entry

def cancelled (entry : Entry) (count : Int) : TimerEvent Entry := if count = 0 then .missed entry else .disarmed entry

variable [DecidableEq Lock]

def polled (timers : Timers Entry Lock) (now : TimeVal) (count : Nat) (heap : TimerHeap Entry Lock) :
    Option (Entry × Option Lock) → Timers Entry Lock × TimerEvent Entry
  | none => ({ timers with heap }, if count < timers.heap.maxEntriesPerPoll then .rested (timeKey now) else .paused)
  | some (node, grpLock) =>
    ({ timers with heap, owed := grpLock.toList ++ timers.owed }, .fired node (timeKey now))

variable [DecidableEq Entry]

def Timers.step (long : CLong) (timers : Timers Entry Lock) : TimerCall Entry Lock → Option (Timers Entry Lock × TimerEvent Entry)
  | .test entry =>
    if timers.heap.isScheduled entry then some (timers, .refused entry)
    else some ({ timers with tested := entry :: timers.tested }, .paused)
  | .schedule now entry delay setId grpLock =>
    if entry ∈ timers.tested then do
      let (heap, status) ← timers.heap.scheduleLocked long now entry delay setId grpLock
      some ({ timers with heap, tested := timers.tested.erase entry }, scheduled entry (timeValAdd long now delay) status)
    else some (timers, .paused)
  | .cancel entry => do
    let (heap, count) ← timers.heap.cancelTimer entry none
    some ({ timers with heap }, cancelled entry count)
  | .cancelIfActive entry idVal => do
    let (heap, count) ← timers.heap.cancelTimer entry (some idVal)
    some ({ timers with heap }, cancelled entry count)
  | .setMaxTimedOutPerPoll count => some ({ timers with heap := timers.heap.setMaxTimedOutPerPoll count }, .paused)
  | .pollRound now count => do
    let (heap, taken) ← timers.heap.pollNext now count
    some (polled timers now count heap taken)
  | .callbackDone lock =>
    if lock ∈ timers.owed then
      some ({ timers with heap := timers.heap.decRef (some lock), owed := timers.owed.erase lock }, .paused)
    else some (timers, .paused)

def Apart (timers : Timers Entry Lock) : TimerCall Entry Lock → Prop
  | .test entry => entry ∉ timers.tested
  | _ => True

instance (timers : Timers Entry Lock) : (call : TimerCall Entry Lock) → Decidable (Apart timers call)
  | .test _ => inferInstanceAs (Decidable (_ ∉ _))
  | .schedule .. | .cancel _ | .cancelIfActive .. | .setMaxTimedOutPerPoll _ | .pollRound .. | .callbackDone _ =>
    instDecidableTrue

end System

section Runs

variable {Entry Lock : Type} [DecidableEq Entry] [DecidableEq Lock]

/-- A sound heap whose running entries, and the callbacks under way, account for every reference
    to a group lock beyond the ones it had at first. -/
structure Accounted (base : Lock → Int) (timers : Timers Entry Lock) : Prop where
  sound : timers.heap.Sound
  tested : ∀ entry ∈ timers.tested, timers.heap.pending entry = none
  distinct : timers.tested.Nodup
  running : ∀ entry, timers.heap.pending entry = none → timers.heap.locks entry = none
  counted : ∀ lock, timers.heap.refs lock =
    base lock + (holders timers.heap.locks lock).ncard + timers.owed.count lock

variable {base : Lock → Int} {timers : Timers Entry Lock}

omit [DecidableEq Entry] in
theorem Accounted.finite (accounted : Accounted base timers) (lock : Lock) : (holders timers.heap.locks lock).Finite := by
  have seats : ((fun slot => timers.heap.heap slot) '' Set.Iio timers.heap.curSize).Finite :=
    (Set.finite_Iio _).image _
  apply (seats.preimage (Option.some_injective Entry).injOn).subset
  intro entry held
  have runs : ¬ timers.heap.pending entry = none := by
    intro idle
    have free := accounted.running entry idle
    have lockHeld : timers.heap.locks entry = some lock := held
    rw [free] at lockHeld
    cases lockHeld
  rw [TimerHeap.pending_eq_none] at runs
  obtain ⟨slot, inside, seat⟩ := accounted.sound.running entry (by omega)
  exact ⟨slot, inside, seat⟩

theorem Accounted.scheduled (accounted : Accounted base timers) {heap : TimerHeap Entry Lock} {entry : Entry}
    {time : Int ×ₗ Int} {grpLock : Option Lock} (idle : timers.heap.pending entry = none)
    (effect : TimerHeap.Effect timers.heap heap (Function.update timers.heap.pending entry (some time))
      (Function.update timers.heap.locks entry grpLock) (timers.heap.addRef grpLock).refs) :
    Accounted base { timers with heap, tested := timers.tested.erase entry } := by
  have free := accounted.running entry idle
  refine ⟨effect.sound, ?_, accounted.distinct.erase entry, ?_, ?_⟩
  · intro other member
    obtain ⟨different, was⟩ := (accounted.distinct.mem_erase_iff).mp member
    show heap.pending other = none
    rw [effect.pending, Function.update_of_ne different]
    exact accounted.tested other was
  · intro other
    show heap.pending other = none → heap.locks other = none
    rw [effect.pending, effect.locks]
    by_cases same : other = entry
    · subst same
      rw [Function.update_self]
      intro impossible
      cases impossible
    · rw [Function.update_of_ne same, Function.update_of_ne same]
      exact accounted.running other
  · intro lock
    have taken := card_holders_take free grpLock lock (accounted.finite lock)
    have counted := accounted.counted lock
    show heap.refs lock = base lock + (holders heap.locks lock).ncard + timers.owed.count lock
    rw [effect.refs, effect.locks, TimerHeap.addRef_refs, taken]
    omega

theorem fewer_of_stop {Time : Type*} (pending : Entry → Option Time) (entry : Entry) (other : Entry)
    (idle : pending other = none) : Function.update pending entry none other = none := by
  by_cases same : other = entry
  · subst same
    exact Function.update_self _ _ _
  · rwa [Function.update_of_ne same]

theorem Accounted.stopped (accounted : Accounted base timers) {heap : TimerHeap Entry Lock} {entry : Entry}
    {pending : Entry → Option (Int ×ₗ Int)} {refs : Lock → Int} {owed : List Lock}
    (effect : TimerHeap.Effect timers.heap heap pending (Function.update timers.heap.locks entry none) refs)
    (fewer : ∀ other, timers.heap.pending other = none → pending other = none)
    (others : ∀ other, other ≠ entry → pending other = none → timers.heap.pending other = none)
    (balance : ∀ lock, refs lock - owed.count lock =
      timers.heap.refs lock - timers.owed.count lock - if timers.heap.locks entry = some lock then 1 else 0) :
    Accounted base { timers with heap, owed } := by
  refine ⟨effect.sound, ?_, accounted.distinct, ?_, ?_⟩
  · intro other member
    show heap.pending other = none
    rw [effect.pending]
    exact fewer other (accounted.tested other member)
  · intro other
    show heap.pending other = none → heap.locks other = none
    rw [effect.pending, effect.locks]
    by_cases same : other = entry
    · subst same
      rw [Function.update_self]
      exact fun _ => rfl
    · rw [Function.update_of_ne same]
      exact fun idle => accounted.running other (others other same idle)
  · intro lock
    have released := card_holders_release entry lock (accounted.finite lock)
    have counted := accounted.counted lock
    have balanced := balance lock
    show heap.refs lock = base lock + (holders heap.locks lock).ncard + owed.count lock
    rw [effect.refs, effect.locks]
    omega

theorem step_cancel (accounted : Accounted base timers) (entry : Entry) (setId : Option Int) :
    ∃ heap count, timers.heap.cancelTimer entry setId = some (heap, count) ∧ Accounted base { timers with heap } ∧
      Agenda.Step timers.heap.pending (cancelled entry count) heap.pending := by
  have balance : ∀ lock, (timers.heap.decRef (timers.heap.locks entry)).refs lock - timers.owed.count lock =
      timers.heap.refs lock - timers.owed.count lock - if timers.heap.locks entry = some lock then 1 else 0 := by
    intro lock
    rw [TimerHeap.decRef_refs]
    omega
  cases pending : timers.heap.pending entry with
  | none =>
    obtain ⟨heap, ran, effect⟩ := accounted.sound.cancel_missed setId pending
    refine ⟨heap, 0, ran, accounted.stopped effect (fun _ idle => idle) (fun _ _ idle => idle) balance, ?_⟩
    rw [effect.pending]
    exact .miss pending
  | some time =>
    obtain ⟨heap, ran, effect⟩ := accounted.sound.cancel_pending setId pending
    refine ⟨heap, 1, ran, accounted.stopped effect (fewer_of_stop _ _) ?_ balance, ?_⟩
    · intro other different idle
      rwa [Function.update_of_ne different] at idle
    · rw [effect.pending]
      exact .disarm pending

theorem step_schedule (accounted : Accounted base timers) (long : CLong) (now delay : TimeVal) {entry : Entry}
    (setId : Option Int) (grpLock : Option Lock) (member : entry ∈ timers.tested) :
    ∃ heap, timers.heap.scheduleLocked long now entry delay setId grpLock = some (heap, .ok ()) ∧
      Accounted base { timers with heap, tested := timers.tested.erase entry } ∧
      Agenda.Step timers.heap.pending (.armed entry (timeKey (timeValAdd long now delay))) heap.pending := by
  have idle := accounted.tested entry member
  obtain ⟨heap, ran, effect⟩ := accounted.sound.schedule_idle long now delay setId grpLock idle
  refine ⟨heap, ran, accounted.scheduled idle effect, ?_⟩
  rw [effect.pending]
  exact .arm _ idle

theorem step_poll (accounted : Accounted base timers) (now : TimeVal) (count : Nat) :
    ∃ heap taken, timers.heap.pollNext now count = some (heap, taken) ∧
      Accounted base (polled timers now count heap taken).1 ∧
      Agenda.Step timers.heap.pending (polled timers now count heap taken).2 (polled timers now count heap taken).1.heap.pending := by
  by_cases due : count < timers.heap.maxEntriesPerPoll ∧
      ∃ entry time, timers.heap.pending entry = some time ∧ time ≤ timeKey now
  · obtain ⟨more, entry, time, armed, past⟩ := due
    obtain ⟨first, earliest, heap, ran, firstArmed, firstDue, least, _, effect⟩ := accounted.sound.pollNext_due more armed past
    refine ⟨heap, _, ran, accounted.stopped effect (fewer_of_stop _ _) ?_ ?_, ?_⟩
    · intro other different idle
      rwa [Function.update_of_ne different] at idle
    · intro lock
      rw [List.count_append]
      cases timers.heap.locks first with
      | none => simp
      | some held =>
        by_cases same : held = lock
        · subst same
          simp
          omega
        · simp [same]
    · show Agenda.Step _ _ heap.pending
      rw [effect.pending]
      exact .fire firstArmed firstDue least
  · have quiet : count < timers.heap.maxEntriesPerPoll →
        ∀ entry time, timers.heap.pending entry = some time → timeKey now < time := by
      intro more entry time armed
      apply lt_of_not_ge
      exact fun past => due ⟨more, entry, time, armed, past⟩
    refine ⟨timers.heap, none, accounted.sound.pollNext_quiet quiet, accounted, ?_⟩
    unfold polled
    by_cases more : count < timers.heap.maxEntriesPerPoll
    · rw [if_pos more]
      exact .rest (quiet more)
    · rw [if_neg more]
      exact .pause

theorem step_accounted (accounted : Accounted base timers) (long : CLong) {call : TimerCall Entry Lock}
    (apart : Apart timers call) :
    ∃ after event, timers.step long call = some (after, event) ∧ Accounted base after ∧
      Agenda.Step timers.heap.pending event after.heap.pending := by
  cases call with
  | test entry =>
    unfold Timers.step
    dsimp only
    cases scheduled : timers.heap.isScheduled entry with
    | true =>
      have runs : ¬ timers.heap.pending entry = none := by
        rw [← TimerHeap.isScheduled_eq_false, scheduled]
        decide
      obtain ⟨time, armed⟩ := Option.ne_none_iff_exists'.mp runs
      exact ⟨timers, _, rfl, accounted, .refuse armed⟩
    | false =>
      have idle := TimerHeap.isScheduled_eq_false.mp scheduled
      refine ⟨_, _, rfl, ⟨accounted.sound, ?_, List.nodup_cons.mpr ⟨apart, accounted.distinct⟩, accounted.running,
        accounted.counted⟩, .pause⟩
      intro other member
      rcases List.mem_cons.mp member with rfl | was
      · exact idle
      · exact accounted.tested other was
  | schedule now entry delay setId grpLock =>
    unfold Timers.step
    dsimp only
    by_cases member : entry ∈ timers.tested
    · obtain ⟨heap, ran, facts⟩ := step_schedule accounted long now delay setId grpLock member
      rw [if_pos member, ran]
      exact ⟨_, _, rfl, facts⟩
    · rw [if_neg member]
      exact ⟨timers, .paused, rfl, accounted, .pause⟩
  | cancel entry =>
    obtain ⟨heap, count, ran, facts⟩ := step_cancel accounted entry none
    refine ⟨_, _, ?_, facts⟩
    unfold Timers.step
    dsimp only
    rw [ran]
    rfl
  | cancelIfActive entry idVal =>
    obtain ⟨heap, count, ran, facts⟩ := step_cancel accounted entry (some idVal)
    refine ⟨_, _, ?_, facts⟩
    unfold Timers.step
    dsimp only
    rw [ran]
    rfl
  | setMaxTimedOutPerPoll count =>
    exact ⟨_, _, rfl, ⟨accounted.sound.setMax count, accounted.tested, accounted.distinct, accounted.running,
      accounted.counted⟩, .pause⟩
  | pollRound now count =>
    obtain ⟨heap, taken, ran, facts⟩ := step_poll accounted now count
    refine ⟨_, _, ?_, facts⟩
    unfold Timers.step
    dsimp only
    rw [ran]
    rfl
  | callbackDone lock =>
    unfold Timers.step
    dsimp only
    by_cases owes : lock ∈ timers.owed
    · rw [if_pos owes]
      obtain ⟨pendingKept, locksKept, _⟩ := TimerHeap.decRef_kept timers.heap (some lock)
      refine ⟨_, _, rfl, ⟨accounted.sound.decRef (some lock), ?_, accounted.distinct, ?_, ?_⟩, ?_⟩
      · show ∀ entry ∈ timers.tested, (timers.heap.decRef (some lock)).pending entry = none
        rw [pendingKept]
        exact accounted.tested
      · show ∀ entry, (timers.heap.decRef (some lock)).pending entry = none → _
        rw [pendingKept, locksKept]
        exact accounted.running
      · intro other
        have counted := accounted.counted other
        have there := List.one_le_count_iff.mpr owes
        show (timers.heap.decRef (some lock)).refs other =
          base other + (holders (timers.heap.decRef (some lock)).locks other).ncard + (timers.owed.erase lock).count other
        rw [locksKept, TimerHeap.decRef_refs, List.count_erase]
        by_cases same : lock = other
        · subst same
          simp
          omega
        · simp [same]
          omega
      · show Agenda.Step _ _ (timers.heap.decRef (some lock)).pending
        rw [pendingKept]
        exact .pause
    · rw [if_neg owes]
      exact ⟨timers, .paused, rfl, accounted, .pause⟩

/-- One call and what it did, as a step of threads that keep apart. -/
def TimerStep (long : CLong) (before : Timers Entry Lock) (label : TimerCall Entry Lock × TimerEvent Entry)
    (after : Timers Entry Lock) : Prop :=
  Apart before label.1 ∧ before.step long label.1 = some (after, label.2)

theorem TimerStep.accounted {before after : Timers Entry Lock} {label : TimerCall Entry Lock × TimerEvent Entry} {long : CLong}
    (accounted : Accounted base before) (moved : TimerStep long before label after) :
    Accounted base after ∧ Agenda.Step before.heap.pending label.2 after.heap.pending := by
  obtain ⟨apart, ran⟩ := moved
  obtain ⟨next, event, found, kept, stepped⟩ := step_accounted accounted long apart
  cases ran.symm.trans found
  exact ⟨kept, stepped⟩

/-- Entries as `pj_timer_entry_init` leaves them, or memory that was only cleared. -/
def Idle (entries : Entry → TimerEntry Lock) : Prop := ∀ entry, (entries entry).timerId ≤ 0 ∧ (entries entry).grpLock = none

def startTimers (size : Nat) (entries : Entry → TimerEntry Lock) (refs : Lock → Int) : Timers Entry Lock where
  heap := .create size entries refs
  tested := []
  owed := []

variable {size : Nat} {entries : Entry → TimerEntry Lock} {refs : Lock → Int} {long : CLong}

omit [DecidableEq Entry] [DecidableEq Lock] in
theorem start_idle (idle : Idle entries) (entry : Entry) : (startTimers size entries refs).heap.pending entry = none := by
  rw [TimerHeap.pending_eq_none]
  have low := (idle entry).1
  show (entries entry).timerId < 1
  omega

omit [DecidableEq Entry] in
theorem start_accounted (size : Nat) (refs : Lock → Int) (idle : Idle entries) :
    Accounted refs (startTimers size entries refs) := by
  refine ⟨TimerHeap.create_sound size entries refs fun entry => (idle entry).1,
    fun _ member => absurd member List.not_mem_nil, .nil, fun entry _ => (idle entry).2, ?_⟩
  intro lock
  have nobody : holders (startTimers size entries refs).heap.locks lock = ∅ := by
    rw [Set.eq_empty_iff_forall_notMem]
    intro entry held
    have taken : (entries entry).grpLock = some lock := held
    rw [(idle entry).2] at taken
    cases taken
  show refs lock = refs lock + _ + ([] : List Lock).count lock
  rw [nobody, Set.ncard_empty]
  simp

variable {history : List (TimerCall Entry Lock × TimerEvent Entry)}

theorem run_accounted (idle : Idle entries) (run : Execution (TimerStep long) (startTimers size entries refs) history timers) :
    Accounted refs timers := by
  apply run.invariant
  · exact fun _ _ _ accounted moved => (moved.accounted accounted).1
  · exact start_accounted size refs idle

theorem run_agenda (idle : Idle entries) (run : Execution (TimerStep long) (startTimers size entries refs) history timers) :
    Execution Agenda.Step (fun _ => none) (history.map Prod.snd) timers.heap.pending := by
  induction run with
  | stop =>
    rw [show (startTimers size entries refs).heap.pending = fun _ => none from funext (start_idle idle)]
    exact .stop
  | @next labels before after label earlier moved ih =>
    rw [List.map_append]
    exact ih.next (moved.accounted (run_accounted idle earlier)).2

/-- In every run no call reads or writes out of bounds, meets memory that was not written, fails an
    assertion or loops on. -/
theorem timers_never_fault (idle : Idle entries)
    (run : Execution (TimerStep long) (startTimers size entries refs) history timers) (call : TimerCall Entry Lock) :
    timers.heap.Sound ∧ (timers.step long call).isSome := by
  have accounted := run_accounted idle run
  refine ⟨accounted.sound, ?_⟩
  by_cases apart : Apart timers call
  · obtain ⟨after, event, ran, _⟩ := step_accounted accounted long apart
    exact Option.isSome_iff_exists.mpr ⟨_, ran⟩
  · cases call with
    | test entry =>
      unfold Timers.step
      dsimp only
      split <;> rfl
    | schedule | cancel | cancelIfActive | setMaxTimedOutPerPoll | pollRound | callbackDone =>
      exact absurd trivial apart

/-- A timer fires only for a scheduling of its own, not before its time and not after it was
    cancelled, and before the timers that expire later. -/
theorem timer_fires_when_due (idle : Idle entries) {earlier later : List (TimerCall Entry Lock × TimerEvent Entry)}
    {call : TimerCall Entry Lock} {entry : Entry} {now : Int ×ₗ Int}
    (run : Execution (TimerStep long) (startTimers size entries refs) (earlier ++ (call, .fired entry now) :: later) timers) :
    ∃ past since time request, earlier = past ++ (request, .armed entry time) :: since ∧ time ≤ now ∧
      (∀ label ∈ since, ¬ label.2.Ends entry ∧ ¬ label.2.Arms entry) ∧
      ∃ before, Execution (TimerStep long) (startTimers size entries refs) earlier before ∧
        before.heap.pending entry = some time ∧
        ∀ other deadline, before.heap.pending other = some deadline → time ≤ deadline := by
  obtain ⟨before, front, back⟩ := run.split
  obtain ⟨after, moved, _⟩ := back.first
  obtain ⟨time, armed, due, first⟩ := (moved.accounted (run_accounted idle front)).2.fired
  obtain ⟨past, since, listed, quiet⟩ := Agenda.pending_armed (run_agenda idle front) (fun _ => rfl) armed
  obtain ⟨pastLabels, rest, rfl, rfl, restMapped⟩ := List.map_eq_append_iff.mp listed
  obtain ⟨⟨request, armedEvent⟩, sinceLabels, rfl, same, rfl⟩ := List.map_eq_cons_iff.mp restMapped
  cases same
  refine ⟨pastLabels, sinceLabels, time, request, rfl, due, ?_, before, front, armed, first⟩
  exact fun label member => quiet label.2 (List.mem_map_of_mem member)

/-- Every scheduling ends once, by its timer's firing or by its cancelling, but for the one that is
    pending; and the references to a group lock are those of the pending entries that were scheduled
    with it and of the callbacks under way. -/
theorem timers_accounted (idle : Idle entries)
    (run : Execution (TimerStep long) (startTimers size entries refs) history timers) :
    (∀ entry, (history.countP fun label => label.2.Arms entry) =
      (history.countP fun label => label.2.Ends entry) + (timers.heap.pending entry).toList.length) ∧
    ∀ lock, timers.heap.refs lock = refs lock +
      { entry | (timers.heap.pending entry).isSome ∧ timers.heap.locks entry = some lock }.ncard + timers.owed.count lock := by
  have accounted := run_accounted idle run
  constructor
  · intro entry
    have balance := Agenda.armings_balance (run_agenda idle run) (fun _ => rfl) entry
    rw [List.countP_map, List.countP_map] at balance
    exact balance
  · intro lock
    have same : { entry | (timers.heap.pending entry).isSome ∧ timers.heap.locks entry = some lock } =
        holders timers.heap.locks lock := by
      ext entry
      constructor
      · exact fun both => both.2
      · intro held
        refine ⟨?_, held⟩
        cases pending : timers.heap.pending entry with
        | some time => rfl
        | none =>
          have taken : timers.heap.locks entry = some lock := held
          rw [accounted.running entry pending] at taken
          cases taken
    rw [same]
    exact accounted.counted lock

def freshEntries : Fin 3 → TimerEntry (Fin 1) := fun _ => { id := 0, timerId := -1, timerValue := { sec := 0, msec := 0 }, grpLock := none }

theorem freshEntries_idle : Idle freshEntries := fun _ => ⟨show (-1 : Int) ≤ 0 by decide, rfl⟩

def armFirst : TimerCall (Fin 3) (Fin 1) := .schedule { sec := 10, msec := 0 } 0 { sec := 5, msec := 300 } none (some 0)

theorem first_timer_fires :
    ∃ past since time request,
      [(.test 0, .paused), (armFirst, (.armed 0 (timeKey { sec := 15, msec := 300 }) : TimerEvent (Fin 3)))] =
        past ++ (request, .armed 0 time) :: since ∧ time ≤ timeKey { sec := 16, msec := 0 } ∧
      (∀ label ∈ since, ¬ label.2.Ends 0 ∧ ¬ label.2.Arms 0) ∧
      ∃ before, Execution (TimerStep .lp64) (startTimers 1 freshEntries fun _ => 1)
          [(.test 0, .paused), (armFirst, .armed 0 (timeKey { sec := 15, msec := 300 }))] before ∧
        before.heap.pending 0 = some time ∧ ∀ other deadline, before.heap.pending other = some deadline → time ≤ deadline := by
  have run : ∃ timers, Execution (TimerStep .lp64) (startTimers 1 freshEntries fun _ => 1)
      ([(.test 0, .paused), (armFirst, .armed 0 (timeKey { sec := 15, msec := 300 }))] ++
        (.pollRound { sec := 16, msec := 0 } 0, .fired 0 (timeKey { sec := 16, msec := 0 })) :: []) timers :=
    ⟨_, .cons ⟨List.not_mem_nil, rfl⟩ (.cons ⟨trivial, rfl⟩ (.cons ⟨trivial, rfl⟩ .stop))⟩
  obtain ⟨timers, run⟩ := run
  exact timer_fires_when_due freshEntries_idle run

def busyTimers : List (TimerCall (Fin 3) (Fin 1) × TimerEvent (Fin 3)) :=
  [(.test 0, .paused), (armFirst, .armed 0 (timeKey { sec := 15, msec := 300 })), (.test 0, .refused 0),
    (.setMaxTimedOutPerPoll 10, .paused), (.test 1, .paused),
    (.schedule { sec := 10, msec := 0 } 1 { sec := 7, msec := 0 } none (some 0), .armed 1 (timeKey { sec := 17, msec := 0 })),
    (.pollRound { sec := 16, msec := 0 } 0, .fired 0 (timeKey { sec := 16, msec := 0 })), (.cancel 1, .disarmed 1)]

theorem busyTimers_run :
    ∃ timers, Execution (TimerStep .lp64) (startTimers 1 freshEntries fun _ => 1) busyTimers timers := by
  refine ⟨_, .cons ⟨List.not_mem_nil, rfl⟩ (.cons ⟨trivial, rfl⟩ (.cons ⟨?_, rfl⟩ (.cons ⟨trivial, rfl⟩
    (.cons ⟨List.not_mem_nil, rfl⟩ (.cons ⟨trivial, rfl⟩ (.cons ⟨trivial, rfl⟩ (.cons ⟨trivial, rfl⟩ .stop)))))))⟩
  exact List.not_mem_nil

theorem some_timers_never_fault :
    ∃ timers, Execution (TimerStep .lp64) (startTimers 1 freshEntries fun _ => 1) busyTimers timers ∧
      timers.heap.Sound ∧ (timers.step .lp64 (.callbackDone 0)).isSome := by
  obtain ⟨timers, run⟩ := busyTimers_run
  exact ⟨timers, run, timers_never_fault freshEntries_idle run _⟩

theorem some_timers_accounted :
    ∃ timers, Execution (TimerStep .lp64) (startTimers 1 freshEntries fun _ => 1) busyTimers timers ∧
      (busyTimers.countP fun label => label.2.Arms 0) =
        (busyTimers.countP fun label => label.2.Ends 0) + (timers.heap.pending 0).toList.length ∧
      timers.heap.refs 0 = 1 + { entry | (timers.heap.pending entry).isSome ∧ timers.heap.locks entry = some 0 }.ncard +
        timers.owed.count 0 := by
  obtain ⟨timers, run⟩ := busyTimers_run
  have accounted := timers_accounted freshEntries_idle run
  exact ⟨timers, run, accounted.1 0, accounted.2 0⟩

end Runs

end TiSIP.Pjlib
