import TiSIP.Lib.BinaryHeap
import TiSIP.Pjsip.Regc
import TiSIP.Pjsua.Core

namespace TiSIP.Pjlib

open Pjsip Pjsua

def timeValEq (t1 t2 : TimeVal) : Bool := t1.sec == t2.sec && t1.msec == t2.msec

def timeValGt (t1 t2 : TimeVal) : Bool := t2.sec < t1.sec || (t1.sec == t2.sec && t2.msec < t1.msec)

def timeValGte (t1 t2 : TimeVal) : Bool := timeValGt t1 t2 || timeValEq t1 t2

def timeValLt (t1 t2 : TimeVal) : Bool := !timeValGte t1 t2

def timeValLte (t1 t2 : TimeVal) : Bool := !timeValGt t1 t2

def timeValAdd (long : CLong) (left right : TimeVal) : TimeVal :=
  timeValNormalize { sec := long.wrap (left.sec + right.sec), msec := left.msec + right.msec }

def heapParent (x : Nat) : Nat := if x = 0 then 0 else (x - 1) / 2

def heapLeft (x : Nat) : Nat := x + x + 1

structure TimerEntry (Lock : Type) where
  id : Int
  timerId : Int
  timerValue : TimeVal
  grpLock : Option Lock

/-- `pj_timer_heap_t`, with the entries it points to and the references its entries hold on their
    group locks. What was never written in the heap's array is `none`. -/
structure TimerHeap (Entry Lock : Type) where
  maxSize : Nat
  curSize : Nat
  maxEntriesPerPoll : Nat
  heap : Nat → Option Entry
  timerIds : Nat → Int
  timerIdsFreelist : Int
  entries : Entry → TimerEntry Lock
  refs : Lock → Int

namespace TimerHeap

variable {Entry Lock : Type}

section Arrays

def readHeap (ht : TimerHeap Entry Lock) (slot : Nat) : Option Entry :=
  if slot < ht.maxSize then ht.heap slot else none

def readTimerId (ht : TimerHeap Entry Lock) (id : Int) : Option Int :=
  if 0 ≤ id ∧ id < ht.maxSize then some (ht.timerIds id.toNat) else none

def writeTimerId (ht : TimerHeap Entry Lock) (id value : Int) : Option (TimerHeap Entry Lock) :=
  if 0 ≤ id ∧ id < ht.maxSize then some { ht with timerIds := Function.update ht.timerIds id.toNat value } else none

def value (ht : TimerHeap Entry Lock) (entry : Entry) : TimeVal := (ht.entries entry).timerValue

def copyNode (ht : TimerHeap Entry Lock) (slot : Nat) (moved : Entry) : Option (TimerHeap Entry Lock) :=
  if slot < ht.maxSize then
    { ht with heap := Function.update ht.heap slot (some moved) }.writeTimerId (ht.entries moved).timerId slot
  else none

def popFreelist (ht : TimerHeap Entry Lock) : Option (TimerHeap Entry Lock × Int) := do
  let next ← ht.readTimerId ht.timerIdsFreelist
  some ({ ht with timerIdsFreelist := -next }, ht.timerIdsFreelist)

def pushFreelist (ht : TimerHeap Entry Lock) (oldId : Int) : Option (TimerHeap Entry Lock) := do
  let written ← ht.writeTimerId oldId (-ht.timerIdsFreelist)
  some { written with timerIdsFreelist := oldId }

end Arrays

def smallerChild (ht : TimerHeap Entry Lock) (child : Nat) : Option Nat := do
  let first ← ht.readHeap child
  if child + 1 < ht.curSize then
    let second ← ht.readHeap (child + 1)
    some (if timeValLt (ht.value second) (ht.value first) then child + 1 else child)
  else some child

def reheapDown (moved : Entry) : Nat → TimerHeap Entry Lock → Nat → Nat → Option (TimerHeap Entry Lock)
  | 0, _, _, _ => none
  | fuel + 1, ht, slot, child =>
    if child < ht.curSize then do
      let child ← ht.smallerChild child
      let node ← ht.readHeap child
      if timeValLt (ht.value node) (ht.value moved) then
        let ht ← ht.copyNode slot node
        reheapDown moved fuel ht child (heapLeft child)
      else ht.copyNode slot moved
    else ht.copyNode slot moved

def reheapUp (moved : Entry) : Nat → TimerHeap Entry Lock → Nat → Nat → Option (TimerHeap Entry Lock)
  | 0, _, _, _ => none
  | fuel + 1, ht, slot, parent =>
    if 0 < slot then do
      let above ← ht.readHeap parent
      if timeValLt (ht.value moved) (ht.value above) then
        let ht ← ht.copyNode slot above
        reheapUp moved fuel ht parent (heapParent parent)
      else ht.copyNode slot moved
    else ht.copyNode slot moved

def growHeap (ht : TimerHeap Entry Lock) : TimerHeap Entry Lock :=
  { ht with
    maxSize := ht.maxSize * 2
    heap := fun slot => if slot < ht.maxSize then ht.heap slot else none
    timerIds := fun i => if i < ht.maxSize then ht.timerIds i else -((i : Int) + 1) }

def insertNode (ht : TimerHeap Entry Lock) (newNode : Entry) : Option (TimerHeap Entry Lock) := do
  let ht := if ht.curSize + 2 ≥ ht.maxSize then ht.growHeap else ht
  let ht ← reheapUp newNode (ht.curSize + 1) ht ht.curSize (heapParent ht.curSize)
  some { ht with curSize := ht.curSize + 1 }

section Entries

variable [DecidableEq Entry]

def setEntry (ht : TimerHeap Entry Lock) (entry : Entry) (fields : TimerEntry Lock) : TimerHeap Entry Lock :=
  { ht with entries := Function.update ht.entries entry fields }

def setTimerId (ht : TimerHeap Entry Lock) (entry : Entry) (id : Int) : TimerHeap Entry Lock :=
  ht.setEntry entry { ht.entries entry with timerId := id }

def refill (ht : TimerHeap Entry Lock) (slot : Nat) : Option (TimerHeap Entry Lock) := do
  let moved ← ht.readHeap ht.curSize
  let ht ← ht.copyNode slot moved
  let parent := heapParent slot
  let above ← ht.readHeap parent
  if timeValGte (ht.value moved) (ht.value above) then reheapDown moved (ht.curSize + 1) ht slot (heapLeft slot)
  else reheapUp moved (slot + 1) ht slot parent

def removeNode (ht : TimerHeap Entry Lock) (slot : Nat) : Option (TimerHeap Entry Lock × Entry) := do
  let removed ← ht.readHeap slot
  let ht ← ht.pushFreelist (ht.entries removed).timerId
  -- An empty heap's size would wrap around.
  if ht.curSize = 0 then none
  else
    let ht := { ht with curSize := ht.curSize - 1 }.setTimerId removed (-1)
    if slot < ht.curSize then
      let ht ← ht.refill slot
      some (ht, removed)
    else some (ht, removed)

/-- `schedule_entry`, with whether it returned 0. -/
def scheduleEntry (ht : TimerHeap Entry Lock) (entry : Entry) (futureTime : TimeVal) :
    Option (TimerHeap Entry Lock × Bool) :=
  if ht.curSize < ht.maxSize then do
    let (ht, id) ← ht.popFreelist
    let ht := ht.setEntry entry { ht.entries entry with timerId := id, timerValue := futureTime }
    let ht ← ht.insertNode entry
    some (ht, true)
  else some (ht, false)

/-- `cancel` with `F_DONT_CALL`; without `F_DONT_ASSERT` a mismatch stops the program. -/
def cancel (ht : TimerHeap Entry Lock) (entry : Entry) (dontAssert : Bool) : Option (TimerHeap Entry Lock × Int) :=
  let fields := ht.entries entry
  if fields.timerId < 0 ∨ ht.maxSize < fields.timerId then some (ht.setTimerId entry (-1), 0)
  else do
    let timerNodeSlot ← ht.readTimerId fields.timerId
    if timerNodeSlot < 0 then some (ht.setTimerId entry (-1), 0)
    else
      let node ← ht.readHeap timerNodeSlot.toNat
      if node ≠ entry then
        if dontAssert then some (ht.setTimerId entry (-1), 0) else none
      else
        let (ht, _) ← ht.removeNode timerNodeSlot.toNat
        some (ht, 1)

end Entries

/-- `pj_timer_heap_create`, of a size that does not wrap in `pj_size_t`; the entries come from their
    owners. -/
def create (size : Nat) (entries : Entry → TimerEntry Lock) (refs : Lock → Int) : TimerHeap Entry Lock where
  maxSize := size + 2
  curSize := 0
  maxEntriesPerPoll := 64
  heap := fun _ => none
  timerIds := fun i => -((i : Int) + 1)
  timerIdsFreelist := 1
  entries
  refs

def setMaxTimedOutPerPoll (ht : TimerHeap Entry Lock) (count : Nat) : TimerHeap Entry Lock :=
  { ht with maxEntriesPerPoll := count }

section Locks

variable [DecidableEq Lock]

def addRef (ht : TimerHeap Entry Lock) : Option Lock → TimerHeap Entry Lock
  | none => ht
  | some lock => { ht with refs := Function.update ht.refs lock (ht.refs lock + 1) }

def decRef (ht : TimerHeap Entry Lock) : Option Lock → TimerHeap Entry Lock
  | none => ht
  | some lock => { ht with refs := Function.update ht.refs lock (ht.refs lock - 1) }

end Locks

inductive Request (Entry Lock : Type)
  | schedule (now : TimeVal) (entry : Entry) (delay : TimeVal) (setId : Option Int) (grpLock : Option Lock)
  | cancel (entry : Entry)
  | cancelIfActive (entry : Entry) (idVal : Int)

section Requests

variable [DecidableEq Entry] [DecidableEq Lock]

/-- "Prevent same entry from being scheduled more than once": the part of `schedule_w_grp_lock` before
    it takes the heap's lock. -/
def isScheduled (ht : TimerHeap Entry Lock) (entry : Entry) : Bool := 1 ≤ (ht.entries entry).timerId

/-- The part of `schedule_w_grp_lock` under the lock: `setId` is the identifier it is to set, if any. -/
def scheduleLocked (long : CLong) (ht : TimerHeap Entry Lock) (now : TimeVal) (entry : Entry) (delay : TimeVal)
    (setId : Option Int) (grpLock : Option Lock) : Option (TimerHeap Entry Lock × Except PjError Unit) := do
  let (ht, done) ← ht.scheduleEntry entry (timeValAdd long now delay)
  if done then
    let fields := ht.entries entry
    let ht := ht.setEntry entry { fields with id := setId.getD fields.id, grpLock }
    some (ht.addRef grpLock, .ok ())
  else some (ht, .error (.other (-1)))

def scheduleWGrpLock (long : CLong) (ht : TimerHeap Entry Lock) (now : TimeVal) (entry : Entry) (delay : TimeVal)
    (setId : Option Int) (grpLock : Option Lock) : Option (TimerHeap Entry Lock × Except PjError Unit) :=
  if ht.isScheduled entry then some (ht, .error .einvalidop)
  else ht.scheduleLocked long now entry delay setId grpLock

/-- `cancel_timer`: `setId` is the identifier that `F_SET_ID` sets. -/
def cancelTimer (ht : TimerHeap Entry Lock) (entry : Entry) (setId : Option Int) :
    Option (TimerHeap Entry Lock × Int) := do
  let (ht, count) ← ht.cancel entry setId.isSome
  let fields := ht.entries entry
  let ht := ht.setEntry entry { fields with id := setId.getD fields.id, grpLock := none }
  some (ht.decRef fields.grpLock, count)

/-- One round of the loop of `pj_timer_heap_poll`, up to the callback: the entry that is due, and
    the lock whose reference the poller gives back when the callback has returned. -/
def pollNext (ht : TimerHeap Entry Lock) (now : TimeVal) (count : Nat) :
    Option (TimerHeap Entry Lock × Option (Entry × Option Lock)) :=
  if ht.curSize = 0 then some (ht, none)
  else do
    let first ← ht.readHeap 0
    if timeValLte (ht.value first) now && decide (count < ht.maxEntriesPerPoll) then
      let (ht, node) ← ht.removeNode 0
      let fields := ht.entries node
      some (ht.setEntry node { fields with grpLock := none }, some (node, fields.grpLock))
    else some (ht, none)

def request (long : CLong) (ht : TimerHeap Entry Lock) : Request Entry Lock → Option (TimerHeap Entry Lock)
  | .schedule now entry delay setId grpLock =>
    (ht.scheduleWGrpLock long now entry delay setId grpLock).map Prod.fst
  | .cancel entry => (ht.cancelTimer entry none).map Prod.fst
  | .cancelIfActive entry idVal => (ht.cancelTimer entry (some idVal)).map Prod.fst

/-- The loop of `pj_timer_heap_poll`; it records what it fires and when that was due. `callback` has
    the requests that an entry's callback, and the other threads while it runs, make after what was
    fired before. There are at most `maxEntriesPerPoll` rounds and a last look. -/
def pollLoop (long : CLong) (now : TimeVal) (callback : List (Entry × TimeVal) → Entry → List (Request Entry Lock)) :
    Nat → TimerHeap Entry Lock → List (Entry × TimeVal) → Option (TimerHeap Entry Lock × List (Entry × TimeVal))
  | 0, _, _ => none
  | fuel + 1, ht, fired => do
    match ← ht.pollNext now fired.length with
    | (ht, none) => some (ht, fired)
    | (ht, some (node, grpLock)) =>
      let due := ht.value node
      let ht ← (callback fired node).foldlM (request long) ht
      pollLoop long now callback fuel (ht.decRef grpLock) (fired ++ [(node, due)])

def maxInt32 : Int := 0x7FFFFFFF

def nextDelay (long : CLong) (ht : TimerHeap Entry Lock) (now : TimeVal) : Option TimeVal :=
  if ht.curSize = 0 then some { sec := maxInt32, msec := maxInt32 }
  else do
    let first ← ht.readHeap 0
    let delay := timeValSub long (ht.value first) now
    some (if delay.sec < 0 ∨ delay.msec < 0 then { sec := 0, msec := 0 } else delay)

def poll (long : CLong) (ht : TimerHeap Entry Lock) (now : TimeVal)
    (callback : List (Entry × TimeVal) → Entry → List (Request Entry Lock)) :
    Option (TimerHeap Entry Lock × List (Entry × TimeVal) × TimeVal) :=
  if ht.curSize = 0 then some (ht, [], { sec := maxInt32, msec := maxInt32 })
  else do
    let (ht, fired) ← pollLoop long now callback (ht.maxEntriesPerPoll + 1) ht []
    let delay ← nextDelay long ht now
    some (ht, fired, delay)

end Requests

end TimerHeap

end TiSIP.Pjlib
