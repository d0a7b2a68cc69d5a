import TiSIP.Pjlib.TimerRuns

namespace TiSIP.Pjlib.TimerHeap

open Pjsip BinaryHeap

variable {Entry Lock : Type} [DecidableEq Entry] [DecidableEq Lock] {ht : TimerHeap Entry Lock} {long : CLong}
  {now : TimeVal}

def Request.expires (long : CLong) : Request Entry Lock → Option (Int ×ₗ Int)
  | .schedule now _ delay _ _ => some (timeKey (timeValAdd long now delay))
  | .cancel _ | .cancelIfActive _ _ => none

structure Served (before after : TimerHeap Entry Lock) (asked : Int ×ₗ Int → Prop) : Prop where
  sound : after.Sound
  limit : after.maxEntriesPerPoll = before.maxEntriesPerPoll
  times : ∀ entry time, after.pending entry = some time → before.pending entry = some time ∨ asked time

theorem Sound.cancelTimer_served (sound : ht.Sound) (entry : Entry) (setId : Option Int) (asked : Int ×ₗ Int → Prop) :
    ∃ after count, ht.cancelTimer entry setId = some (after, count) ∧ Served ht after asked := by
  cases pending : ht.pending entry with
  | none =>
    obtain ⟨after, ran, effect⟩ := sound.cancel_missed setId pending
    refine ⟨after, 0, ran, effect.sound, effect.limit, ?_⟩
    intro other time armed
    rw [effect.pending] at armed
    exact .inl armed
  | some time =>
    obtain ⟨after, ran, effect⟩ := sound.cancel_pending setId pending
    refine ⟨after, 1, ran, effect.sound, effect.limit, ?_⟩
    intro other time armed
    rw [effect.pending, Function.update_apply] at armed
    split at armed
    · cases armed
    · exact .inl armed

theorem Sound.request_served (sound : ht.Sound) (long : CLong) (request : Request Entry Lock) :
    ∃ after, ht.request long request = some after ∧ Served ht after fun time => request.expires long = some time := by
  cases request with
  | schedule clock entry delay setId grpLock =>
    unfold TimerHeap.request
    dsimp only
    cases pending : ht.pending entry with
    | none =>
      obtain ⟨after, ran, effect⟩ := sound.schedule_idle long clock delay setId grpLock pending
      have idle : ¬ ht.isScheduled entry = true := by
        rw [Bool.not_eq_true, isScheduled_eq_false, pending]
      unfold scheduleWGrpLock
      rw [if_neg idle, ran]
      refine ⟨after, rfl, effect.sound, effect.limit, ?_⟩
      intro other time armed
      rw [effect.pending, Function.update_apply] at armed
      split at armed
      · exact .inr armed
      · exact .inl armed
    | some time =>
      have runs : ht.isScheduled entry = true := by
        rw [← Bool.not_eq_false, isScheduled_eq_false, pending]
        exact Option.some_ne_none time
      unfold scheduleWGrpLock
      rw [if_pos runs]
      exact ⟨ht, rfl, sound, rfl, fun _ _ armed => .inl armed⟩
  | cancel entry =>
    obtain ⟨after, count, ran, served⟩ := sound.cancelTimer_served entry none
      fun time => (Request.cancel entry : Request Entry Lock).expires long = some time
    unfold TimerHeap.request
    dsimp only
    rw [ran]
    exact ⟨after, rfl, served⟩
  | cancelIfActive entry idVal =>
    obtain ⟨after, count, ran, served⟩ := sound.cancelTimer_served entry (some idVal)
      fun time => (Request.cancelIfActive entry idVal : Request Entry Lock).expires long = some time
    unfold TimerHeap.request
    dsimp only
    rw [ran]
    exact ⟨after, rfl, served⟩

theorem Sound.requests_served (sound : ht.Sound) (long : CLong) (requests : List (Request Entry Lock)) :
    ∃ after, requests.foldlM (TimerHeap.request long) ht = some after ∧
      Served ht after fun time => ∃ request ∈ requests, request.expires long = some time := by
  induction requests generalizing ht with
  | nil => exact ⟨ht, rfl, sound, rfl, fun _ _ armed => .inl armed⟩
  | cons request rest ih =>
    obtain ⟨middle, ran, served⟩ := sound.request_served long request
    obtain ⟨after, others, rests⟩ := ih served.sound
    refine ⟨after, ?_, rests.sound, rests.limit.trans served.limit, ?_⟩
    · rw [List.foldlM_cons, ran]
      exact others
    · intro entry time armed
      rcases rests.times entry time armed with old | ⟨other, member, asked⟩
      · rcases served.times entry time old with older | asked
        · exact .inl older
        · exact .inr ⟨request, List.mem_cons_self, asked⟩
      · exact .inr ⟨other, List.mem_cons_of_mem _ member, asked⟩

/-- What a poll fired so far: in the order of their times, none of which is to come, and none of
    which is later than what is still pending. -/
structure Firing (ht : TimerHeap Entry Lock) (now : TimeVal) (fired : List (Entry × TimeVal)) : Prop where
  sound : ht.Sound
  few : fired.length ≤ ht.maxEntriesPerPoll
  ordered : (fired.map fun each => timeKey each.2).Pairwise (· ≤ ·)
  past : ∀ each ∈ fired, timeKey each.2 ≤ timeKey now
  before : ∀ each ∈ fired, ∀ entry time, ht.pending entry = some time → timeKey each.2 ≤ time

def AsksLater (long : CLong) (now : TimeVal) (callback : List (Entry × TimeVal) → Entry → List (Request Entry Lock)) :
    Prop :=
  ∀ fired entry, ∀ request ∈ callback fired entry, ∀ time, request.expires long = some time → timeKey now ≤ time

theorem pollLoop_fires {callback : List (Entry × TimeVal) → Entry → List (Request Entry Lock)} (later : AsksLater long now callback) (fuel : Nat)
    (fired : List (Entry × TimeVal)) (enough : ht.maxEntriesPerPoll < fired.length + fuel) (firing : Firing ht now fired) :
    ∃ after all, pollLoop long now callback fuel ht fired = some (after, all) ∧ Firing after now all ∧
      after.maxEntriesPerPoll = ht.maxEntriesPerPoll ∧
      (all.length < ht.maxEntriesPerPoll → ∀ entry time, after.pending entry = some time → timeKey now < time) := by
  induction fuel generalizing ht fired with
  | zero =>
    have few := firing.few
    omega
  | succ fuel ih =>
    unfold pollLoop
    by_cases due : fired.length < ht.maxEntriesPerPoll ∧ ∃ entry time, ht.pending entry = some time ∧ time ≤ timeKey now
    · obtain ⟨more, entry, time, armed, past⟩ := due
      obtain ⟨first, earliest, taken, ran, firstArmed, firstDue, least, value, effect⟩ :=
        firing.sound.pollNext_due more armed past
      obtain ⟨asked, requested, served⟩ := effect.sound.requests_served long (callback fired first)
      obtain ⟨pendingKept, _, limitKept⟩ := decRef_kept asked (ht.locks first)
      have times : ∀ entry time, (asked.decRef (ht.locks first)).pending entry = some time →
          earliest ≤ time ∧ ((∃ other, ht.pending other = some time) ∨ timeKey now ≤ time) := by
        intro entry time armed
        rw [pendingKept] at armed
        rcases served.times entry time armed with old | ⟨request, member, expires⟩
        · rw [effect.pending, Function.update_apply] at old
          split at old
          · cases old
          · exact ⟨least entry time old, .inl ⟨entry, old⟩⟩
        · have asks := later fired first request member time expires
          exact ⟨firstDue.trans asks, .inr asks⟩
      have limit : (asked.decRef (ht.locks first)).maxEntriesPerPoll = ht.maxEntriesPerPoll :=
        limitKept.trans (served.limit.trans effect.limit)
      have next : Firing (asked.decRef (ht.locks first)) now (fired ++ [(first, taken.value first)]) := by
        refine ⟨served.sound.decRef _, ?_, ?_, ?_, ?_⟩
        · rw [List.length_append, limit]
          exact more
        · rw [List.map_append, List.pairwise_append]
          refine ⟨firing.ordered, List.pairwise_singleton _ _, ?_⟩
          intro early earlyMember late lateMember
          obtain ⟨each, member, rfl⟩ := List.mem_map.mp earlyMember
          rw [List.mem_singleton.mp lateMember]
          show timeKey each.2 ≤ timeKey (taken.value first)
          rw [value]
          exact firing.before each member first earliest firstArmed
        · intro each member
          rcases List.mem_append.mp member with old | new
          · exact firing.past each old
          · rw [List.mem_singleton.mp new, value]
            exact firstDue
        · intro each member entry time armed
          obtain ⟨after, origin⟩ := times entry time armed
          rcases List.mem_append.mp member with old | new
          · rcases origin with ⟨other, was⟩ | asks
            · exact firing.before each old other time was
            · exact (firing.past each old).trans asks
          · rw [List.mem_singleton.mp new, value]
            exact after
      have enoughNext : (asked.decRef (ht.locks first)).maxEntriesPerPoll <
          (fired ++ [(first, taken.value first)]).length + fuel := by
        rw [limit, List.length_append, List.length_singleton]
        omega
      obtain ⟨after, all, rest, result, same, quiet⟩ := ih _ enoughNext next
      rw [ran]
      simp only [Option.bind_eq_bind, Option.bind_some]
      rw [requested]
      rw [limit] at same quiet
      exact ⟨after, all, rest, result, same, quiet⟩
    · have quiet : fired.length < ht.maxEntriesPerPoll →
          ∀ entry time, ht.pending entry = some time → timeKey now < time := by
        intro more entry time armed
        apply lt_of_not_ge
        exact fun past => due ⟨more, entry, time, armed, past⟩
      rw [firing.sound.pollNext_quiet quiet]
      exact ⟨ht, fired, rfl, firing, rfl, quiet⟩

def msec (t : TimeVal) : Int := t.sec * 1000 + t.msec

theorem msec_normalize (t : TimeVal) : msec (timeValNormalize t) = msec t := by
  have division := Int.mul_tdiv_add_tmod t.msec 1000
  unfold msec timeValNormalize
  dsimp only
  split
  · dsimp only
    omega
  · split <;> dsimp only <;> omega

theorem negative_normalize (t : TimeVal) :
    ((timeValNormalize t).sec < 0 ∨ (timeValNormalize t).msec < 0) ↔ msec t < 0 := by
  have division := Int.mul_tdiv_add_tmod t.msec 1000
  have low := Int.lt_tmod_of_pos t.msec (by decide : (0 : Int) < 1000)
  have high := Int.tmod_lt_of_pos t.msec (by decide : (0 : Int) < 1000)
  unfold msec timeValNormalize
  dsimp only
  split
  · dsimp only
    omega
  · split <;> dsimp only <;> omega

def DelayTo (long : CLong) (ht : TimerHeap Entry Lock) (now delay : TimeVal) : Prop :=
  (∀ entry, ht.pending entry = none) ∧ delay = { sec := maxInt32, msec := maxInt32 } ∨
    ∃ first, ht.pending first = some (timeKey (ht.value first)) ∧
      (∀ other time, ht.pending other = some time → timeKey (ht.value first) ≤ time) ∧
      (long.wrap ((ht.value first).sec - now.sec) = (ht.value first).sec - now.sec →
        msec delay = max 0 (msec (ht.value first) - msec now))

omit [DecidableEq Entry] [DecidableEq Lock] in
theorem Sound.empty_iff (sound : ht.Sound) : ht.curSize = 0 ↔ ∀ entry, ht.pending entry = none := by
  constructor
  · intro empty entry
    rw [pending_eq_none]
    by_contra runs
    obtain ⟨slot, inside, _⟩ := sound.running entry (by omega)
    omega
  · intro none
    by_contra some
    obtain ⟨first, _, placeable, _⟩ := sound.seated 0 (by omega)
    have idle := pending_eq_none.mp (none first)
    unfold Placeable at placeable
    omega

omit [DecidableEq Entry] [DecidableEq Lock] in
theorem Sound.nextDelay_exact (sound : ht.Sound) (long : CLong) (now : TimeVal) :
    ∃ delay, nextDelay long ht now = some delay ∧ DelayTo long ht now delay := by
  have room := sound.room
  unfold nextDelay
  by_cases empty : ht.curSize = 0
  · rw [if_pos empty]
    exact ⟨_, rfl, .inl ⟨sound.empty_iff.mp empty, rfl⟩⟩
  · obtain ⟨first, held, placeable, _⟩ := sound.seated 0 (by omega)
    unfold Placeable at placeable
    rw [if_neg empty, readHeap_eq (by omega) held]
    refine ⟨_, rfl, .inr ⟨first, pending_eq_some.mpr ⟨placeable.1, rfl⟩, ?_, ?_⟩⟩
    · intro other time armed
      obtain ⟨runs, key⟩ := pending_eq_some.mp armed
      obtain ⟨slot, inside, seat⟩ := sound.running other runs
      rw [← key]
      exact sound.root inside held seat
    · intro fits
      have total : msec (timeValSub long (ht.value first) now) = msec (ht.value first) - msec now := by
        unfold timeValSub
        rw [msec_normalize]
        unfold msec
        dsimp only
        rw [fits]
        omega
      have negative : ((timeValSub long (ht.value first) now).sec < 0 ∨ (timeValSub long (ht.value first) now).msec < 0) ↔
          msec (timeValSub long (ht.value first) now) < 0 := by
        unfold timeValSub
        rw [msec_normalize]
        exact negative_normalize _
      split
      · rename_i below
        have less := negative.mp below
        rw [total] at less
        show (0 : Int) * 1000 + 0 = _
        omega
      · rename_i above
        have more := mt negative.mpr above
        rw [total] at more
        omega

/-- In every reachable state a poll whose callbacks ask for nothing earlier than its own time fires in
    the order of expiry, nothing early and at most its limit; below the limit it leaves nothing due,
    and its delay is the time to the next expiry. -/
theorem poll_fires_in_order {size : Nat} {entries : Entry → TimerEntry Lock} {refs : Lock → Int} {timers : Timers Entry Lock}
    {history : List (TimerCall Entry Lock × TimerEvent Entry)} (idle : Idle entries)
    (run : Transition.Execution (TimerStep long) (startTimers size entries refs) history timers)
    {callback : List (Entry × TimeVal) → Entry → List (Request Entry Lock)} (later : AsksLater long now callback) :
    ∃ after fired delay, poll long timers.heap now callback = some (after, fired, delay) ∧ after.Sound ∧
      fired.length ≤ timers.heap.maxEntriesPerPoll ∧ (fired.map fun each => timeKey each.2).Pairwise (· ≤ ·) ∧
      (∀ each ∈ fired, timeKey each.2 ≤ timeKey now) ∧
      (fired.length < timers.heap.maxEntriesPerPoll → ∀ entry time, after.pending entry = some time → timeKey now < time) ∧
      DelayTo long after now delay := by
  have sound := (run_accounted idle run).sound
  unfold poll
  by_cases empty : timers.heap.curSize = 0
  · have none := sound.empty_iff.mp empty
    rw [if_pos empty]
    refine ⟨timers.heap, [], _, rfl, sound, Nat.zero_le _, .nil, ?_, ?_, .inl ⟨none, rfl⟩⟩
    · exact fun each member => absurd member List.not_mem_nil
    · intro _ entry time armed
      rw [none] at armed
      cases armed
  · have firing : Firing timers.heap now [] :=
      ⟨sound, Nat.zero_le _, .nil, fun each member => absurd member List.not_mem_nil,
        fun each member => absurd member List.not_mem_nil⟩
    obtain ⟨after, all, ran, result, limit, quiet⟩ := pollLoop_fires later (timers.heap.maxEntriesPerPoll + 1) []
      (by rw [List.length_nil]; omega) firing
    obtain ⟨delay, delayed, exact⟩ := result.sound.nextDelay_exact long now
    rw [if_neg empty, ran]
    simp only [Option.bind_eq_bind, Option.bind_some]
    rw [delayed]
    have few := result.few
    rw [limit] at few
    exact ⟨after, all, delay, rfl, result.sound, few, result.ordered, result.past, quiet, exact⟩

def keepAlive : List (Fin 3 × TimeVal) → Fin 3 → List (Request (Fin 3) (Fin 1)) :=
  fun _ entry => [.schedule { sec := 16, msec := 0 } entry { sec := 15, msec := 0 } none none]

theorem keep_alive_fires_in_order :
    ∃ timers : Timers (Fin 3) (Fin 1), Transition.Execution (TimerStep .lp64) (startTimers 1 freshEntries fun _ => 1)
        [(.test 0, .paused), (armFirst, .armed 0 (timeKey { sec := 15, msec := 300 }))] timers ∧
      ∃ after fired delay, poll .lp64 timers.heap { sec := 16, msec := 0 } keepAlive = some (after, fired, delay) ∧
        fired = [(0, { sec := 15, msec := 300 })] ∧ DelayTo .lp64 after { sec := 16, msec := 0 } delay := by
  have run : ∃ timers, Transition.Execution (TimerStep .lp64) (startTimers 1 freshEntries fun _ => 1)
      [(.test 0, .paused), (armFirst, .armed 0 (timeKey { sec := 15, msec := 300 }))] timers ∧
      (poll .lp64 timers.heap { sec := 16, msec := 0 } keepAlive).map (fun result => result.2.1) =
        some [(0, { sec := 15, msec := 300 })] :=
    ⟨_, .cons ⟨List.not_mem_nil, rfl⟩ (.cons ⟨trivial, rfl⟩ .stop), rfl⟩
  obtain ⟨timers, run, firing⟩ := run
  have later : AsksLater .lp64 { sec := 16, msec := 0 } keepAlive := by
    intro fired entry request member time expires
    rw [List.mem_singleton.mp member] at expires
    cases expires
    decide
  obtain ⟨after, fired, delay, ran, _, _, _, _, _, exact⟩ := poll_fires_in_order freshEntries_idle run later
  rw [ran] at firing
  exact ⟨timers, run, after, fired, delay, ran, Option.some.inj firing, exact⟩

end TiSIP.Pjlib.TimerHeap
