import Mathlib.Logic.Function.Basic
import TiSIP.Lib.Transition

/-- Threads that share one recursive lock and one serial queue whose blocks run on the thread
    that hands them in, while it waits. -/
inductive LockQueue.Instr
  | acquire
  | release
  | enter
  | leave
  deriving DecidableEq

namespace LockQueue

structure ThreadState where
  code : List Instr
  waiting : Bool
  deriving DecidableEq

structure State (Thread : Type*) where
  thread : Thread → ThreadState
  lock : Option (Thread × Nat)
  queue : Option Thread

inductive Label {Thread : Type*} (Entry : Thread → Type*)
  | start (t : Thread) (entry : Entry t)
  | acquire (t : Thread)
  | release (t : Thread)
  | arrive (t : Thread)
  | run (t : Thread)
  | leave (t : Thread)

section Programs

def locked (body : List Instr) : List Instr := .acquire :: body ++ [.release]

def dispatched (block : List Instr) : List Instr := .enter :: block ++ [.leave]

/-- Releases match acquisitions, blocks are closed and hold no further dispatch. -/
def WellFormed : Nat → Bool → List Instr → Prop
  | depth, inBlock, [] => depth = 0 ∧ inBlock = false
  | depth, inBlock, .acquire :: rest => WellFormed (depth + 1) inBlock rest
  | 0, _, .release :: _ => False
  | depth + 1, inBlock, .release :: rest => WellFormed depth inBlock rest
  | depth, inBlock, .enter :: rest => inBlock = false ∧ WellFormed depth true rest
  | depth, inBlock, .leave :: rest => inBlock = true ∧ WellFormed depth false rest

def Closed (inBlock : Bool) (code : List Instr) : Prop :=
  ∀ depth rest, WellFormed depth inBlock rest → WellFormed depth inBlock (code ++ rest)

theorem closed_nil (inBlock : Bool) : Closed inBlock [] :=
  fun _ _ formed => formed

theorem Closed.append {inBlock : Bool} {first second : List Instr} (left : Closed inBlock first)
    (right : Closed inBlock second) : Closed inBlock (first ++ second) := by
  intro depth rest formed
  rw [List.append_assoc]
  exact left _ _ (right _ _ formed)

theorem Closed.locked {inBlock : Bool} {body : List Instr} (closed : Closed inBlock body) :
    Closed inBlock (locked body) := by
  intro depth rest formed
  have inner : WellFormed (depth + 1) inBlock (body ++ Instr.release :: rest) := closed _ _ formed
  simpa [LockQueue.locked, WellFormed] using inner

theorem Closed.dispatched {block : List Instr} (closed : Closed true block) : Closed false (dispatched block) := by
  intro depth rest formed
  have inner : WellFormed depth true (block ++ Instr.leave :: rest) := closed _ _ ⟨rfl, formed⟩
  simpa [LockQueue.dispatched, WellFormed] using inner

theorem closed_flatMap {α : Type*} {inBlock : Bool} (items : List α) {code : α → List Instr}
    (closed : ∀ item, Closed inBlock (code item)) : Closed inBlock (items.flatMap code) := by
  induction items with
  | nil => exact closed_nil inBlock
  | cons item items ih =>
    rw [List.flatMap_cons]
    exact (closed item).append ih

theorem Closed.wellFormed {code : List Instr} (closed : Closed false code) : WellFormed 0 false code := by
  have formed := closed 0 [] ⟨rfl, rfl⟩
  rwa [List.append_nil] at formed

def acquiresBeforeLeave : List Instr → Bool
  | [] => false
  | .leave :: _ => false
  | .acquire :: _ => true
  | _ :: rest => acquiresBeforeLeave rest

end Programs

variable {Thread : Type*} [DecidableEq Thread] {Entry : Thread → Type*}

def State.set (s : State Thread) (t : Thread) (next : ThreadState) : State Thread :=
  { s with thread := Function.update s.thread t next }

def State.advance (s : State Thread) (t : Thread) (rest : List Instr) : State Thread :=
  s.set t { code := rest, waiting := false }

def acquired (lock : Option (Thread × Nat)) (t : Thread) : Option (Thread × Nat) :=
  match lock with
  | none => some (t, 0)
  | some (owner, level) => if owner = t then some (t, level + 1) else none

def released (lock : Option (Thread × Nat)) (t : Thread) : Option (Option (Thread × Nat)) :=
  match lock with
  | none => none
  | some (owner, 0) => if owner = t then some none else none
  | some (owner, level + 1) => if owner = t then some (some (t, level)) else none

def step (program : (t : Thread) → Entry t → List Instr) (s : State Thread) : Label Entry → Option (State Thread)
  | .start t entry => if (s.thread t).code = [] then some (s.advance t (program t entry)) else none
  | .acquire t =>
    match (s.thread t).code with
    | .acquire :: rest => (acquired s.lock t).map fun lock => { s.advance t rest with lock := some lock }
    | _ => none
  | .release t =>
    match (s.thread t).code with
    | .release :: rest => (released s.lock t).map fun lock => { s.advance t rest with lock := lock }
    | _ => none
  | .arrive t =>
    match (s.thread t).code with
    | .enter :: rest =>
      if (s.thread t).waiting then none else some (s.set t { code := .enter :: rest, waiting := true })
    | _ => none
  | .run t =>
    match (s.thread t).code with
    | .enter :: rest =>
      if (s.thread t).waiting ∧ s.queue = none then some { s.advance t rest with queue := some t } else none
    | _ => none
  | .leave t =>
    match (s.thread t).code with
    | .leave :: rest => if s.queue = some t then some { s.advance t rest with queue := none } else none
    | _ => none

def lockDepth (lock : Option (Thread × Nat)) (t : Thread) : Nat :=
  match lock with
  | none => 0
  | some (owner, level) => if owner = t then level + 1 else 0

def depth (s : State Thread) (t : Thread) : Nat := lockDepth s.lock t

def HoldsLock (s : State Thread) (t : Thread) : Prop := 0 < depth s t

instance (s : State Thread) (t : Thread) : Decidable (HoldsLock s t) := inferInstanceAs (Decidable (0 < depth s t))

def BlockedOnQueue (s : State Thread) (t : Thread) : Prop := (s.thread t).waiting ∧ s.queue ≠ none

def BlockedOnLock (s : State Thread) (t : Thread) : Prop :=
  (s.thread t).code.head? = some .acquire ∧ ∃ other, other ≠ t ∧ HoldsLock s other

def Deadlocked (s : State Thread) : Prop :=
  ∃ holder runner, holder ≠ runner ∧ HoldsLock s holder ∧ BlockedOnQueue s holder ∧
    s.queue = some runner ∧ BlockedOnLock s runner

def NestedDispatch (s : State Thread) : Prop := ∃ t, s.queue = some t ∧ (s.thread t).waiting

def InDispatch (s : State Thread) (t : Thread) : Prop := (s.thread t).waiting ∨ s.queue = some t

/-- A thread in dispatch without the lock whose block is still to take it. -/
def WillQuery (s : State Thread) (t : Thread) : Prop :=
  InDispatch s t ∧ ¬ HoldsLock s t ∧ acquiresBeforeLeave (s.thread t).code

/-- The condition on an arrival at the queue: no thread that holds the lock meets one there that
    is still to take it, whichever comes first. -/
def NoCrossing (s : State Thread) : Label Entry → Prop
  | .arrive t =>
    (HoldsLock s t → ∀ other, other ≠ t → ¬ WillQuery s other) ∧
      (¬ HoldsLock s t → acquiresBeforeLeave (s.thread t).code →
        ∀ other, other ≠ t → HoldsLock s other → ¬ (s.thread other).waiting)
  | _ => True

structure Formed (s : State Thread) : Prop where
  code : ∀ t, WellFormed (depth s t) (decide (s.queue = some t)) (s.thread t).code
  waiting : ∀ t, (s.thread t).waiting → (s.thread t).code.head? = some .enter

def Separated (s : State Thread) : Prop :=
  ∀ holder runner, holder ≠ runner → HoldsLock s holder → (s.thread holder).waiting → ¬ WillQuery s runner

def idle : State Thread where
  thread _ := { code := [], waiting := false }
  lock := none
  queue := none

theorem holdsLock_unique {s : State Thread} {t other : Thread} (first : HoldsLock s t)
    (second : HoldsLock s other) : t = other := by
  unfold HoldsLock depth lockDepth at first second
  cases held : s.lock with
  | none => simp [held] at first
  | some owner =>
    simp only [held] at first second
    split at first <;> split at second <;> simp_all

@[simp]
theorem advance_same (s : State Thread) (t : Thread) (rest : List Instr) :
    (s.advance t rest).thread t = { code := rest, waiting := false } :=
  Function.update_self _ _ _

theorem advance_other (s : State Thread) {t other : Thread} (rest : List Instr) (different : other ≠ t) :
    (s.advance t rest).thread other = s.thread other :=
  Function.update_of_ne different _ _

inductive Moves (program : (t : Thread) → Entry t → List Instr) (s : State Thread) : Label Entry → State Thread → Prop
  | start {t : Thread} {entry : Entry t} (idle : (s.thread t).code = []) :
      Moves program s (.start t entry) (s.advance t (program t entry))
  | acquire {t : Thread} {rest : List Instr} {lock : Thread × Nat}
      (code : (s.thread t).code = .acquire :: rest) (taken : acquired s.lock t = some lock) :
      Moves program s (.acquire t) { s.advance t rest with lock := some lock }
  | release {t : Thread} {rest : List Instr} {lock : Option (Thread × Nat)}
      (code : (s.thread t).code = .release :: rest) (given : released s.lock t = some lock) :
      Moves program s (.release t) { s.advance t rest with lock := lock }
  | arrive {t : Thread} {rest : List Instr} (code : (s.thread t).code = .enter :: rest)
      (outside : (s.thread t).waiting = false) :
      Moves program s (.arrive t) (s.set t { code := .enter :: rest, waiting := true })
  | run {t : Thread} {rest : List Instr} (code : (s.thread t).code = .enter :: rest)
      (waited : (s.thread t).waiting = true) (free : s.queue = none) :
      Moves program s (.run t) { s.advance t rest with queue := some t }
  | leave {t : Thread} {rest : List Instr} (code : (s.thread t).code = .leave :: rest)
      (running : s.queue = some t) : Moves program s (.leave t) { s.advance t rest with queue := none }

theorem step_moves {program : (t : Thread) → Entry t → List Instr} {s after : State Thread}
    {label : Label Entry} (moved : step program s label = some after) : Moves program s label after := by
  cases label with
  | start t entry =>
    simp only [step, Option.ite_none_right_eq_some, Option.some.injEq] at moved
    obtain ⟨idle, rfl⟩ := moved
    exact .start idle
  | acquire t =>
    simp only [step] at moved
    split at moved
    · rename_i rest code
      obtain ⟨lock, taken, rfl⟩ := Option.map_eq_some_iff.mp moved
      exact .acquire code taken
    · cases moved
  | release t =>
    simp only [step] at moved
    split at moved
    · rename_i rest code
      obtain ⟨lock, given, rfl⟩ := Option.map_eq_some_iff.mp moved
      exact .release code given
    · cases moved
  | arrive t =>
    simp only [step] at moved
    split at moved
    · rename_i rest code
      split at moved
      · cases moved
      · rename_i outside
        cases moved
        exact .arrive code (by simpa using outside)
    · cases moved
  | run t =>
    simp only [step] at moved
    split at moved
    · rename_i rest code
      simp only [Option.ite_none_right_eq_some, Option.some.injEq] at moved
      obtain ⟨⟨waited, free⟩, rfl⟩ := moved
      exact .run code waited free
    · cases moved
  | leave t =>
    simp only [step] at moved
    split at moved
    · rename_i rest code
      simp only [Option.ite_none_right_eq_some, Option.some.injEq] at moved
      obtain ⟨running, rfl⟩ := moved
      exact .leave code running
    · cases moved

theorem acquired_depth {before : Option (Thread × Nat)} {after : Thread × Nat} {t : Thread}
    (taken : acquired before t = some after) :
    lockDepth (some after) t = lockDepth before t + 1 ∧
      ∀ other, other ≠ t → lockDepth before other = 0 ∧ lockDepth (some after) other = 0 := by
  unfold acquired at taken
  split at taken
  · cases taken
    exact ⟨by simp [lockDepth], fun other different => by simp [lockDepth, Ne.symm different]⟩
  · split at taken
    · rename_i owner
      cases taken
      subst owner
      exact ⟨by simp [lockDepth], fun other different => by simp [lockDepth, Ne.symm different]⟩
    · cases taken

theorem released_depth {before after : Option (Thread × Nat)} {t : Thread}
    (given : released before t = some after) :
    lockDepth before t = lockDepth after t + 1 ∧
      ∀ other, other ≠ t → lockDepth before other = 0 ∧ lockDepth after other = 0 := by
  unfold released at given
  split at given
  · cases given
  all_goals
    split at given
    · rename_i owner
      cases given
      subst owner
      exact ⟨by simp [lockDepth], fun other different => by simp [lockDepth, Ne.symm different]⟩
    · cases given

theorem Formed.update {s after : State Thread} (formed : Formed s) (t : Thread)
    (threads : ∀ other, other ≠ t → after.thread other = s.thread other)
    (depths : ∀ other, other ≠ t → depth after other = depth s other)
    (queue : ∀ other, other ≠ t → (after.queue = some other ↔ s.queue = some other))
    (own : WellFormed (depth after t) (decide (after.queue = some t)) (after.thread t).code)
    (waits : (after.thread t).waiting → (after.thread t).code.head? = some .enter) : Formed after := by
  refine ⟨fun other => ?_, fun other => ?_⟩
  · by_cases same : other = t
    · rw [same]
      exact own
    · have before := formed.code other
      simpa only [threads other same, depths other same, queue other same] using before
  · by_cases same : other = t
    · rw [same]
      exact waits
    · rw [threads other same]
      exact formed.waiting other

theorem Formed.own {s : State Thread} (formed : Formed s) {t : Thread} {code : List Instr}
    (here : (s.thread t).code = code) : WellFormed (depth s t) (decide (s.queue = some t)) code :=
  here ▸ formed.code t

theorem Formed.moves {program : (t : Thread) → Entry t → List Instr}
    (programs : ∀ t entry, Closed false (program t entry)) {s after : State Thread} {label : Label Entry}
    (formed : Formed s) (moved : Moves program s label after) : Formed after := by
  cases moved with
  | @start t entry idle =>
    obtain ⟨level, outside⟩ := formed.own idle
    refine formed.update t (fun other => advance_other s _) (fun _ _ => rfl) (fun _ _ => Iff.rfl) ?_ (by simp)
    have body := (programs t entry).wellFormed
    change WellFormed (depth s t) (decide (s.queue = some t)) _
    rwa [level, outside, advance_same]
  | @acquire t rest lock code taken =>
    obtain ⟨deeper, others⟩ := acquired_depth taken
    refine formed.update t (fun other => advance_other s _) ?_ (fun _ _ => Iff.rfl) ?_ (by simp)
    · intro other different
      exact (others other different).2.trans (others other different).1.symm
    · have own := formed.own code
      change WellFormed (lockDepth (some lock) t) (decide (s.queue = some t)) _
      rwa [deeper, advance_same]
  | @release t rest lock code given =>
    obtain ⟨deeper, others⟩ := released_depth given
    refine formed.update t (fun other => advance_other s _) ?_ (fun _ _ => Iff.rfl) ?_ (by simp)
    · intro other different
      exact (others other different).2.trans (others other different).1.symm
    · have own := formed.own code
      rw [depth, deeper] at own
      change WellFormed (lockDepth lock t) (decide (s.queue = some t)) _
      rwa [advance_same]
  | @arrive t rest code outside =>
    have same : ((s.set t { code := .enter :: rest, waiting := true }).thread t) =
        { code := .enter :: rest, waiting := true } := Function.update_self _ _ _
    refine formed.update t (fun other different => Function.update_of_ne different _ _) (fun _ _ => rfl)
      (fun _ _ => Iff.rfl) ?_ (by simp [same])
    rw [same]
    exact formed.own code
  | @run t rest code waited free =>
    refine formed.update t (fun other => advance_other s _) (fun _ _ => rfl) ?_ ?_ (by simp)
    · intro other different
      simp [free, Ne.symm different]
    · obtain ⟨-, body⟩ := formed.own code
      change WellFormed (depth s t) (decide (some t = some t)) _
      simpa using body
  | @leave t rest code running =>
    refine formed.update t (fun other => advance_other s _) (fun _ _ => rfl) ?_ ?_ (by simp)
    · intro other different
      simp [running, Ne.symm different]
    · obtain ⟨-, body⟩ := formed.own code
      change WellFormed (depth s t) (decide ((none : Option Thread) = some t)) _
      simpa using body

theorem WillQuery.before {s after : State Thread} {t runner : Thread} (will : WillQuery after runner)
    (different : runner ≠ t) (threads : ∀ other, other ≠ t → after.thread other = s.thread other)
    (depths : ∀ other, other ≠ t → depth after other = depth s other)
    (queue : after.queue = some runner → s.queue = some runner) : WillQuery s runner := by
  obtain ⟨inside, free, ahead⟩ := will
  have same := threads runner different
  refine ⟨?_, ?_, same ▸ ahead⟩
  · rcases inside with waits | running
    · exact Or.inl (same ▸ waits)
    · exact Or.inr (queue running)
  · rwa [HoldsLock, depths runner different] at free

theorem Separated.moves {program : (t : Thread) → Entry t → List Instr} {s after : State Thread}
    {label : Label Entry} (formed : Formed s) (separated : Separated s) (clear : NoCrossing s label)
    (moved : Moves program s label after) : Separated after := by
  intro holder runner different holds waits will
  cases moved with
  | @start t entry idle =>
    obtain ⟨-, outside⟩ := formed.own idle
    by_cases atHolder : holder = t
    · simp [atHolder] at waits
    by_cases atRunner : runner = t
    · subst atRunner
      have running : s.queue = some runner := by simpa [InDispatch, State.advance, State.set] using will.1
      simp [running] at outside
    · have earlier := will.before atRunner (fun other => advance_other s _) (fun _ _ => rfl) id
      rw [advance_other s _ atHolder] at waits
      exact separated holder runner different holds waits earlier
  | @acquire t rest lock code taken =>
    obtain ⟨-, others⟩ := acquired_depth taken
    by_cases atHolder : holder = t
    · simp [atHolder] at waits
    · have none : depth { s.advance t rest with lock := some lock } holder = 0 := (others holder atHolder).2
      rw [HoldsLock, none] at holds
      omega
  | @release t rest lock code given =>
    obtain ⟨-, others⟩ := released_depth given
    by_cases atHolder : holder = t
    · simp [atHolder] at waits
    · have none : depth { s.advance t rest with lock := lock } holder = 0 := (others holder atHolder).2
      rw [HoldsLock, none] at holds
      omega
  | @arrive t rest code outside =>
    obtain ⟨arrivesHolding, arrivesFree⟩ := clear
    have threads : ∀ other, other ≠ t →
        (s.set t { code := .enter :: rest, waiting := true }).thread other = s.thread other :=
      fun other moved => Function.update_of_ne moved _ _
    by_cases atRunner : runner = t
    · subst atRunner
      have ahead : acquiresBeforeLeave (s.thread runner).code = true := by
        rw [code]
        simpa [State.set] using will.2.2
      rw [threads holder different] at waits
      exact arrivesFree will.2.1 ahead holder different holds waits
    · have earlier := will.before atRunner threads (fun _ _ => rfl) id
      by_cases atHolder : holder = t
      · subst atHolder
        exact arrivesHolding holds runner atRunner earlier
      · rw [threads holder atHolder] at waits
        exact separated holder runner different holds waits earlier
  | @run t rest code waited free =>
    by_cases atHolder : holder = t
    · simp [atHolder] at waits
    rw [advance_other s _ atHolder] at waits
    apply separated holder runner different holds waits
    by_cases atRunner : runner = t
    · subst atRunner
      have ahead : acquiresBeforeLeave (s.thread runner).code = true := by
        rw [code]
        simpa [acquiresBeforeLeave] using will.2.2
      exact ⟨Or.inl waited, will.2.1, ahead⟩
    · apply will.before atRunner (fun other => advance_other s _) (fun _ _ => rfl)
      intro running
      exact absurd (Option.some.inj running).symm atRunner
  | @leave t rest code running =>
    by_cases atHolder : holder = t
    · simp [atHolder] at waits
    rw [advance_other s _ atHolder] at waits
    by_cases atRunner : runner = t
    · subst atRunner
      simp [WillQuery, InDispatch] at will
    · apply separated holder runner different holds waits
      apply will.before atRunner (fun other => advance_other s _) (fun _ _ => rfl)
      intro impossible
      cases impossible

theorem Formed.no_nested_dispatch {s : State Thread} (formed : Formed s) : ¬ NestedDispatch s := by
  intro nested
  obtain ⟨t, running, waits⟩ := nested
  have head := formed.waiting t waits
  have own := formed.code t
  cases code : (s.thread t).code with
  | nil => simp [code] at head
  | cons first rest =>
    simp only [code, List.head?_cons, Option.some.injEq] at head
    rw [code, head] at own
    have outside := own.1
    simp [running] at outside

theorem Separated.not_deadlocked {s : State Thread} (separated : Separated s) : ¬ Deadlocked s := by
  intro deadlocked
  obtain ⟨holder, runner, different, holds, blocked, running, atLock, -⟩ := deadlocked
  refine separated holder runner different holds blocked.1 ⟨Or.inr running, ?_, ?_⟩
  · intro also
    exact different (holdsLock_unique holds also)
  · cases code : (s.thread runner).code with
    | nil => simp [code] at atLock
    | cons first rest =>
      simp only [code, List.head?_cons, Option.some.injEq] at atLock
      rw [atLock]
      rfl

theorem idle_formed : Formed (idle : State Thread) :=
  ⟨fun _ => ⟨rfl, rfl⟩, fun _ waits => by simp [idle] at waits⟩

theorem idle_separated : Separated (idle : State Thread) := by
  intro holder runner different holds
  simp [HoldsLock, depth, lockDepth, idle] at holds

theorem Formed.next_acquires {s : State Thread} (formed : Formed s) {t : Thread} (running : s.queue = some t)
    (free : ¬ HoldsLock s t) (ahead : acquiresBeforeLeave (s.thread t).code) :
    (s.thread t).code.head? = some .acquire := by
  have own := formed.code t
  have level : depth s t = 0 := by simpa [HoldsLock] using free
  simp only [level, running, decide_true] at own
  cases code : (s.thread t).code with
  | nil => simp [code, acquiresBeforeLeave] at ahead
  | cons first rest =>
    rw [code] at own ahead
    cases first with
    | acquire => rfl
    | release => exact own.elim
    | enter => exact absurd own.1 (by decide)
    | leave => simp [acquiresBeforeLeave] at ahead

theorem Formed.deadlocked {s : State Thread} (formed : Formed s) {holder runner : Thread}
    (different : holder ≠ runner) (holds : HoldsLock s holder) (waits : (s.thread holder).waiting)
    (running : s.queue = some runner) (will : WillQuery s runner) : Deadlocked s := by
  have blocked : BlockedOnQueue s holder := ⟨waits, by simp [running]⟩
  have next := formed.next_acquires running will.2.1 will.2.2
  exact ⟨holder, runner, different, holds, blocked, running, next, holder, different, holds⟩

section Runs

variable {program : (t : Thread) → Entry t → List Instr}

def Steps (program : (t : Thread) → Entry t → List Instr) (s : State Thread) (label : Label Entry)
    (after : State Thread) : Prop :=
  step program s label = some after

theorem run_formed (programs : ∀ t entry, Closed false (program t entry)) {labels : List (Label Entry)}
    {final : State Thread} (run : Transition.Execution (Steps program) idle labels final) : Formed final :=
  run.invariant (fun _ _ _ formed moved => formed.moves programs (step_moves moved)) idle_formed

theorem crossing_deadlocks (program : (t : Thread) → Entry t → List Instr) {s : State Thread} (formed : Formed s)
    {holder runner : Thread} (different : holder ≠ runner) (holds : HoldsLock s holder)
    (waits : (s.thread holder).waiting) (will : WillQuery s runner)
    (others : ∀ t, s.queue = some t → t = runner) :
    ∃ labels final, Transition.Execution (Steps program) s labels final ∧ Deadlocked final := by
  cases queue : s.queue with
  | some t =>
    have running : s.queue = some runner := by rw [queue, others t queue]
    exact ⟨[], s, .stop, formed.deadlocked different holds waits running will⟩
  | none =>
    have waiting : (s.thread runner).waiting = true := by simpa [InDispatch, queue] using will.1
    have head := formed.waiting runner waiting
    obtain ⟨rest, code⟩ : ∃ rest, (s.thread runner).code = .enter :: rest := by
      cases code : (s.thread runner).code with
      | nil => simp [code] at head
      | cons first rest =>
        simp only [code, List.head?_cons, Option.some.injEq] at head
        exact ⟨rest, by rw [head]⟩
    have own : WellFormed (depth s runner) (decide (s.queue = some runner)) (.enter :: rest) := formed.own code
    have moved : step program s (.run runner) = some { s.advance runner rest with queue := some runner } := by
      simp [step, code, waiting, queue]
    have after : Formed { s.advance runner rest with queue := some runner } := by
      refine formed.update runner (fun other => advance_other s _) (fun _ _ => rfl) ?_ ?_ (by simp)
      · intro other apart
        simp [queue, Ne.symm apart]
      · have body := own.2
        change WellFormed (depth s runner) (decide (some runner = some runner)) _
        simpa using body
    refine ⟨_, _, .single moved, after.deadlocked different holds ?_ rfl ⟨Or.inr rfl, will.2.1, ?_⟩⟩
    · simpa [advance_other s rest different] using waits
    · simpa [code, acquiresBeforeLeave] using will.2.2

/-- Along a run in which no two dispatches cross, the lock and the queue never wait for each
    other. -/
theorem run_not_deadlocked (programs : ∀ t entry, Closed false (program t entry)) {labels : List (Label Entry)}
    {final : State Thread}
    (run : Transition.Execution (Transition.guarded (Steps program) NoCrossing) idle labels final) :
    ¬ Deadlocked final := by
  have preserved : ∀ before label after, Formed before ∧ Separated before →
      Transition.guarded (Steps program) NoCrossing before label after → Formed after ∧ Separated after := by
    intro before label after held moved
    have move := step_moves moved.2
    exact ⟨held.1.moves programs move, held.2.moves held.1 moved.1 move⟩
  exact (run.invariant preserved ⟨idle_formed, idle_separated⟩).2.not_deadlocked

end Runs

end LockQueue
