import TiSIP.Threads.EntryPoints

namespace TiSIP.Threads

open LockQueue Transition

def Interleaving (labels : List (Label Entry)) (final : State Party) : Prop :=
  Execution (Steps program) idle labels final

/-- An interleaving in which no dispatch with the lock held meets one of the other thread that is
    still to take it. -/
def UncrossedInterleaving (labels : List (Label Entry)) (final : State Party) : Prop :=
  Execution (guarded (Steps program) NoCrossing) idle labels final

theorem dispatch_never_nested {labels : List (Label Entry)} {final : State Party}
    (run : Interleaving labels final) : ¬ NestedDispatch final :=
  (run_formed program_closed run).no_nested_dispatch

theorem UncrossedInterleaving.interleaving {labels : List (Label Entry)} {final : State Party}
    (run : UncrossedInterleaving labels final) : Interleaving labels final := by
  have plain : ∀ before label after, guarded (Steps program) NoCrossing before label after →
      Steps program before label after := fun _ _ _ moved => moved.2
  exact run.mono plain

theorem bridge_deadlock_free {labels : List (Label Entry)} {final : State Party}
    (run : UncrossedInterleaving labels final) : ¬ Deadlocked final ∧ ¬ NestedDispatch final :=
  ⟨run_not_deadlocked program_closed run, (run_formed program_closed run.interleaving).no_nested_dispatch⟩

theorem not_running_of_waiting {s : State Party} (formed : Formed s) {party : Party}
    (waits : (s.thread party).waiting) : s.queue ≠ some party :=
  fun running => formed.no_nested_dispatch ⟨party, running, waits⟩

theorem other_party {left right third : Party} (different : left ≠ right) (third_left : third ≠ left) :
    third = right := by
  cases left <;> cases right <;> cases third <;> simp_all

/-- The condition leaves nothing out: a run with a crossing can go on to the deadlock. -/
theorem crossing_reaches_deadlock {labels : List (Label Entry)} {s after : State Party} {party : Party}
    (run : Interleaving labels s) (moved : step program s (.arrive party) = some after)
    (crosses : ¬ NoCrossing s (.arrive party : Label Entry)) :
    ∃ more final, Interleaving more final ∧ Deadlocked final := by
  have formed : Formed after := run_formed program_closed (run.next moved)
  have finish : ∀ holder runner, holder ≠ runner → HoldsLock after holder → (after.thread holder).waiting →
      WillQuery after runner → ∃ more final, Interleaving more final ∧ Deadlocked final := by
    intro holder runner different holds waits will
    have others : ∀ t, after.queue = some t → t = runner := by
      intro t running
      apply other_party different
      rintro rfl
      exact not_running_of_waiting formed waits running
    obtain ⟨rest, final, onward, dead⟩ := crossing_deadlocks program formed different holds waits will others
    exact ⟨_, final, (run.next moved).trans onward, dead⟩
  cases step_moves moved with
  | @arrive _ rest code outside =>
    have threads : ∀ other, other ≠ party → (s.set party ⟨.enter :: rest, true⟩).thread other = s.thread other :=
      fun other different => Function.update_of_ne different _ _
    have own : (s.set party ⟨.enter :: rest, true⟩).thread party = ⟨.enter :: rest, true⟩ :=
      Function.update_self _ _ _
    simp only [NoCrossing, not_and_or, not_forall, not_not] at crosses
    rcases crosses with ⟨holds, other, different, will⟩ | ⟨free, ahead, other, different, holds, waits⟩
    · refine finish party other (Ne.symm different) holds (by simp [own]) ⟨?_, will.2.1, ?_⟩
      · rcases will.1 with waits | running
        · exact Or.inl (by rw [threads other different]; exact waits)
        · exact Or.inr running
      · rw [threads other different]
        exact will.2.2
    · refine finish other party different holds (by rw [threads other different]; exact waits) ⟨?_, free, ?_⟩
      · exact Or.inl (by simp [own])
      · rw [own, ← code]
        exact ahead

def afterLabels (labels : List (Label Entry)) : Option (State Party) := labels.foldlM (step program) idle

def refreshLabels : List (Label Entry) :=
  [.start .javaScript (.refresh (some [.started])), .acquire .javaScript, .arrive .javaScript]

/-- A response changes a call's state on the worker while JavaScript refreshes a registration. -/
def crossingLabels : List (Label Entry) :=
  [.start .worker (.sessionEvent [.stateChanged false]), .arrive .worker, .run .worker,
    .start .javaScript (.refresh (some [.started])), .acquire .javaScript, .arrive .javaScript]

def afterRefresh : State Party := (afterLabels refreshLabels).get (by rfl)

def afterCrossing : State Party := (afterLabels crossingLabels).get (by rfl)

theorem refresh_interleaving : UncrossedInterleaving refreshLabels afterRefresh := by
  refine .cons ⟨trivial, rfl⟩ (.cons ⟨trivial, rfl⟩ (.single ⟨⟨?_, ?_⟩, rfl⟩))
  · intro _ other different will
    cases other with
    | javaScript => exact different rfl
    | worker => exact absurd will.2.2 (by decide)
  · intro free
    exact absurd (by decide) free

theorem refresh_deadlock_free : ¬ Deadlocked afterRefresh ∧ ¬ NestedDispatch afterRefresh :=
  bridge_deadlock_free refresh_interleaving

theorem crossing_deadlock :
    ¬ ∀ labels final, Interleaving labels final → ¬ Deadlocked final ∧ ¬ NestedDispatch final := by
  intro free
  have run : Interleaving crossingLabels afterCrossing := .of_foldlM (step program) crossingLabels rfl
  refine (free _ _ run).1 ⟨.javaScript, .worker, by decide, ?_, ?_, rfl, ?_⟩
  · decide
  · exact ⟨rfl, by decide⟩
  · exact ⟨rfl, .javaScript, by decide, by decide⟩

end TiSIP.Threads
