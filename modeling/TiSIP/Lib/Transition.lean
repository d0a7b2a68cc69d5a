import Mathlib.Data.List.Basic
import Mathlib.Data.List.Infix

namespace Transition

variable {State Label : Type*}

/-- Finite executions of a step relation, read from the oldest step to the newest. -/
inductive Execution (step : State → Label → State → Prop) (start : State) : List Label → State → Prop
  | stop : Execution step start [] start
  | next {labels : List Label} {before after : State} {label : Label} :
      Execution step start labels before → step before label after →
        Execution step start (labels ++ [label]) after

def guarded (step : State → Label → State → Prop) (condition : State → Label → Prop) :
    State → Label → State → Prop :=
  fun before label after => condition before label ∧ step before label after

theorem Execution.invariant {step : State → Label → State → Prop} {Holds : State → Prop}
    {start final : State} {labels : List Label}
    (preserved : ∀ before label after, Holds before → step before label after → Holds after)
    (initial : Holds start) (run : Execution step start labels final) : Holds final := by
  induction run with
  | stop => exact initial
  | next _ moved previous => exact preserved _ _ _ previous moved

theorem Execution.trans {step : State → Label → State → Prop} {start middle final : State}
    {first second : List Label} (before : Execution step start first middle)
    (after : Execution step middle second final) : Execution step start (first ++ second) final := by
  induction after with
  | stop => simpa using before
  | next _ moved previous => simpa using previous.next moved

theorem Execution.last {step : State → Label → State → Prop} {start final : State} {labels : List Label} {label : Label}
    (run : Execution step start (labels ++ [label]) final) :
    ∃ before, Execution step start labels before ∧ step before label final := by
  generalize whole : labels ++ [label] = all at run
  cases run with
  | stop => simp at whole
  | next earlier moved =>
    obtain ⟨rfl, same⟩ := List.append_inj' whole rfl
    cases same
    exact ⟨_, earlier, moved⟩

theorem Execution.split {step : State → Label → State → Prop} {start final : State} {first second : List Label}
    (run : Execution step start (first ++ second) final) :
    ∃ middle, Execution step start first middle ∧ Execution step middle second final := by
  induction second using List.reverseRecOn generalizing final with
  | nil => exact ⟨final, by simpa using run, .stop⟩
  | append_singleton second label ih =>
    rw [← List.append_assoc] at run
    obtain ⟨before, earlier, moved⟩ := run.last
    obtain ⟨middle, front, back⟩ := ih earlier
    exact ⟨middle, front, back.next moved⟩

theorem Execution.still {step : State → Label → State → Prop} {start final : State}
    (run : Execution step start [] final) : final = start := by
  generalize whole : ([] : List Label) = all at run
  cases run with
  | stop => rfl
  | next earlier moved => simp at whole

theorem Execution.first {step : State → Label → State → Prop} {start final : State} {label : Label} {rest : List Label}
    (run : Execution step start (label :: rest) final) :
    ∃ middle, step start label middle ∧ Execution step middle rest final := by
  have parted : Execution step start ([label] ++ rest) final := run
  obtain ⟨middle, front, back⟩ := parted.split
  have one : Execution step start ([] ++ [label]) middle := front
  obtain ⟨before, begun, moved⟩ := one.last
  rw [begun.still] at moved
  exact ⟨middle, moved, back⟩

theorem Execution.single {step : State → Label → State → Prop} {before after : State} {label : Label}
    (moved : step before label after) : Execution step before [label] after := by
  simpa using Execution.next .stop moved

theorem Execution.mono {weak strong : State → Label → State → Prop} {start final : State} {labels : List Label}
    (weaker : ∀ before label after, strong before label after → weak before label after)
    (run : Execution strong start labels final) : Execution weak start labels final := by
  induction run with
  | stop => exact .stop
  | next _ moved previous => exact previous.next (weaker _ _ _ moved)

theorem Execution.guarded {step : State → Label → State → Prop} {condition : State → Label → Prop}
    {start final : State} {labels : List Label} (always : ∀ label, label ∈ labels → ∀ before, condition before label)
    (run : Execution step start labels final) : Execution (guarded step condition) start labels final := by
  induction run with
  | stop => exact .stop
  | @next labels before after label _ moved previous =>
    have earlier : ∀ other, other ∈ labels → ∀ before, condition before other :=
      fun other member => always other (by simp [member])
    exact (previous earlier).next ⟨always label (by simp) before, moved⟩

theorem Execution.cons {step : State → Label → State → Prop} {start middle final : State} {label : Label}
    {labels : List Label} (first : step start label middle) (rest : Execution step middle labels final) :
    Execution step start (label :: labels) final :=
  (Execution.single first).trans rest

theorem foldlM_cons_eq_some {next : State → Label → Option State} {start final : State} {label : Label}
    {labels : List Label} :
    (label :: labels).foldlM next start = some final ↔
      ∃ middle, next start label = some middle ∧ labels.foldlM next middle = some final := by
  rw [List.foldlM_cons, Option.bind_eq_bind, Option.bind_eq_some_iff]

theorem Execution.of_foldlM (next : State → Label → Option State) {start final : State} (labels : List Label)
    (ran : labels.foldlM next start = some final) :
    Execution (fun before label after => next before label = some after) start labels final := by
  induction labels generalizing start with
  | nil =>
    cases ran
    exact .stop
  | cons label labels ih =>
    obtain ⟨middle, first, rest⟩ := foldlM_cons_eq_some.mp ran
    exact .cons first (ih rest)

theorem Execution.guarded_of_foldlM (next : State → Label → Option State) (condition : State → Label → Prop)
    [∀ state label, Decidable (condition state label)] {start final : State} (labels : List Label)
    (ran : labels.foldlM (fun state label => if condition state label then next state label else none) start =
      some final) :
    Execution (Transition.guarded (fun before label after => next before label = some after) condition) start labels
      final := by
  apply (Execution.of_foldlM _ labels ran).mono
  intro before label after moved
  split at moved
  · rename_i met
    exact ⟨met, moved⟩
  · cases moved

def runFrom (step : State → Label → State) (start : State) (labels : List Label) : State :=
  labels.foldl step start

section Deterministic

variable (step : State → Label → State)

@[simp]
theorem runFrom_append (start : State) (first second : List Label) :
    runFrom step start (first ++ second) = runFrom step (runFrom step start first) second :=
  List.foldl_append

theorem runFrom_invariant {Holds : State → Prop} {start : State} (labels : List Label)
    (preserved : ∀ state label, Holds state → Holds (step state label)) (initial : Holds start) :
    Holds (runFrom step start labels) := by
  induction labels generalizing start with
  | nil => exact initial
  | cons label labels ih => exact ih (preserved _ _ initial)

/-- When a step from a good state is good exactly if its input is allowed there, a whole
    history stays good exactly if every input met the condition when it arrived. -/
theorem runFrom_always_iff {Good : State → Prop} {allowed : State → Label → Prop} {start : State}
    (labels : List Label) (exact : ∀ state label, Good state → (Good (step state label) ↔ allowed state label))
    (initial : Good start) :
    (∀ pre, pre <+: labels → Good (runFrom step start pre)) ↔
      ∀ pre label, pre ++ [label] <+: labels → allowed (runFrom step start pre) label := by
  constructor
  · intro good pre label prefixed
    have before := good pre (List.IsPrefix.trans (List.prefix_append _ _) prefixed)
    have after := good (pre ++ [label]) prefixed
    rw [runFrom_append] at after
    exact (exact _ _ before).mp after
  · intro met pre
    induction pre using List.reverseRecOn with
    | nil => exact fun _ => initial
    | append_singleton pre label ih =>
      intro prefixed
      have before := ih (List.IsPrefix.trans (List.prefix_append _ _) prefixed)
      rw [runFrom_append]
      exact (exact _ _ before).mpr (met pre label prefixed)

end Deterministic

end Transition
