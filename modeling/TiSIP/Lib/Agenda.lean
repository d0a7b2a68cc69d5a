import Mathlib.Order.Lattice
import TiSIP.Lib.Transition

namespace Agenda

open Transition

variable {Entry Time : Type*}

inductive Event (Entry Time : Type*)
  | armed (entry : Entry) (time : Time)
  | refused (entry : Entry)
  | disarmed (entry : Entry)
  | missed (entry : Entry)
  | fired (entry : Entry) (now : Time)
  | rested (now : Time)
  | paused

def Event.Ends (entry : Entry) : Event Entry Time → Prop
  | disarmed other | fired other _ => other = entry
  | _ => False

def Event.Arms (entry : Entry) : Event Entry Time → Prop
  | armed other _ => other = entry
  | _ => False

instance [DecidableEq Entry] (entry : Entry) : (event : Event Entry Time) → Decidable (event.Ends entry)
  | .disarmed _ | .fired _ _ => inferInstanceAs (Decidable (_ = _))
  | .armed _ _ | .refused _ | .missed _ | .rested _ | .paused => instDecidableFalse

instance [DecidableEq Entry] (entry : Entry) : (event : Event Entry Time) → Decidable (event.Arms entry)
  | .armed _ _ => inferInstanceAs (Decidable (_ = _))
  | .disarmed _ | .fired _ _ | .refused _ | .missed _ | .rested _ | .paused => instDecidableFalse

variable [DecidableEq Entry] [LinearOrder Time]

inductive Step : (Entry → Option Time) → Event Entry Time → (Entry → Option Time) → Prop
  | arm {pending : Entry → Option Time} {entry : Entry} (time : Time) (idle : pending entry = none) :
      Step pending (.armed entry time) (Function.update pending entry (some time))
  | refuse {pending : Entry → Option Time} {entry : Entry} {time : Time} (armed : pending entry = some time) :
      Step pending (.refused entry) pending
  | disarm {pending : Entry → Option Time} {entry : Entry} {time : Time} (armed : pending entry = some time) :
      Step pending (.disarmed entry) (Function.update pending entry none)
  | miss {pending : Entry → Option Time} {entry : Entry} (idle : pending entry = none) :
      Step pending (.missed entry) pending
  | fire {pending : Entry → Option Time} {entry : Entry} {time now : Time} (armed : pending entry = some time)
      (due : time ≤ now) (first : ∀ other later, pending other = some later → time ≤ later) :
      Step pending (.fired entry now) (Function.update pending entry none)
  | rest {pending : Entry → Option Time} {now : Time} (early : ∀ entry time, pending entry = some time → now < time) :
      Step pending (.rested now) pending
  | pause {pending : Entry → Option Time} : Step pending .paused pending

variable {before after : Entry → Option Time} {event : Event Entry Time} {history : List (Event Entry Time)}
  {final : Entry → Option Time}

theorem Step.other {entry : Entry} (step : Step before event after) (notArmed : ¬ event.Arms entry)
    (notEnded : ¬ event.Ends entry) : after entry = before entry := by
  cases step with
  | arm time idle => exact Function.update_of_ne (fun same => notArmed same.symm) _ _
  | disarm armed => exact Function.update_of_ne (fun same => notEnded same.symm) _ _
  | fire armed due first => exact Function.update_of_ne (fun same => notEnded same.symm) _ _
  | refuse armed | miss idle | rest early | pause => rfl

theorem Step.armed {entry : Entry} {time : Time} (step : Step before (.armed entry time) after) :
    before entry = none ∧ after entry = some time := by
  cases step with
  | arm time idle => exact ⟨idle, Function.update_self _ _ _⟩

theorem Step.ended {entry : Entry} (step : Step before event after) (ended : event.Ends entry) :
    (∃ time, before entry = some time) ∧ after entry = none := by
  cases step with
  | disarm armed =>
    cases ended
    exact ⟨⟨_, armed⟩, Function.update_self _ _ _⟩
  | fire armed due first =>
    cases ended
    exact ⟨⟨_, armed⟩, Function.update_self _ _ _⟩
  | arm time idle => exact ended.elim
  | refuse armed | miss idle | rest early | pause => exact ended.elim

theorem Step.fired {entry : Entry} {now : Time} (step : Step before (.fired entry now) after) :
    ∃ time, before entry = some time ∧ time ≤ now ∧ ∀ other later, before other = some later → time ≤ later := by
  cases step with
  | fire armed due first => exact ⟨_, armed, due, first⟩

/-- What is pending was armed for its time, and since then neither ended nor armed again. -/
theorem pending_armed {start : Entry → Option Time} (run : Execution Step start history final)
    (empty : ∀ entry, start entry = none) {entry : Entry} {time : Time} (pending : final entry = some time) :
    ∃ earlier later, history = earlier ++ .armed entry time :: later ∧
      ∀ event ∈ later, ¬ event.Ends entry ∧ ¬ event.Arms entry := by
  induction run generalizing time with
  | stop =>
    rw [empty] at pending
    cases pending
  | @next labels before after label earlier moved ih =>
    by_cases arms : label.Arms entry
    · cases label with
      | armed other armedTime =>
        cases arms
        have now := moved.armed.2
        rw [pending] at now
        cases now
        exact ⟨labels, [], rfl, fun _ member => absurd member List.not_mem_nil⟩
      | refused | disarmed | missed | fired | rested | paused => exact arms.elim
    · by_cases ends : label.Ends entry
      · rw [(moved.ended ends).2] at pending
        cases pending
      · rw [moved.other arms ends] at pending
        obtain ⟨first, later, rfl, quiet⟩ := ih pending
        refine ⟨first, later ++ [label], by simp, ?_⟩
        intro event member
        rcases List.mem_append.mp member with old | new
        · exact quiet event old
        · rw [List.mem_singleton.mp new]
          exact ⟨ends, arms⟩

/-- Every arming of an entry ends once, but for the one that is still pending. -/
theorem armings_balance {start : Entry → Option Time} (run : Execution Step start history final)
    (empty : ∀ entry, start entry = none) (entry : Entry) :
    history.countP (fun event => event.Arms entry) =
      history.countP (fun event => event.Ends entry) + (final entry).toList.length := by
  induction run with
  | stop =>
    rw [empty]
    rfl
  | @next labels before after label earlier moved ih =>
    rw [List.countP_append, List.countP_append, ih, List.countP_singleton, List.countP_singleton]
    by_cases arms : label.Arms entry
    · cases label with
      | armed other time =>
        cases arms
        obtain ⟨idle, now⟩ := moved.armed
        have notEnded : ¬ (Event.armed entry time).Ends entry := id
        rw [idle, now]
        simp [Event.Arms, notEnded]
      | refused | disarmed | missed | fired | rested | paused => exact arms.elim
    · by_cases ends : label.Ends entry
      · obtain ⟨⟨time, was⟩, now⟩ := moved.ended ends
        rw [was, now]
        simp [arms, ends]
      · rw [moved.other arms ends]
        simp [arms, ends]

end Agenda
