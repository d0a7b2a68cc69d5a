import TiSIP.Audio.OwnCall

namespace TiSIP.Audio

open Pjmedia Pjsua Proxy Switchboard Transition

/-- A failed hang-up that leaves its call up, if there was one, keeps every connection. -/
def FailedHangUpKeeps (before : BridgeState) (event : BridgeEvent) (after : BridgeState) : Prop :=
  match event with
  | .hangUpCall callId ci outcome =>
    (hangUpCall before.var callId ci outcome).1 = -1 →
      (∀ index, SlotTable.slotOf maxCalls callId = some index → (before.var.calls index).Live →
        (after.var.calls index).Live) →
      ∀ source sink, after.var.conf.Transmits source sink ↔ before.var.conf.Transmits source sink
  | _ => True

/-- The exits of `pjsua_call_hangup` that report an error and leave the call up. -/
def LeavesCall : HangupOutcome → Prop
  | .notAcquired | .endSessionFailed _ | .sendFailed _ false => True
  | .sendFailed _ true | .sent _ | .pending => False

def HangUpFails (var : CallVar) (callId : Int) (outcome : HangupOutcome) : Prop :=
  match SlotTable.slotOf maxCalls callId with
  | none => True
  | some index => (var.calls index).Live → LeavesCall outcome

def MicrophoneOff (var : CallVar) (callId : Int) (ci : CallInfo) : Prop :=
  ∀ slot, MutedSlot var callId ci slot → ¬ var.conf.Transmits 0 slot

def HangsUpSilently (state : BridgeState) : BridgeEvent → Prop
  | .hangUpCall callId ci outcome => HangUpFails state.var callId outcome → MicrophoneOff state.var callId ci
  | _ => True

instance (outcome : HangupOutcome) : Decidable (LeavesCall outcome) :=
  match outcome with
  | .notAcquired | .endSessionFailed _ | .sendFailed _ false => .isTrue trivial
  | .sendFailed _ true | .sent _ | .pending => .isFalse id

instance (var : CallVar) (callId : Int) (outcome : HangupOutcome) : Decidable (HangUpFails var callId outcome) :=
  match found : SlotTable.slotOf maxCalls callId with
  | none => .isTrue (by simp [HangUpFails, found])
  | some index => decidable_of_iff ((var.calls index).Live → LeavesCall outcome) (by simp [HangUpFails, found])

instance (state : BridgeState) : (event : BridgeEvent) → Decidable (HangsUpSilently state event)
  | .hangUpCall _ _ _ => inferInstanceAs (Decidable (_ → ∀ _, _ → _))
  | .library _ | .answerCall _ | .muteCall .. | .unmuteCall .. => instDecidableTrue

theorem muteCall_keeps_iff {var : CallVar} {callId : Int} {ci : CallInfo} :
    (∀ source sink, (muteCall var callId ci).conf.Transmits source sink ↔ var.conf.Transmits source sink) ↔
      MicrophoneOff var callId ci := by
  have cut : (∀ source sink, ¬ False →
      ((muteCall var callId ci).conf.Transmits source sink ↔ var.conf.Transmits source sink)) ↔
      ∀ slot : Fin maxConfPorts, (callGetInfo var callId ci).2.confSlot = slot.val →
        var.conf.Transmits 0 slot → False := confDisconnect_elsewhere
  unfold MicrophoneOff
  simpa [queried_slot_iff] using cut

section Exits

variable {var : CallVar} {callId : Int} {outcome : HangupOutcome}

theorem setHangingUp_live {index other : Fin maxCalls} {hangingUp : Bool} (live : (var.calls other).Live) :
    ((setHangingUp var index hangingUp).calls other).Live := by
  unfold setHangingUp
  by_cases same : other = index
  · subst same
    rw [setCall_own]
    exact live
  · rw [setCall_other same]
    exact live

theorem callHangup_fails (fails : HangUpFails var callId outcome) :
    (∃ error, (callHangup var callId outcome).1 = .error error) ∧
      (callHangup var callId outcome).2.conf = var.conf ∧
      ∀ index, (var.calls index).Live → ((callHangup var callId outcome).2.calls index).Live := by
  unfold HangUpFails at fails
  unfold callHangup
  split
  · exact ⟨⟨_, rfl⟩, rfl, fun _ live => live⟩
  · rename_i index found
    rw [found] at fails
    split
    · exact ⟨⟨_, rfl⟩, rfl, fun _ live => live⟩
    · rename_i live
      have leaves := fails (not_not.mp live)
      cases outcome with
      | notAcquired => exact ⟨⟨_, rfl⟩, rfl, fun _ live => live⟩
      | endSessionFailed error => exact ⟨⟨_, rfl⟩, rfl, fun _ live => setHangingUp_live live⟩
      | sendFailed error ended =>
        cases ended with
        | true => cases leaves
        | false => exact ⟨⟨_, rfl⟩, rfl, fun _ live => setHangingUp_live live⟩
      | sent ended => cases leaves
      | pending => cases leaves

theorem callHangup_ends (goes : ¬ HangUpFails var callId outcome) {error : PjError}
    (failed : (callHangup var callId outcome).1 = .error error) :
    ∃ index, SlotTable.slotOf maxCalls callId = some index ∧ (var.calls index).Live ∧
      ¬ ((callHangup var callId outcome).2.calls index).Live := by
  unfold HangUpFails at goes
  rcases slotOf_none_or callId maxCalls with outside | ⟨index, rfl⟩
  · rw [outside] at goes
    exact absurd trivial goes
  · refine ⟨index, SlotTable.slotOf_val index, ?_⟩
    rw [SlotTable.slotOf_val] at goes
    obtain ⟨live, leaves⟩ := Classical.not_imp.mp goes
    refine ⟨live, ?_⟩
    unfold callHangup at failed ⊢
    rw [SlotTable.slotOf_val] at failed ⊢
    dsimp only at failed ⊢
    rw [if_neg (not_not.mpr live)] at failed ⊢
    cases outcome with
    | notAcquired => exact absurd trivial leaves
    | endSessionFailed error => exact absurd trivial leaves
    | sendFailed error ended =>
      cases ended with
      | true =>
        rw [callEnd_own]
        exact nofun
      | false => exact absurd trivial leaves
    | sent ended => cases ended <;> cases failed
    | pending => cases failed

end Exits

theorem hangUpCall_result (var : CallVar) (callId : Int) (ci : CallInfo) (outcome : HangupOutcome) :
    ((hangUpCall var callId ci outcome).1 = -1 ↔
      ∃ error, (callHangup (muteCall var callId ci) callId outcome).1 = .error error) ∧
      (hangUpCall var callId ci outcome).2 = (callHangup (muteCall var callId ci) callId outcome).2 := by
  unfold hangUpCall
  dsimp only
  split
  · rename_i error failed
    exact ⟨iff_of_true rfl ⟨error, failed⟩, rfl⟩
  · rename_i done
    have one : (1 : Int) ≠ -1 := by decide
    refine ⟨iff_of_false one ?_, rfl⟩
    intro ⟨error, failed⟩
    rw [done] at failed
    cases failed

theorem failedHangUpKeeps_iff {state after : BridgeState} {event : BridgeEvent}
    (stepped : bridgeStep state event = some after) :
    FailedHangUpKeeps state event after ↔ HangsUpSilently state event := by
  cases event with
  | library | answerCall | muteCall | unmuteCall => exact Iff.rfl
  | hangUpCall callId ci outcome =>
    cases stepped
    unfold FailedHangUpKeeps HangsUpSilently
    obtain ⟨returned, left⟩ := hangUpCall_result state.var callId ci outcome
    dsimp only
    rw [returned, left, ← muteCall_keeps_iff]
    by_cases fails : HangUpFails state.var callId outcome
    · have mutedFails : HangUpFails (muteCall state.var callId ci) callId outcome := fails
      obtain ⟨failed, conf, live⟩ := callHangup_fails mutedFails
      rw [conf]
      constructor
      · exact fun keeps _ => keeps failed fun index _ up => live index up
      · exact fun off _ _ => off fails
    · have mutedGoes : ¬ HangUpFails (muteCall state.var callId ci) callId outcome := fails
      constructor
      · exact fun _ impossible => absurd impossible fails
      · intro _ ⟨error, failed⟩ alive
        obtain ⟨index, found, up, down⟩ := callHangup_ends mutedGoes failed
        exact absurd (alive index found up) down

def KeepingStep (before : BridgeState) (event : BridgeEvent) (after : BridgeState) : Prop :=
  BridgeStep before event after ∧ FailedHangUpKeeps before event after

theorem failed_hangUp_keeps_iff (events : List BridgeEvent) (state : BridgeState) :
    (∀ event after, BridgeStep state event after →
      (FailedHangUpKeeps state event after ↔ HangsUpSilently state event)) ∧
      (Execution KeepingStep startBridge events state ↔
        Execution (guarded BridgeStep HangsUpSilently) startBridge events state) := by
  refine ⟨fun _ _ stepped => failedHangUpKeeps_iff stepped, ?_, ?_⟩
  · intro run
    apply run.mono
    intro before event after ⟨stepped, keeps⟩
    exact ⟨(failedHangUpKeeps_iff stepped).mp keeps, stepped⟩
  · intro run
    apply run.mono
    intro before event after ⟨silently, stepped⟩
    exact ⟨stepped, (failedHangUpKeeps_iff stepped).mpr silently⟩

def mutedAnsweredCall : List BridgeEvent := answeredCall ++ [.muteCall 0 .zero]

theorem muted_call_hangUp_keeps :
    ∃ state after, Execution BridgeStep startBridge mutedAnsweredCall state ∧
      BridgeStep state (.hangUpCall 0 .zero .notAcquired) after ∧
      FailedHangUpKeeps state (.hangUpCall 0 .zero .notAcquired) after := by
  have ran : (mutedAnsweredCall.foldlM bridgeStep startBridge).any fun state =>
      (bridgeStep state (.hangUpCall 0 .zero .notAcquired)).isSome ∧
        HangsUpSilently state (.hangUpCall 0 .zero .notAcquired) := by decide
  obtain ⟨state, reached, hungUp⟩ := (Option.any_eq_true _ _).mp ran
  obtain ⟨stepped, silently⟩ := of_decide_eq_true hungUp
  obtain ⟨after, stepped⟩ := Option.isSome_iff_exists.mp stepped
  have keeps := ((failed_hangUp_keeps_iff mutedAnsweredCall state).1 _ after stepped).mpr silently
  exact ⟨state, after, Execution.of_foldlM bridgeStep mutedAnsweredCall reached, stepped, keeps⟩

/-- The dialog lock of a call that is up cannot be acquired in time. -/
theorem failed_hangUp_mutes :
    ∃ state after, Execution BridgeStep startBridge answeredCall state ∧
      BridgeStep state (.hangUpCall 0 .zero .notAcquired) after ∧ (after.var.calls 0).Live ∧
      ¬ FailedHangUpKeeps state (.hangUpCall 0 .zero .notAcquired) after := by
  have ran : (answeredCall.foldlM bridgeStep startBridge).any fun state =>
      (bridgeStep state (.hangUpCall 0 .zero .notAcquired)).any fun after =>
        (hangUpCall state.var 0 .zero .notAcquired).1 = -1 ∧ (after.var.calls 0).Live ∧
          state.var.conf.Transmits 0 1 ∧ ¬ after.var.conf.Transmits 0 1 := by decide
  obtain ⟨state, reached, hungUp⟩ := (Option.any_eq_true _ _).mp ran
  obtain ⟨after, stepped, changed⟩ := (Option.any_eq_true _ _).mp hungUp
  obtain ⟨failed, up, heard, cut⟩ := of_decide_eq_true changed
  refine ⟨state, after, Execution.of_foldlM bridgeStep answeredCall reached, stepped, up, ?_⟩
  intro keeps
  have alive : ∀ index, SlotTable.slotOf maxCalls 0 = some index → (state.var.calls index).Live →
      (after.var.calls index).Live := by
    intro index found _
    have same : (0 : Int) = index.val := SlotTable.slotOf_eq_some.mp found
    have zero : index = 0 := Fin.ext (Int.ofNat.inj same.symm)
    rw [zero]
    exact up
  exact cut ((keeps failed alive 0 1).mpr heard)

end TiSIP.Audio
