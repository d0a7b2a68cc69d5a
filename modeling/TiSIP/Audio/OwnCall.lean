import TiSIP.Audio.Mute

namespace TiSIP.Audio

open Pjmedia Pjsua Proxy Switchboard Transition

/-- The connection that `muteCall` and `unmuteCall` are for: from port 0 to the slot of the
    live call. -/
def OwnConnection (var : CallVar) (callId : Int) (source sink : Fin maxConfPorts) : Prop :=
  source = 0 ∧ ∃ index, liveCall var callId = some index ∧ CurrentSlot var index sink

def ChangesOwn (before : CallVar) (callId : Int) (after : CallVar) : Prop :=
  ∀ source sink, ¬ OwnConnection before callId source sink →
    (after.conf.Transmits source sink ↔ before.conf.Transmits source sink)

/-- The operation under way changes only its own call's connection, and no step loops the
    microphone to the speaker. -/
def TouchesOwn (before : MuteState) (event : MuteEvent) (after : MuteState) : Prop :=
  (after.var.conf.Transmits 0 0 → before.var.conf.Transmits 0 0) ∧
    match event with
    | .query _ callId _ => ChangesOwn before.var callId after.var
    | .update => ∀ operation asked slot target, before.user = some (.update operation asked slot target) →
        ChangesOwn before.var asked.callId after.var
    | _ => True

def Acts (conf : Conf) (operation : AudioOperation) (slot : Fin maxConfPorts) : Prop :=
  match operation with
  | .mute | .hangUp => conf.Transmits 0 slot
  | .unmute => conf.ports.Live slot ∧ ¬ conf.Transmits 0 slot

/-- The call that was asked for was live, with its selected audio line in the slot, and has the slot still. -/
def StillSeated (asked : Asked) (var : CallVar) (slot : Fin maxConfPorts) : Prop :=
  ∃ index, liveCall asked.var asked.callId = some index ∧ CurrentSlot asked.var index slot ∧
    (var.calls index).Live ∧ CurrentSlot var index slot

/-- Unless there is nothing to change at the slot of the call that was asked for, it was a live call's and still is. -/
def UserStage.Aimed (var : CallVar) : UserStage → Prop
  | update operation asked _ _ => ∀ slot, asked.Slot slot → Acts var.conf operation slot → StillSeated asked var slot
  | hangup _ => True

def Aimed (state : MuteState) : MuteEvent → Prop
  | .update => ∀ stage, state.user = some stage → stage.Aimed state.var
  | _ => True

instance (conf : Conf) : (operation : AudioOperation) → (slot : Fin maxConfPorts) → Decidable (Acts conf operation slot)
  | .mute, slot | .hangUp, slot => inferInstanceAs (Decidable (conf.Transmits 0 slot))
  | .unmute, slot => inferInstanceAs (Decidable (conf.ports.Live slot ∧ ¬ conf.Transmits 0 slot))

instance (asked : Asked) (var : CallVar) (slot : Fin maxConfPorts) : Decidable (StillSeated asked var slot) :=
  inferInstanceAs (Decidable (∃ _, _ ∧ _ ∧ _ ∧ _))

instance (var : CallVar) : (stage : UserStage) → Decidable (stage.Aimed var)
  | .update _ _ _ _ => inferInstanceAs (Decidable (∀ _, _ → _ → _))
  | .hangup _ => instDecidableTrue

instance (state : MuteState) : (event : MuteEvent) → Decidable (Aimed state event)
  | .update =>
    match found : state.user with
    | none => .isTrue fun stage held => by cases found.symm.trans held
    | some stage =>
      decidable_of_iff (stage.Aimed state.var)
        ⟨fun aimed other held => Option.some.inj (found.symm.trans held) ▸ aimed, fun aimed => aimed stage found⟩
  | .library _ | .callback _ | .answerCall _ | .query .. | .hangup _ => instDecidableTrue

section NoLoop

variable {var : CallVar}

theorem currentSlot_notHub (sound : AudioSound var) {index : Fin maxCalls} {slot : Fin maxConfPorts}
    (current : CurrentSlot var index slot) : slot ≠ 0 := by
  obtain ⟨mi, _, held⟩ := current
  exact sound.seated.notHub (index, mi) slot held

theorem noLoop_disconnect {sink : Int} (loop : (confDisconnect var 0 sink).conf.Transmits 0 0) :
    var.conf.Transmits 0 0 := by
  have link : (confDisconnect var 0 sink).conf.board.linked 0 0 := loop
  rcases confDisconnect_board var sink with same | ⟨slot, _, cut⟩
  · rw [same] at link
    exact link
  · rw [cut] at link
    exact link.1

theorem noLoop_connectOut {source : Int} (notHub : source ≠ 0)
    (loop : (confConnect var source 0).conf.Transmits 0 0) : var.conf.Transmits 0 0 := by
  have link : (confConnect var source 0).conf.board.linked 0 0 := loop
  rcases connectOut_board var source with same | ⟨slot, rfl, connected⟩
  · rw [same] at link
    exact link
  · rw [connected] at link
    refine connect_unlooped (.inl ?_) link
    intro hub
    subst hub
    exact notHub rfl

theorem noLoop_connect {sink : Int} (settled : sink = 0 → var.conf.Transmits 0 0)
    (loop : (confConnect var 0 sink).conf.Transmits 0 0) : var.conf.Transmits 0 0 := by
  have link : (confConnect var 0 sink).conf.board.linked 0 0 := loop
  rcases confConnect_board var sink with same | ⟨slot, rfl, connected⟩
  · rw [same] at link
    exact link
  · rw [connected] at link
    by_cases hit : slot = 0
    · subst hit
      exact settled rfl
    · exact connect_unlooped (.inr hit) link

theorem StagesSound.notHub {state : MuteState} {index : Fin maxCalls} {slot : Int} (stages : StagesSound state)
    (stage : state.running index = some (.connectOut slot) ∨ state.running index = some (.connectIn slot)) :
    slot ≠ 0 := by
  intro hub
  obtain ⟨mi, held⟩ := stages.running index slot stage
  have seat : seats state.var.calls (index, mi) = some 0 := seatOf_eq_some.mpr (held.trans hub)
  exact stages.sound.seated.notHub (index, mi) 0 seat rfl

end NoLoop

section Steps

variable {state : MuteState}

theorem StagesSound.noLoop_callback {index : Fin maxCalls} {stage : CallbackStage} (stages : StagesSound state)
    (running : state.running index = some stage)
    (loop : (callbackStep state index stage).var.conf.Transmits 0 0) : state.var.conf.Transmits 0 0 := by
  cases stage with
  | entered => exact loop
  | connectOut slot => exact noLoop_connectOut (stages.notHub (.inl running)) loop
  | connectIn slot => exact noLoop_connect (fun hub => absurd hub (stages.notHub (.inr running))) loop

theorem noLoop_hangup {callId : Int} {outcome : HangupOutcome} (sound : AudioSound state.var)
    (loop : (callHangup state.var callId outcome).2.conf.Transmits 0 0) : state.var.conf.Transmits 0 0 := by
  rcases slotOf_none_or callId maxCalls with outside | ⟨index, rfl⟩
  · rw [callHangup_outside outside] at loop
    exact loop
  · have stepped := callHangup_step sound index outcome
    exact stepped.reseats.fewer loop

theorem liveCall_eq_some {var : CallVar} {callId : Int} {index : Fin maxCalls} :
    liveCall var callId = some index ↔ callId = index.val ∧ (var.calls index).Live := by
  unfold liveCall
  rw [Option.filter_eq_some_iff, SlotTable.slotOf_eq_some, decide_eq_true_iff]

theorem Asked.own_iff {asked : Asked} {var : CallVar} {slot : Fin maxConfPorts} (sound : AudioSound var)
    (named : asked.Slot slot) : OwnConnection var asked.callId 0 slot ↔ StillSeated asked var slot := by
  constructor
  · rintro ⟨_, index, live, current⟩
    obtain ⟨own, up⟩ := liveCall_eq_some.mp live
    have asking : CurrentSlot asked.var index slot ∧ (asked.var.calls index).Live := by
      unfold Asked.Slot MutedSlot at named
      rw [own, SlotTable.slotOf_val] at named
      dsimp only at named
      split at named
      · rename_i was
        exact ⟨named, was.1⟩
      · exact absurd named (currentSlot_notHub sound current)
    exact ⟨index, liveCall_eq_some.mpr ⟨own, asking.2⟩, asking.1, up, current⟩
  · rintro ⟨index, was, _, up, current⟩
    exact ⟨rfl, index, liveCall_eq_some.mpr ⟨(liveCall_eq_some.mp was).1, up⟩, current⟩

theorem StagesSound.aimed_iff {operation : AudioOperation} {asked : Asked} {slot : Int}
    {target : Option (Fin maxCalls)} (stages : StagesSound state)
    (user : state.user = some (.update operation asked slot target)) :
    (UserStage.update operation asked slot target).Aimed state.var ↔
      ∀ port : Fin maxConfPorts, slot = port.val → Acts state.var.conf operation port →
        OwnConnection state.var asked.callId 0 port := by
  have told := stages.told operation asked slot target user
  apply forall_congr'
  intro port
  rw [told port]
  apply imp_congr_right
  intro named
  rw [Asked.own_iff stages.sound named]

theorem StagesSound.touches_update {operation : AudioOperation} {asked : Asked} {slot : Int}
    {target : Option (Fin maxCalls)} (stages : StagesSound state)
    (user : state.user = some (.update operation asked slot target)) :
    TouchesOwn state .update (userStep state operation asked.callId slot target) ↔
      (UserStage.update operation asked slot target).Aimed state.var := by
  have changes : (TouchesOwn state .update (userStep state operation asked.callId slot target)) ↔
      ((userStep state operation asked.callId slot target).var.conf.Transmits 0 0 → state.var.conf.Transmits 0 0) ∧
        ChangesOwn state.var asked.callId (userStep state operation asked.callId slot target).var := by
    unfold TouchesOwn
    dsimp only
    apply and_congr_right
    intro _
    constructor
    · exact fun all => all operation asked slot target user
    · intro own operation' asked' slot' target' user'
      cases user.symm.trans user'
      exact own
  rw [changes, stages.aimed_iff user]
  cases operation with
  | mute => exact (and_iff_right noLoop_disconnect).trans confDisconnect_elsewhere
  | hangUp => exact (and_iff_right noLoop_disconnect).trans confDisconnect_elsewhere
  | unmute =>
    have exact_own : ChangesOwn state.var asked.callId (confConnect state.var 0 slot) ↔
        ∀ port : Fin maxConfPorts, slot = port.val → Acts state.var.conf .unmute port →
          OwnConnection state.var asked.callId 0 port :=
      confConnect_elsewhere stages.sound.seated.hubPlugged
    constructor
    · exact fun touches => exact_own.mp touches.2
    · intro aimed
      refine ⟨noLoop_connect ?_, exact_own.mpr aimed⟩
      -- Port 0 is nobody's slot, so an aimed update of it finds the loop made already.
      intro hub
      by_contra quiet
      obtain ⟨_, index, _, current⟩ := aimed 0 hub ⟨stages.sound.seated.hubPlugged, quiet⟩
      exact currentSlot_notHub stages.sound current rfl

theorem StagesSound.touches_iff {after : MuteState} {event : MuteEvent} (stages : StagesSound state)
    (stepped : muteStep state event = some after) : TouchesOwn state event after ↔ Aimed state event := by
  rcases muteStep_cases stepped with ⟨library, var, reported, rfl, _, ran, rfl⟩ | ⟨caller, stage, rfl, running, rfl⟩ |
    ⟨callId, rfl, rfl⟩ | ⟨operation, callId, ci, rfl, _, rfl⟩ | ⟨operation, asked, slot, target, rfl, user, rfl⟩ |
    ⟨callId, outcome, rfl, _, _, rfl⟩
  · have moved := (libraryStep_stepped stages.sound ran).step
    exact iff_of_true ⟨fun loop => moved.reseats.fewer loop, trivial⟩ trivial
  · exact iff_of_true ⟨stages.noLoop_callback running, trivial⟩ trivial
  · exact iff_of_true ⟨id, trivial⟩ trivial
  · exact iff_of_true ⟨id, fun _ _ _ => Iff.rfl⟩ trivial
  · rw [stages.touches_update user]
    constructor
    · intro aimed stage held
      cases user.symm.trans held
      exact aimed
    · exact fun aimed => aimed _ user
  · exact iff_of_true ⟨noLoop_hangup stages.sound, trivial⟩ trivial

end Steps

theorem startMute_stages : StagesSound startMute := startMute_invariant.toStagesSound

theorem run_stages {events : List MuteEvent} {state : MuteState} (run : Execution MuteStep startMute events state) :
    StagesSound state :=
  run.invariant (fun _ _ _ before stepped => muteStep_stages before stepped) startMute_stages

theorem aimed_run_noLoop {events : List MuteEvent} {state : MuteState}
    (run : Execution (guarded MuteStep Aimed) startMute events state) : ¬ state.var.conf.Transmits 0 0 := by
  let Quiet : MuteState → Prop := fun state => StagesSound state ∧ ¬ state.var.conf.Transmits 0 0
  have preserved : ∀ before event after, Quiet before → guarded MuteStep Aimed before event after → Quiet after := by
    intro before event after ⟨stages, quiet⟩ ⟨aimed, stepped⟩
    have touches := (stages.touches_iff stepped).mpr aimed
    exact ⟨muteStep_stages stages stepped, fun loop => quiet (touches.1 loop)⟩
  have holds : Quiet state := run.invariant preserved ⟨startMute_stages, startConf_unlinked 0 0⟩
  exact holds.2

theorem mute_touches_own_iff {events : List MuteEvent} {state : MuteState}
    (run : Execution MuteStep startMute events state) :
    (∀ event after, MuteStep state event after → (TouchesOwn state event after ↔ Aimed state event)) ∧
      (Execution (guarded MuteStep Aimed) startMute events state → ¬ state.var.conf.Transmits 0 0) :=
  ⟨fun _ _ stepped => (run_stages run).touches_iff stepped, aimed_run_noLoop⟩

def unmutedCall : List MuteEvent := mutedCall ++ [.query .unmute 0 .zero, .update]

theorem unmuted_call_touches_own :
    ∃ state, Execution MuteStep startMute unmutedCall state ∧ state.var.conf.Transmits 0 1 ∧
      ¬ state.var.conf.Transmits 0 0 ∧
      ∀ event after, MuteStep state event after → (TouchesOwn state event after ↔ Aimed state event) := by
  have ran : (unmutedCall.foldlM (fun state event => if Aimed state event then muteStep state event else none)
      startMute).any fun state => decide (state.var.conf.Transmits 0 1) := by decide
  obtain ⟨state, ended, heard⟩ := (Option.any_eq_true _ _).mp ran
  have guardedRun := Execution.guarded_of_foldlM muteStep Aimed unmutedCall ended
  have run : Execution MuteStep startMute unmutedCall state := guardedRun.mono fun _ _ _ stepped => stepped.2
  obtain ⟨touches, quiet⟩ := mute_touches_own_iff run
  exact ⟨state, run, of_decide_eq_true heard, quiet guardedRun, touches⟩

def endedCallUnmuted : List MuteEvent :=
  [.library (.placeCall 0 sampleSession (audioOffer 7)), .library (.stateChanged 0 .calling), .library (.ended 0),
    .query .unmute 0 .zero]

theorem ended_call_loops_microphone :
    ∃ state after, Execution MuteStep startMute endedCallUnmuted state ∧ MuteStep state .update after ∧
      liveCall state.var 0 = none ∧ ¬ TouchesOwn state .update after := by
  have ran : (endedCallUnmuted.foldlM muteStep startMute).any fun state =>
      (muteStep state .update).any fun after =>
        liveCall state.var 0 = none ∧ ¬ state.var.conf.Transmits 0 0 ∧ after.var.conf.Transmits 0 0 := by decide
  obtain ⟨state, reached, updated⟩ := (Option.any_eq_true _ _).mp ran
  obtain ⟨after, stepped, looped⟩ := (Option.any_eq_true _ _).mp updated
  obtain ⟨dead, quiet, loop⟩ := of_decide_eq_true looped
  refine ⟨state, after, Execution.of_foldlM muteStep endedCallUnmuted reached, stepped, dead, ?_⟩
  exact fun touches => quiet (touches.1 loop)

end TiSIP.Audio
