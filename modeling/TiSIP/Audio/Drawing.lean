import TiSIP.Audio.Mute
import TiSIP.Pjmedia.BridgeRuns

namespace TiSIP.Audio

open Pjmedia Pjmedia.Bridge Pjsua Proxy Switchboard Transition

/-- The bridge operations that the module and its library make: every connection has port 0 at
    one end, and no level or port setting is changed. -/
def ofModule : Operation → Prop
  | .addPort | .removePort _ | .disconnectPort .. => True
  | .connectPort srcSlot sinkSlot level => level = 0 ∧ (srcSlot = 0 ∨ sinkSlot = 0)
  | _ => False

def Redrawn (before after : Pjsua.Conf) : Prop :=
  ∃ operations : List Operation, (∀ operation ∈ operations, ofModule operation) ∧ after = runFrom drawn before operations

namespace Redrawn

variable {first second third : Pjsua.Conf}

theorem refl (conf : Pjsua.Conf) : Redrawn conf conf :=
  ⟨[], fun _ member => absurd member List.not_mem_nil, rfl⟩

theorem trans (before : Redrawn first second) (after : Redrawn second third) : Redrawn first third := by
  obtain ⟨earlier, earlierOk, rfl⟩ := before
  obtain ⟨later, laterOk, rfl⟩ := after
  refine ⟨earlier ++ later, ?_, (runFrom_append drawn first earlier later).symm⟩
  intro operation member
  rcases List.mem_append.mp member with early | late
  · exact earlierOk operation early
  · exact laterOk operation late

theorem single (conf : Pjsua.Conf) {operation : Operation} (allowed : ofModule operation) :
    Redrawn conf (drawn conf operation) := by
  refine ⟨[operation], ?_, rfl⟩
  intro other member
  rw [List.mem_singleton.mp member]
  exact allowed

end Redrawn

section Media

variable (plane : MediaPlane) (mi : Fin maxCallMedia)

theorem audStopStream_redrawn (conf : Pjsua.Conf) (callMed : CallMedia) :
    Redrawn conf (audStopStream conf callMed).1 := by
  unfold audStopStream
  split
  · split
    · exact .single conf (show ofModule (.removePort callMed.confSlot) from trivial)
    · exact .refl conf
  · exact .refl conf

theorem stopMediaStream_redrawn : Redrawn plane.conf (stopMediaStream plane mi).conf := by
  unfold stopMediaStream
  dsimp only
  split
  · exact .refl plane.conf
  · exact audStopStream_redrawn plane.conf _

theorem failLine_redrawn : Redrawn plane.conf (failLine plane mi).conf :=
  stopMediaStream_redrawn plane mi

theorem restarted_redrawn (si : StreamInfo) : Redrawn plane.conf (restarted plane mi si).conf := by
  unfold restarted
  split
  · exact stopMediaStream_redrawn plane mi
  · exact .refl plane.conf

theorem selectAudio_conf (dir : MediaDir) : (selectAudio plane mi dir).conf = plane.conf := by
  unfold selectAudio
  split <;> rfl

theorem audChannelUpdate_redrawn (si : StreamInfo) : Redrawn plane.conf (audChannelUpdate plane mi si).1.conf := by
  unfold audChannelUpdate
  cases si.stream with
  | refused => exact .refl plane.conf
  | notStarted => exact .refl plane.conf
  | started =>
    dsimp only
    cases added : plane.conf.addPort with
    | error error => exact .refl plane.conf
    | ok result =>
      obtain ⟨conf, slot⟩ := result
      have drew : drawn plane.conf .addPort = conf := by
        unfold drawn
        rw [added]
        rfl
      have redrawn : Redrawn plane.conf (drawn plane.conf .addPort) := .single plane.conf trivial
      rw [drew] at redrawn
      exact redrawn

theorem updateLine_redrawn (sdp : SdpPair) : Redrawn plane.conf (updateLine sdp plane mi).1.conf := by
  unfold updateLine
  split
  · exact stopMediaStream_redrawn plane mi
  · split
    · exact failLine_redrawn plane mi
    · rename_i si _
      have restart := restarted_redrawn plane mi si
      dsimp only
      split
      · dsimp only [closeTransport, setProv]
        rw [selectAudio_conf]
        exact restart
      · split
        · exact restart.trans (failLine_redrawn _ mi)
        · have updated : Redrawn plane.conf (if isMediaChanged plane.channel mi si then
              audChannelUpdate (restarted plane mi si) mi si else (restarted plane mi si, true)).1.conf := by
            split
            · exact restart.trans (audChannelUpdate_redrawn _ mi si)
            · exact restart
          generalize (if isMediaChanged plane.channel mi si then
              audChannelUpdate (restarted plane mi si) mi si else (restarted plane mi si, true)) = outcome at updated ⊢
          obtain ⟨after, streaming⟩ := outcome
          dsimp only
          split
          · rw [selectAudio_conf]
            exact updated
          · exact updated.trans (failLine_redrawn after mi)

theorem updateLines_redrawn (sdp : SdpPair) (lines : List (Fin maxCallMedia)) (plane : MediaPlane) :
    Redrawn plane.conf (updateLines sdp lines plane).1.conf := by
  induction lines generalizing plane with
  | nil => exact .refl plane.conf
  | cons mi rest ih => exact (updateLine_redrawn plane mi sdp).trans (ih _)

theorem mediaChannelUpdate_redrawn (sdp : SdpPair) : Redrawn plane.conf (mediaChannelUpdate plane sdp).1.conf := by
  have lines := updateLines_redrawn sdp (linesBelow plane.channel.medProvCnt)
    { plane with channel := { plane.channel with audioIdx := none } }
  unfold mediaChannelUpdate
  dsimp only
  split
  · exact lines
  · exact lines

theorem stopMediaSession_redrawn : Redrawn plane.conf (stopMediaSession plane).conf := by
  have stops : ∀ (lines : List (Fin maxCallMedia)) (plane : MediaPlane),
      Redrawn plane.conf (lines.foldl stopMediaStream plane).conf := by
    intro lines
    induction lines with
    | nil => exact fun plane => .refl plane.conf
    | cons mi rest ih => exact fun plane => (stopMediaStream_redrawn plane mi).trans (ih _)
  exact stops _ plane

end Media

section Calls

variable (var : CallVar)

theorem confConnect_redrawn {source sink : Int} (hub : source = 0 ∨ sink = 0) :
    Redrawn var.conf (confConnect var source sink).conf :=
  .single var.conf (show ofModule (.connectPort source sink 0) from ⟨rfl, hub⟩)

theorem confDisconnect_redrawn (source sink : Int) : Redrawn var.conf (confDisconnect var source sink).conf :=
  .single var.conf (show ofModule (.disconnectPort source sink) from trivial)

theorem callOnMediaUpdate_redrawn (index : Fin maxCalls) (negotiated : Option SdpPair) :
    Redrawn var.conf (callOnMediaUpdate var index negotiated).1.conf := by
  cases up : (var.calls index).session.hangingUp with
  | true =>
    rw [callOnMediaUpdate_hangingUp up]
    exact .refl var.conf
  | false =>
    cases negotiated with
    | none =>
      rw [callOnMediaUpdate_failed up]
      exact .refl var.conf
    | some sdp =>
      rw [callOnMediaUpdate_succeeded up]
      exact mediaChannelUpdate_redrawn (mediaPlane var index) sdp

theorem callEnd_redrawn (index : Fin maxCalls) : Redrawn var.conf (callEnd var index).conf :=
  stopMediaSession_redrawn (mediaPlane var index)

theorem callHangup_redrawn (callId : Int) (outcome : HangupOutcome) :
    Redrawn var.conf (callHangup var callId outcome).2.conf := by
  unfold callHangup
  split
  · exact .refl var.conf
  · split
    · exact .refl var.conf
    · split
      · exact .refl var.conf
      · exact .refl var.conf
      · exact callEnd_redrawn var _
      · exact .refl var.conf
      · exact callEnd_redrawn var _
      · exact .refl var.conf
      · exact .refl var.conf

theorem dispatchCallMediaState_redrawn (callId : Int) (ci : CallInfo) :
    Redrawn var.conf (dispatchCallMediaState var callId ci).conf := by
  unfold dispatchCallMediaState
  dsimp only
  split
  · exact (confConnect_redrawn var (.inr rfl)).trans (confConnect_redrawn _ (.inl rfl))
  · exact .refl var.conf

theorem openedBy_conf (index : Fin maxCalls) (setup : Option MediaSetup) : (openedBy var index setup).conf = var.conf := by
  cases setup <;> rfl

theorem libraryStep_redrawn {var after : CallVar} {event : LibraryEvent} {reported : Bool}
    (stepped : libraryStep var event = some (after, reported)) : Redrawn var.conf after.conf := by
  cases libraryStep_taken stepped with
  | placed | unplaced | incoming | stateChanged | offered => exact .refl var.conf
  | @negotiated index setup result _ _ live fits updated =>
    have redrawn := callOnMediaUpdate_redrawn (openedBy var index setup) index result
    rw [updated, openedBy_conf] at redrawn
    exact redrawn
  | ended => exact callEnd_redrawn var _

end Calls

theorem bridgeStep_redrawn {state after : BridgeState} {event : BridgeEvent}
    (stepped : bridgeStep state event = some after) : Redrawn state.var.conf after.var.conf := by
  cases event with
  | library event =>
    obtain ⟨⟨var, reported⟩, taken, rfl⟩ := Option.map_eq_some_iff.mp stepped
    have redrawn := libraryStep_redrawn taken
    dsimp only
    split
    · exact redrawn.trans (dispatchCallMediaState_redrawn var _ _)
    · exact redrawn
  | answerCall callId =>
    cases stepped
    exact .refl _
  | hangUpCall callId ci outcome =>
    cases stepped
    have muted := confDisconnect_redrawn state.var 0 (callGetInfo state.var callId ci).2.confSlot
    have hung := muted.trans (callHangup_redrawn _ callId outcome)
    unfold hangUpCall
    dsimp only
    split <;> exact hung
  | muteCall callId ci =>
    cases stepped
    exact confDisconnect_redrawn state.var 0 _
  | unmuteCall callId ci =>
    cases stepped
    exact confConnect_redrawn state.var (.inl rfl)

theorem callbackStep_redrawn (state : MuteState) (index : Fin maxCalls) (stage : CallbackStage) :
    Redrawn state.var.conf (callbackStep state index stage).var.conf := by
  cases stage with
  | entered => exact .refl _
  | connectOut slot => exact confConnect_redrawn state.var (.inr rfl)
  | connectIn slot => exact confConnect_redrawn state.var (.inl rfl)

theorem userStep_redrawn (state : MuteState) (operation : AudioOperation) (callId slot : Int)
    (target : Option (Fin maxCalls)) : Redrawn state.var.conf (userStep state operation callId slot target).var.conf := by
  cases operation with
  | mute => exact confDisconnect_redrawn state.var 0 slot
  | hangUp => exact confDisconnect_redrawn state.var 0 slot
  | unmute => exact confConnect_redrawn state.var (.inl rfl)

theorem muteStep_redrawn {state after : MuteState} {event : MuteEvent} (stepped : muteStep state event = some after) :
    Redrawn state.var.conf after.var.conf := by
  cases event with
  | library event =>
    unfold muteStep at stepped
    dsimp only at stepped
    split at stepped
    · cases stepped
    · obtain ⟨⟨var, reported⟩, taken, rfl⟩ := Option.map_eq_some_iff.mp stepped
      exact libraryStep_redrawn taken
  | callback index =>
    obtain ⟨stage, _, rfl⟩ := Option.map_eq_some_iff.mp stepped
    exact callbackStep_redrawn state index stage
  | answerCall callId =>
    cases stepped
    exact .refl _
  | query operation callId ci =>
    unfold muteStep at stepped
    dsimp only at stepped
    split at stepped
    · cases stepped
    · cases stepped
      exact .refl _
  | update =>
    unfold muteStep at stepped
    dsimp only at stepped
    split at stepped
    · cases stepped
      exact userStep_redrawn state _ _ _ _
    · cases stepped
  | hangup outcome =>
    unfold muteStep at stepped
    dsimp only at stepped
    split at stepped
    · split at stepped
      · cases stepped
        exact callHangup_redrawn state.var _ outcome
      · cases stepped
    · cases stepped

end TiSIP.Audio
