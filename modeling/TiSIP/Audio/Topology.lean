import TiSIP.Lib.Transition
import TiSIP.Audio.Operations

namespace TiSIP.Audio

open Pjmedia Pjsua Proxy Switchboard Transition

/-- When `pjsua_call_get_info` reports active audio for the call, its slot and port 0 are
    connected both ways. -/
def CallWired (var : CallVar) (index : Fin maxCalls) : Prop :=
  ∀ mi, (var.calls index).channel.audioIdx = some mi → ((var.calls index).channel.media mi).state = .active →
    ∃ slot, seatOf ((var.calls index).channel.media mi) = some slot ∧ var.conf.board.Wired 0 slot

theorem callWired_unselected {var : CallVar} {index : Fin maxCalls}
    (unselected : (var.calls index).channel.audioIdx = none) : CallWired var index := by
  intro mi selected
  rw [unselected] at selected
  cases selected

theorem callWired_reset {var : CallVar} {index : Fin maxCalls}
    (media : (var.calls index).channel.media = MediaChannel.reset.media) : CallWired var index := by
  intro mi _ active
  rw [media] at active
  cases active

theorem CallWired.other {index other : Fin maxCalls} {before after : CallVar} (wired : CallWired before other)
    (stepped : CallStep index before after) (sound : AudioSound before) (different : other ≠ index) :
    CallWired after other := by
  intro mi
  rw [stepped.others other different]
  intro selected active
  obtain ⟨slot, held, both⟩ := wired mi selected active
  exact ⟨slot, held, stepped.wired sound different held both⟩

theorem CallWired.connect {var : CallVar} {index : Fin maxCalls} (wired : CallWired var index) (sink : Int) :
    CallWired (confConnect var 0 sink) index := by
  intro mi selected active
  obtain ⟨slot, held, both⟩ := wired mi selected active
  refine ⟨slot, held, ?_⟩
  rcases confConnect_board var sink with same | ⟨slot', _, connected⟩
  · rw [same]
    exact both
  · rw [connected]
    exact wired_connect both

theorem CallWired.disconnect {var : CallVar} {index : Fin maxCalls} (wired : CallWired var index)
    (sound : AudioSound var) {sink : Int}
    (elsewhere : ∀ mi, ((var.calls index).channel.media mi).confSlot ≠ sink ∨ sink = 0 ∨
      seatOf ((var.calls index).channel.media mi) = none) : CallWired (confDisconnect var 0 sink) index := by
  intro mi selected active
  obtain ⟨slot, held, both⟩ := wired mi selected active
  refine ⟨slot, held, ?_⟩
  have notHub := sound.seated.notHub (index, mi) slot held
  rcases confDisconnect_board var sink with same | ⟨slot', rfl, cut⟩
  · rw [same]
    exact both
  · rw [cut]
    refine wired_disconnect both ?_ notHub
    rintro rfl
    rcases elsewhere mi with other | hub | empty
    · exact other (seatOf_eq_some.mp held)
    · exact notHub (Fin.ext (Int.ofNat.inj hub))
    · rw [empty] at held
      cases held

/-- The conference bridge, the calls, and for each call whether `muteCall` or `hangUpCall` was
    executed on it since its last media-state callback. -/
structure BridgeState where
  var : CallVar
  touched : Fin maxCalls → Bool

inductive BridgeEvent
  | library (event : LibraryEvent)
  | answerCall (callId : Int)
  | hangUpCall (callId : Int) (ci : CallInfo) (outcome : HangupOutcome)
  | muteCall (callId : Int) (ci : CallInfo)
  | unmuteCall (callId : Int) (ci : CallInfo)

def markTouched (touched : Fin maxCalls → Bool) (callId : Int) : Fin maxCalls → Bool :=
  match SlotTable.slotOf maxCalls callId with
  | none => touched
  | some index => Function.update touched index true

/-- A media-state callback runs to its end in the step that causes it. -/
def bridgeStep (state : BridgeState) : BridgeEvent → Option BridgeState
  | .library event =>
    (libraryStep state.var event).map fun (var, reported) =>
      { var := if reported then dispatchCallMediaState var event.call.val .zero else var
        touched :=
          if reported || event.renews then Function.update state.touched event.call false else state.touched }
  -- The answer itself moves no audio; the negotiation it ends is a step of the library.
  | .answerCall _ => some state
  | .hangUpCall callId ci outcome =>
    some { var := (hangUpCall state.var callId ci outcome).2, touched := markTouched state.touched callId }
  | .muteCall callId ci =>
    some { var := muteCall state.var callId ci, touched := markTouched state.touched callId }
  | .unmuteCall callId ci => some { state with var := unmuteCall state.var callId ci }

structure BridgeTopology (state : BridgeState) : Prop where
  callsApart : ∀ first second left right source sink, first ≠ second →
    seatOf ((state.var.calls first).channel.media left) = some source →
    seatOf ((state.var.calls second).channel.media right) = some sink → ¬ state.var.conf.Transmits source sink
  streamsOnly : ∀ source sink, state.var.conf.Transmits source sink →
    HoldsStream state.var source ∧ HoldsStream state.var sink
  connected : ∀ index leftover, (state.var.calls index).Live → state.touched index = false →
    (callGetInfo state.var index.val leftover).2.mediaStatus = .active →
      ∃ slot : Fin maxConfPorts, (callGetInfo state.var index.val leftover).2.confSlot = slot.val ∧
        state.var.conf.Transmits slot 0 ∧ state.var.conf.Transmits 0 slot

/-- A media init that selects an audio line which is active though it was not selected. -/
def SelectsActiveLine (channel : MediaChannel) (setup : MediaSetup) : Prop :=
  ∃ mi, (mediaChannelInit channel setup).1.audioIdx = some mi ∧ channel.audioIdx ≠ some mi ∧
    (channel.media mi).state = .active

/-- The library steps that keep the wiring: an offer that is not negotiated selects no active
    line anew, and an update that drops surplus lines negotiates them away. -/
def LibraryKeepsWiring (var : CallVar) : LibraryEvent → Prop
  | .offered index setup | .negotiated index (some setup) none => ¬ SelectsActiveLine (var.calls index).channel setup
  | .negotiated _ _ (some sdp) => sdp.renegotiated = true
  | _ => True

/-- The steps that keep the wiring of the calls that were not muted or hung up; an identifier
    out of range must leave no stream's slot on the stack. -/
def KeepsWiring (state : BridgeState) : BridgeEvent → Prop
  | .library event => state.touched event.call = false → LibraryKeepsWiring state.var event
  | .muteCall callId ci | .hangUpCall callId ci _ =>
    SlotTable.slotOf maxCalls callId = none → ∀ slot, HoldsStream state.var slot → slot ≠ 0 → ci.confSlot ≠ slot.val
  | _ => True

structure BridgeInvariant (kept : Prop) (state : BridgeState) : Prop where
  sound : AudioSound state.var
  hanging : ∀ index, (state.var.calls index).session.hangingUp = true → state.touched index = true
  wired : kept → ∀ index, state.touched index = false → CallWired state.var index

theorem BridgeInvariant.callsApart {kept : Prop} {state : BridgeState} (invariant : BridgeInvariant kept state)
    {first second : Fin maxCalls} {left right : Fin maxCallMedia} {source sink : Fin maxConfPorts}
    (firstHeld : seatOf ((state.var.calls first).channel.media left) = some source)
    (secondHeld : seatOf ((state.var.calls second).channel.media right) = some sink) :
    ¬ state.var.conf.Transmits source sink := by
  have firstSeat : seats state.var.calls (first, left) = some source := firstHeld
  have secondSeat : seats state.var.calls (second, right) = some sink := secondHeld
  exact invariant.sound.seated.apart firstSeat secondSeat

theorem BridgeInvariant.streamsOnly {kept : Prop} {state : BridgeState} (invariant : BridgeInvariant kept state)
    {source sink : Fin maxConfPorts} (link : state.var.conf.Transmits source sink) :
    HoldsStream state.var source ∧ HoldsStream state.var sink := by
  have holds : ∀ slot, (slot = 0 ∨ ∃ line, seats state.var.calls line = some slot) → HoldsStream state.var slot := by
    intro slot used
    rcases used with hub | ⟨⟨index, mi⟩, held⟩
    · exact .inl hub
    · have line := (invariant.sound.channel index).line mi
      exact .inr ⟨index, mi, held, (line.seated (seat_valid held)).2.1⟩
  obtain ⟨sourceUsed, sinkUsed⟩ := invariant.sound.seated.ends link
  exact ⟨holds source sourceUsed, holds sink sinkUsed⟩

theorem BridgeInvariant.topology {state : BridgeState} (invariant : BridgeInvariant True state) : BridgeTopology state where
  callsApart := fun _ _ _ _ _ _ _ firstHeld secondHeld => invariant.callsApart firstHeld secondHeld
  streamsOnly := fun _ _ link => invariant.streamsOnly link
  connected := by
    intro index leftover live untouched active
    obtain ⟨status, confSlot⟩ := callGetInfo_live leftover live
    rw [status] at active
    rw [confSlot]
    unfold Call.audioInfo at active ⊢
    cases selected : (state.var.calls index).channel.audioIdx with
    | none =>
      rw [selected] at active
      cases active
    | some mi =>
      rw [selected] at active
      obtain ⟨slot, held, both⟩ := invariant.wired trivial index untouched mi selected active
      exact ⟨slot, seatOf_eq_some.mp held, both⟩

section LibrarySteps

variable {index : Fin maxCalls}

theorem callWired_offered {var : CallVar} {setup : MediaSetup} (wired : CallWired var index)
    (keeps : ¬ SelectsActiveLine (var.calls index).channel setup) : CallWired (callOffered var index setup) index := by
  intro mi
  rw [callOffered_own]
  dsimp only
  rw [mediaChannelInit_media]
  intro selected active
  by_cases before : (var.calls index).channel.audioIdx = some mi
  · exact wired mi before active
  · exact absurd ⟨mi, selected, before, active⟩ keeps

theorem mediaChannelUpdate_status {plane : MediaPlane} {sdp : SdpPair}
    (failed : (mediaChannelUpdate plane sdp).2 = .renegotiationFailed) : sdp.renegotiated = false := by
  unfold mediaChannelUpdate at failed
  dsimp only at failed
  split at failed
  · cases settled : sdp.renegotiated with
    | false => rfl
    | true =>
      rw [settled] at failed
      cases failed
  · cases failed

theorem callWired_cleanUp {var : CallVar} (wired : CallWired var index) :
    CallWired (setCall var index { var.calls index with channel := mediaProvCleanUp (var.calls index).channel })
      index := by
  intro mi
  rw [setCall_own, setCall_conf]
  exact wired mi

theorem callWired_updated {var after : CallVar} {sdp : SdpPair} (sound : AudioSound var)
    (fits : SdpFits (var.calls index).channel sdp) (quiet : (var.calls index).session.hangingUp = false)
    (settled : sdp.renegotiated = true) (updated : callOnMediaUpdate var index (some sdp) = (after, false)) :
    CallWired after index := by
  obtain ⟨positive, counted, transport⟩ := fits
  have channel : ChannelUpdated index (mediaPlane var index) (mediaChannelUpdate (mediaPlane var index) sdp).1
      (mediaChannelUpdate (mediaPlane var index) sdp).2 :=
    mediaChannelUpdate_updated index (sound.channel index) (Nat.lt_of_lt_of_le positive counted) transport
  have failed : (mediaChannelUpdate (mediaPlane var index) sdp).2 = .renegotiationFailed →
      sdp.renegotiated = false := mediaChannelUpdate_status
  rw [callOnMediaUpdate_succeeded quiet] at updated
  generalize mediaChannelUpdate (mediaPlane var index) sdp = outcome at channel failed updated
  obtain ⟨plane, status⟩ := outcome
  obtain ⟨rfl, unreported⟩ := Prod.mk.inj updated
  intro mi selected
  rw [setPlane_own] at selected
  cases status with
  | success => cases unreported
  | noMedia => exact absurd rfl (channel.selected mi selected).1
  | renegotiationFailed =>
    rw [failed rfl] at settled
    cases settled

theorem libraryStep_wired {var after : CallVar} {event : LibraryEvent} (sound : AudioSound var)
    (stepped : libraryStep var event = some (after, false)) (quiet : (var.calls event.call).session.hangingUp = false)
    (wired : CallWired var event.call) (keeps : LibraryKeepsWiring var event) : CallWired after event.call := by
  cases libraryStep_taken stepped with
  | placed | unplaced | incoming | ended => exact callWired_reset (libraryStep_renewed stepped rfl).2
  | stateChanged =>
    intro mi
    unfold LibraryEvent.call
    rw [setCall_own]
    exact wired mi
  | offered live => exact callWired_offered wired keeps
  | @negotiated index setup result _ _ live fits updated =>
    have openedQuiet : ((openedBy var index setup).calls index).session.hangingUp = false := by
      rw [openedBy_session]
      exact quiet
    cases result with
    | none =>
      rw [callOnMediaUpdate_failed openedQuiet] at updated
      cases updated
      apply callWired_cleanUp
      cases setup with
      | none => exact wired
      | some setup => exact callWired_offered wired keeps
    | some sdp =>
      have settled : sdp.renegotiated = true := by
        cases setup with
        | none => exact keeps
        | some setup => exact keeps
      have opened := (openedBy_stepped setup sound live).audioSound sound
      exact callWired_updated opened (fits sdp rfl) openedQuiet settled updated

theorem callWired_connects {var : CallVar} {mi : Fin maxCallMedia} {slot : Fin maxConfPorts}
    (sound : AudioSound var) (selected : (var.calls index).channel.audioIdx = some mi)
    (held : seatOf ((var.calls index).channel.media mi) = some slot) :
    CallWired (confConnect (confConnect var slot.val 0) 0 slot.val) index := by
  intro other selectedOther _
  have same : other = mi := Option.some.inj (selectedOther.symm.trans selected)
  rw [same]
  refine ⟨slot, held, ?_⟩
  have first : (confConnect var slot.val 0).conf.board = var.conf.board.connect slot 0 :=
    Conference.board_connectPort var.conf slot 0
  have second : (confConnect (confConnect var slot.val 0) 0 slot.val).conf.board =
      (var.conf.board.connect slot 0).connect 0 slot := by
    rw [← first]
    exact Conference.board_connectPort (confConnect var slot.val 0).conf 0 slot
  rw [second]
  exact wired_of_connects sound.seated.hubPlugged (sound.seated.plugged (index, mi) slot held)

end LibrarySteps

section Steps

variable {kept : Prop} {state : BridgeState} {index : Fin maxCalls}

theorem BridgeInvariant.callStep {after : CallVar} {touched : Fin maxCalls → Bool}
    (invariant : BridgeInvariant kept state) (stepped : CallStep index state.var after)
    (marks : ∀ other, other ≠ index → touched other = state.touched other)
    (hanging : (after.calls index).session.hangingUp = true → touched index = true)
    (wired : kept → touched index = false → CallWired after index) : BridgeInvariant kept { var := after, touched } where
  sound := stepped.audioSound invariant.sound
  hanging := by
    intro other
    by_cases same : other = index
    · subst same
      exact hanging
    · rw [stepped.others other same]
      exact fun up => (marks other same).trans (invariant.hanging other up)
  wired := by
    intro keeps other untouched
    by_cases same : other = index
    · subst same
      exact wired keeps untouched
    · have before := invariant.wired keeps other ((marks other same).symm.trans untouched)
      exact before.other stepped invariant.sound same

theorem BridgeInvariant.remark {touched : Fin maxCalls → Bool} (invariant : BridgeInvariant kept state)
    (marks : ∀ other, other ≠ index → touched other = state.touched other)
    (hanging : (state.var.calls index).session.hangingUp = true → touched index = true)
    (wired : kept → touched index = false → CallWired state.var index) :
    BridgeInvariant kept { state with touched } :=
  invariant.callStep (.refl invariant.sound) marks hanging wired

theorem BridgeInvariant.connected {slot : Fin maxConfPorts} (invariant : BridgeInvariant kept state) :
    BridgeInvariant kept { state with var := confConnect (confConnect state.var slot.val 0) 0 slot.val } := by
  have first : (confConnect state.var slot.val 0).conf.board = state.var.conf.board.connect slot 0 :=
    Conference.board_connectPort state.var.conf slot 0
  have firstSound : AudioSound (confConnect state.var slot.val 0) := by
    refine invariant.sound.of_board rfl ?_
    rw [first]
    exact invariant.sound.seated.connect (.inr rfl)
  refine ⟨firstSound.connect slot.val, invariant.hanging, ?_⟩
  intro keeps other untouched
  have wired : CallWired (confConnect state.var slot.val 0) other := by
    intro mi selected active
    obtain ⟨held, seat, both⟩ := invariant.wired keeps other untouched mi selected active
    refine ⟨held, seat, ?_⟩
    rw [first]
    exact wired_connect both
  exact wired.connect slot.val

theorem BridgeInvariant.dispatched {touched : Fin maxCalls → Bool} (invariant : BridgeInvariant kept state)
    (live : (state.var.calls index).Live) (quiet : (state.var.calls index).session.hangingUp = false)
    (marks : ∀ other, other ≠ index → touched other = state.touched other)
    (seated : ∀ mi, (state.var.calls index).channel.audioIdx = some mi →
      ∃ slot, seatOf ((state.var.calls index).channel.media mi) = some slot) :
    BridgeInvariant kept { var := dispatchCallMediaState state.var index.val .zero, touched } := by
  have notUp : (state.var.calls index).session.hangingUp = true → touched index = true := by
    intro up
    rw [quiet] at up
    cases up
  cases selected : (state.var.calls index).channel.audioIdx with
  | none =>
    rw [dispatched_unselected live selected]
    exact invariant.remark marks notUp fun _ _ => callWired_unselected selected
  | some mi =>
    obtain ⟨slot, held⟩ := seated mi selected
    rw [dispatched_cases state.var live selected held]
    split
    · have wired := callWired_connects invariant.sound selected held
      exact invariant.connected.remark marks notUp fun _ _ => wired
    · rename_i inactive
      refine invariant.remark marks notUp fun _ _ => ?_
      intro other selectedOther active
      rw [Option.some.inj (selectedOther.symm.trans selected)] at active
      exact absurd active inactive

theorem markTouched_of_true {touched : Fin maxCalls → Bool} {callId : Int} {other : Fin maxCalls}
    (marked : touched other = true) : markTouched touched callId other = true := by
  unfold markTouched
  cases SlotTable.slotOf maxCalls callId with
  | none => exact marked
  | some index =>
    by_cases same : other = index
    · simp [same]
    · simp [same, marked]

theorem markTouched_eq_false {touched : Fin maxCalls → Bool} {callId : Int} {other : Fin maxCalls}
    (unmarked : markTouched touched callId other = false) : touched other = false ∧ callId ≠ other.val := by
  have before : touched other = false := by
    cases marked : touched other with
    | false => rfl
    | true =>
      rw [markTouched_of_true marked] at unmarked
      cases unmarked
  refine ⟨before, ?_⟩
  rintro rfl
  unfold markTouched at unmarked
  rw [SlotTable.slotOf_val] at unmarked
  dsimp only at unmarked
  rw [Function.update_self] at unmarked
  cases unmarked

theorem BridgeInvariant.muted {callId : Int} {ci : CallInfo} (invariant : BridgeInvariant kept state)
    (keeps : kept → SlotTable.slotOf maxCalls callId = none →
      ∀ slot, HoldsStream state.var slot → slot ≠ 0 → ci.confSlot ≠ slot.val) :
    BridgeInvariant kept { var := muteCall state.var callId ci, touched := markTouched state.touched callId } := by
  refine ⟨invariant.sound.disconnect _, ?_, ?_⟩
  · exact fun other up => markTouched_of_true (invariant.hanging other up)
  · intro keeping other untouched
    obtain ⟨before, different⟩ := markTouched_eq_false untouched
    have elsewhere := queried_elsewhere invariant.sound (keeps keeping) different
    exact (invariant.wired keeping other before).disconnect invariant.sound elsewhere

theorem BridgeInvariant.unmuted {callId : Int} {ci : CallInfo} (invariant : BridgeInvariant kept state) :
    BridgeInvariant kept { state with var := unmuteCall state.var callId ci } :=
  ⟨invariant.sound.connect _, invariant.hanging,
    fun keeping other untouched => (invariant.wired keeping other untouched).connect _⟩

theorem BridgeInvariant.hungUp {callId : Int} {outcome : HangupOutcome} (invariant : BridgeInvariant kept state)
    (marked : ∀ index : Fin maxCalls, callId = index.val → state.touched index = true) :
    BridgeInvariant kept { state with var := (callHangup state.var callId outcome).2 } := by
  rcases slotOf_none_or callId maxCalls with outside | ⟨index, rfl⟩
  · rw [callHangup_outside outside]
    exact invariant
  · refine invariant.callStep (callHangup_step invariant.sound index outcome) (fun _ _ => rfl)
      (fun _ => marked index rfl) ?_
    intro _ untouched
    have unmarked : state.touched index = false := untouched
    rw [marked index rfl] at unmarked
    cases unmarked

end Steps

theorem bridgeStep_invariant {kept : Prop} {state after : BridgeState} {event : BridgeEvent}
    (invariant : BridgeInvariant kept state) (keeps : kept → KeepsWiring state event)
    (stepped : bridgeStep state event = some after) : BridgeInvariant kept after := by
  cases event with
  | library event =>
    obtain ⟨⟨var, reported⟩, ran, rfl⟩ := Option.map_eq_some_iff.mp stepped
    have library := libraryStep_stepped invariant.sound ran
    dsimp only
    cases reported with
    | true =>
      obtain ⟨live, quiet, seated⟩ := library.reported rfl
      have exempt : BridgeInvariant kept { var, touched := Function.update state.touched event.call true } := by
        apply invariant.callStep library.step (fun _ different => Function.update_of_ne different _ _)
        · exact fun _ => Function.update_self _ _ _
        · intro _ impossible
          rw [Function.update_self] at impossible
          cases impossible
      refine exempt.dispatched live quiet ?_ seated
      intro other different
      simp [different]
    | false =>
      cases renews : event.renews with
      | true =>
        obtain ⟨quiet, media⟩ := libraryStep_renewed ran renews
        apply invariant.callStep library.step (fun _ different => Function.update_of_ne different _ _)
        · intro up
          have stillUp : (var.calls event.call).session.hangingUp = true := up
          rw [quiet] at stillUp
          cases stillUp
        · exact fun _ _ => callWired_reset media
      | false =>
        apply invariant.callStep library.step (fun _ _ => rfl)
        · exact fun up => invariant.hanging event.call (library.hanging up)
        · intro keeping untouched
          have unmarked : state.touched event.call = false := untouched
          have quiet : (state.var.calls event.call).session.hangingUp = false := by
            apply Bool.eq_false_iff.mpr
            intro up
            rw [invariant.hanging event.call up] at unmarked
            cases unmarked
          exact libraryStep_wired invariant.sound ran quiet (invariant.wired keeping event.call unmarked)
            (keeps keeping unmarked)
  | answerCall callId =>
    cases stepped
    exact invariant
  | hangUpCall callId ci outcome =>
    cases stepped
    have muted : BridgeInvariant kept
        { var := muteCall state.var callId ci, touched := markTouched state.touched callId } := invariant.muted keeps
    have same : (hangUpCall state.var callId ci outcome).2 =
        (callHangup (muteCall state.var callId ci) callId outcome).2 := by
      unfold hangUpCall
      dsimp only
      split <;> rfl
    rw [same]
    apply muted.hungUp
    rintro index rfl
    show markTouched state.touched index.val index = true
    cases marked : markTouched state.touched index.val index with
    | true => rfl
    | false => exact absurd rfl (markTouched_eq_false marked).2
  | muteCall callId ci =>
    cases stepped
    exact invariant.muted keeps
  | unmuteCall callId ci =>
    cases stepped
    exact invariant.unmuted

def startBridge : BridgeState where
  var := startVar
  touched := fun _ => false

theorem startBridge_invariant (kept : Prop) : BridgeInvariant kept startBridge where
  sound := startVar_sound
  hanging := by
    intro index up
    cases up
  wired := fun _ index _ => callWired_reset rfl

def BridgeStep (before : BridgeState) (event : BridgeEvent) (after : BridgeState) : Prop :=
  bridgeStep before event = some after

/-- In every run, whatever its steps, calls stay apart and only existing streams are connected. -/
theorem bridge_apart {events : List BridgeEvent} {state : BridgeState}
    (run : Execution BridgeStep startBridge events state) : BridgeInvariant False state :=
  run.invariant (fun _ _ _ before stepped => bridgeStep_invariant before False.elim stepped)
    (startBridge_invariant False)

theorem bridge_topology {events : List BridgeEvent} {state : BridgeState}
    (run : Execution (guarded BridgeStep KeepsWiring) startBridge events state) : BridgeTopology state := by
  have invariant : BridgeInvariant True state :=
    run.invariant (fun _ _ _ before stepped => bridgeStep_invariant before (fun _ => stepped.1) stepped.2)
      (startBridge_invariant True)
  exact invariant.topology

def sampleSession : CallSession where
  accId := 0
  inv := none
  asyncDlg := some { remoteInfo := [], remoteContact := none, callId := [] }
  lastCode := 0
  hangingUp := false

def audioOffer (transport : Nat) : MediaSetup where
  lineCount := 1
  audio := some 0
  enabled := fun mi => mi = 0
  transport := fun _ => some transport
  mediaCreated := true

def audioPair (dir : MediaDir) : SdpPair where
  lineCount := 1
  audio := some 0
  info := fun _ => some { dir, differs := false, mediaStarted := true, stream := .started }
  renegotiated := true

def answeredCall : List BridgeEvent :=
  [.library (.placeCall 0 sampleSession (audioOffer 7)), .library (.stateChanged 0 .calling),
    .library (.negotiated 0 none (some (audioPair .encodingDecoding))), .library (.stateChanged 0 .confirmed)]

theorem answered_call_topology :
    ∃ state, answeredCall.foldlM bridgeStep startBridge = some state ∧ BridgeTopology state := by
  have ran : (answeredCall.foldlM bridgeStep startBridge).isSome := by decide
  obtain ⟨state, ended⟩ := Option.isSome_iff_exists.mp ran
  refine ⟨state, ended, bridge_topology ((Execution.of_foldlM bridgeStep answeredCall ended).guarded ?_)⟩
  intro event member before
  simp only [answeredCall, List.mem_cons, List.not_mem_nil, or_false] at member
  rcases member with rfl | rfl | rfl | rfl
  · exact fun _ => trivial
  · exact fun _ => trivial
  · exact fun _ => rfl
  · exact fun _ => trivial

def rejectedOffer : List BridgeEvent :=
  answeredCall ++ [.library (.negotiated 0 (some (audioOffer 7)) (some (audioPair .none))),
    .library (.negotiated 0 (some (audioOffer 7)) none)]

theorem rejected_offer_unwired :
    ∃ state, Execution BridgeStep startBridge rejectedOffer state ∧ ¬ BridgeTopology state := by
  have ran : (rejectedOffer.foldlM bridgeStep startBridge).isSome := by decide
  have reported : (rejectedOffer.foldlM bridgeStep startBridge).all fun state =>
      (state.var.calls 0).Live ∧ state.touched 0 = false ∧
        (callGetInfo state.var 0 .zero).2.mediaStatus = .active ∧
        (callGetInfo state.var 0 .zero).2.confSlot = 1 ∧ ¬ state.var.conf.Transmits 0 1 := by decide
  obtain ⟨state, ended⟩ := Option.isSome_iff_exists.mp ran
  refine ⟨state, Execution.of_foldlM bridgeStep rejectedOffer ended, ?_⟩
  intro topology
  rw [ended] at reported
  obtain ⟨live, untouched, active, confSlot, silent⟩ := of_decide_eq_true reported
  obtain ⟨slot, named, _, heard⟩ := topology.connected 0 .zero live untouched active
  have same : slot = 1 := Fin.ext (Int.ofNat.inj (named.symm.trans confSlot))
  rw [same] at heard
  exact silent heard

end TiSIP.Audio
