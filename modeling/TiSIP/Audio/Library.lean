import TiSIP.Audio.Calls

namespace TiSIP.Audio

open Pjmedia Pjsua Proxy Switchboard

inductive LibraryEvent
  | placeCall (index : Fin maxCalls) (session : CallSession) (setup : MediaSetup)
  | incomingCall (index : Fin maxCalls) (session : CallSession)
  | stateChanged (index : Fin maxCalls) (state : InvState)
  | offered (index : Fin maxCalls) (setup : MediaSetup)
  | negotiated (index : Fin maxCalls) (setup : Option MediaSetup) (result : Option SdpPair)
  | ended (index : Fin maxCalls)

def LibraryEvent.call : LibraryEvent → Fin maxCalls
  | placeCall index _ _ | incomingCall index _ | stateChanged index _ | offered index _ | negotiated index _ _
  | ended index => index

/-- The slot of the call is given to another call, or to none. -/
def LibraryEvent.renews : LibraryEvent → Bool
  | placeCall .. | incomingCall .. | ended _ => true
  | _ => false

/-- The provisional media fit the SDP: `pjsua_media_channel_update` asserts that there are as
    many lines, and a line gets a port only from its transport. -/
def SdpFits (channel : MediaChannel) (sdp : SdpPair) : Prop :=
  0 < sdp.lineCount ∧ sdp.lineCount ≤ channel.medProvCnt ∧
    ∀ mi, sdp.audio = some mi → (channel.mediaProv mi).tp.isSome

instance (channel : MediaChannel) (sdp : SdpPair) : Decidable (SdpFits channel sdp) :=
  inferInstanceAs (Decidable (_ ∧ _ ∧ _))

def openedBy (var : CallVar) (index : Fin maxCalls) : Option MediaSetup → CallVar
  | none => var
  | some setup => callOffered var index setup

def libraryStep (var : CallVar) : LibraryEvent → Option (CallVar × Bool)
  | .placeCall index session setup =>
    if (var.calls index).Live ∨ session.dlg.isNone ∨ session.hangingUp then none
    else
      let (channel, ready) := mediaChannelInit .reset setup
      some (setCall var index (if ready then { session, channel } else .reset), false)
  | .incomingCall index session =>
    if (var.calls index).Live ∨ session.dlg.isNone ∨ session.hangingUp then none
    else some (setCall var index { session, channel := .reset }, false)
  | .stateChanged index state =>
    match (var.calls index).session.dlg with
    | none => none
    | some dlg =>
      let session := { (var.calls index).session with inv := some { state, dlg } }
      some (setCall var index { var.calls index with session }, false)
  | .offered index setup => if (var.calls index).Live then some (callOffered var index setup, false) else none
  | .negotiated index setup result =>
    let var := openedBy var index setup
    if (var.calls index).session.inv.isSome ∧ ∀ sdp, result = some sdp → SdpFits (var.calls index).channel sdp then
      some (callOnMediaUpdate var index result)
    else none
  | .ended index => if (var.calls index).Live then some (callEnd var index, false) else none

inductive LibraryTaken (var : CallVar) : LibraryEvent → CallVar → Bool → Prop
  | placed {index : Fin maxCalls} {session : CallSession} {setup : MediaSetup} (free : ¬ (var.calls index).Live)
      (dlg : session.dlg.isSome) (quiet : session.hangingUp = false) :
      LibraryTaken var (.placeCall index session setup)
        (setCall var index { session, channel := (mediaChannelInit .reset setup).1 }) false
  | unplaced {index : Fin maxCalls} {session : CallSession} {setup : MediaSetup} (free : ¬ (var.calls index).Live) :
      LibraryTaken var (.placeCall index session setup) (setCall var index .reset) false
  | incoming {index : Fin maxCalls} {session : CallSession} (free : ¬ (var.calls index).Live)
      (quiet : session.hangingUp = false) :
      LibraryTaken var (.incomingCall index session) (setCall var index { session, channel := .reset }) false
  | stateChanged {index : Fin maxCalls} {state : InvState} {session : CallSession} (dlg : session.dlg.isSome)
      (hanging : session.hangingUp = (var.calls index).session.hangingUp) :
      LibraryTaken var (.stateChanged index state) (setCall var index { var.calls index with session }) false
  | offered {index : Fin maxCalls} {setup : MediaSetup} (live : (var.calls index).Live) :
      LibraryTaken var (.offered index setup) (callOffered var index setup) false
  | negotiated {index : Fin maxCalls} {setup : Option MediaSetup} {result : Option SdpPair} {after : CallVar}
      {reported : Bool} (live : ((openedBy var index setup).calls index).Live)
      (fits : ∀ sdp, result = some sdp → SdpFits ((openedBy var index setup).calls index).channel sdp)
      (updated : callOnMediaUpdate (openedBy var index setup) index result = (after, reported)) :
      LibraryTaken var (.negotiated index setup result) after reported
  | ended {index : Fin maxCalls} : LibraryTaken var (.ended index) (callEnd var index) false

theorem live_of_inv {call : Call} (up : call.session.inv.isSome) : call.Live := by
  unfold Call.Live CallSession.dlg
  cases held : call.session.inv with
  | none =>
    rw [held] at up
    cases up
  | some inv => rfl

theorem libraryStep_taken {var after : CallVar} {event : LibraryEvent} {reported : Bool}
    (stepped : libraryStep var event = some (after, reported)) : LibraryTaken var event after reported := by
  have starts : ∀ {index : Fin maxCalls} {session : CallSession},
      ¬ ((var.calls index).Live ∨ session.dlg.isNone ∨ session.hangingUp) →
        ¬ (var.calls index).Live ∧ session.dlg.isSome ∧ session.hangingUp = false := by
    intro index session ready
    simpa [not_or, Option.isSome_iff_ne_none] using ready
  cases event with
  | placeCall index session setup =>
    unfold libraryStep at stepped
    dsimp only at stepped
    split at stepped
    · cases stepped
    · rename_i ready
      cases stepped
      obtain ⟨free, dlg, quiet⟩ := starts ready
      split
      · exact .placed free dlg quiet
      · exact .unplaced free
  | incomingCall index session =>
    unfold libraryStep at stepped
    dsimp only at stepped
    split at stepped
    · cases stepped
    · rename_i ready
      cases stepped
      obtain ⟨free, _, quiet⟩ := starts ready
      exact .incoming free quiet
  | stateChanged index state =>
    unfold libraryStep at stepped
    dsimp only at stepped
    split at stepped
    · cases stepped
    · cases stepped
      exact .stateChanged rfl rfl
  | offered index setup =>
    unfold libraryStep at stepped
    dsimp only at stepped
    split at stepped
    · rename_i live
      cases stepped
      exact .offered live
    · cases stepped
  | negotiated index setup result =>
    unfold libraryStep at stepped
    dsimp only at stepped
    split at stepped
    · rename_i ready
      exact .negotiated (live_of_inv ready.1) ready.2 (Option.some.inj stepped)
    · cases stepped
  | ended index =>
    unfold libraryStep at stepped
    dsimp only at stepped
    split at stepped
    · cases stepped
      exact .ended
    · cases stepped

structure LibraryStepped (index : Fin maxCalls) (before after : CallVar) (reported : Bool) : Prop where
  step : CallStep index before after
  hanging : (after.calls index).session.hangingUp = true → (before.calls index).session.hangingUp = true
  reported : reported = true → (after.calls index).Live ∧ (after.calls index).session.hangingUp = false ∧
    ∀ mi, (after.calls index).channel.audioIdx = some mi →
      ∃ slot, seatOf ((after.calls index).channel.media mi) = some slot

theorem LibraryStepped.silent {index : Fin maxCalls} {before after : CallVar} (step : CallStep index before after)
    (hanging : (after.calls index).session.hangingUp = true → (before.calls index).session.hangingUp = true) :
    LibraryStepped index before after false :=
  ⟨step, hanging, fun impossible => by cases impossible⟩

theorem CallStep.trans {index : Fin maxCalls} {before middle after : CallVar} (first : CallStep index before middle)
    (second : CallStep index middle after) : CallStep index before after where
  others := fun other different => (second.others other different).trans (first.others other different)
  sound := second.sound
  free := second.free
  reseats := first.reseats.trans second.reseats

@[simp]
theorem openedBy_session (var : CallVar) (index : Fin maxCalls) (setup : Option MediaSetup) :
    ((openedBy var index setup).calls index).session = (var.calls index).session := by
  cases setup with
  | none => rfl
  | some setup =>
    unfold openedBy
    rw [callOffered_own]

theorem openedBy_stepped {index : Fin maxCalls} {var : CallVar} (setup : Option MediaSetup) (sound : AudioSound var)
    (live : ((openedBy var index setup).calls index).Live) : CallStep index var (openedBy var index setup) := by
  cases setup with
  | none => exact .refl sound
  | some setup =>
    unfold Call.Live at live
    rw [openedBy_session] at live
    exact callStep_init setup sound live

theorem callOnMediaUpdate_stepped {index : Fin maxCalls} {var : CallVar} {result : Option SdpPair}
    (sound : AudioSound var) (live : (var.calls index).Live)
    (fits : ∀ sdp, result = some sdp → SdpFits (var.calls index).channel sdp) :
    LibraryStepped index var (callOnMediaUpdate var index result).1 (callOnMediaUpdate var index result).2 := by
  cases up : (var.calls index).session.hangingUp with
  | true =>
    rw [callOnMediaUpdate_hangingUp up]
    exact .silent (.refl sound) id
  | false =>
    cases result with
    | none =>
      rw [callOnMediaUpdate_failed up]
      refine .silent (callStep_cleanUp sound live) ?_
      rw [setCall_own]
      exact id
    | some sdp =>
      rw [callOnMediaUpdate_succeeded up]
      obtain ⟨positive, counted, transport⟩ := fits sdp rfl
      have updated : ChannelUpdated index (mediaPlane var index) (mediaChannelUpdate (mediaPlane var index) sdp).1
          (mediaChannelUpdate (mediaPlane var index) sdp).2 :=
        mediaChannelUpdate_updated index (sound.channel index) (Nat.lt_of_lt_of_le positive counted) transport
      generalize mediaChannelUpdate (mediaPlane var index) sdp = after at updated
      refine ⟨callStep_update updated live, ?_, ?_⟩
      · rw [setPlane_own]
        exact id
      · intro _
        rw [setPlane_own]
        exact ⟨live, up, fun mi selected => (updated.selected mi selected).2⟩

theorem libraryStep_stepped {var after : CallVar} {event : LibraryEvent} {reported : Bool} (sound : AudioSound var)
    (stepped : libraryStep var event = some (after, reported)) : LibraryStepped event.call var after reported := by
  cases libraryStep_taken stepped with
  | @placed index session setup free dlg quiet =>
    let call : Call := { session, channel := (mediaChannelInit .reset setup).1 }
    have live : call.Live := dlg
    have channel : ChannelSound call.channel := mediaChannelInit_sound setup reset_sound
    apply LibraryStepped.silent (callStep_start sound free channel (mediaChannelInit_media _ _) fun dead => absurd live dead)
    simp [quiet, call]
  | unplaced free =>
    apply LibraryStepped.silent (callStep_start sound free reset_sound rfl fun _ => rfl)
    simp [Call.reset, CallSession.reset]
  | incoming free quiet =>
    apply LibraryStepped.silent (callStep_start sound free reset_sound rfl fun _ => rfl)
    simp [quiet]
  | stateChanged dlg hanging =>
    apply LibraryStepped.silent (callStep_session sound dlg)
    simp [LibraryEvent.call, hanging]
  | offered live =>
    apply LibraryStepped.silent (callStep_init _ sound live)
    simp
  | @negotiated index setup result _ _ live fits updated =>
    have opened := openedBy_stepped setup sound live
    have update := callOnMediaUpdate_stepped (opened.audioSound sound) live fits
    rw [updated] at update
    have hanging := update.hanging
    rw [openedBy_session] at hanging
    exact ⟨opened.trans update.step, hanging, update.reported⟩
  | ended =>
    apply LibraryStepped.silent (callStep_end sound)
    simp [LibraryEvent.call, Call.reset, CallSession.reset]

theorem libraryStep_renewed {var after : CallVar} {event : LibraryEvent} {reported : Bool}
    (stepped : libraryStep var event = some (after, reported)) (renews : event.renews = true) :
    (after.calls event.call).session.hangingUp = false ∧
      (after.calls event.call).channel.media = MediaChannel.reset.media := by
  cases libraryStep_taken stepped with
  | placed free dlg quiet =>
    unfold LibraryEvent.call
    rw [setCall_own]
    exact ⟨quiet, mediaChannelInit_media _ _⟩
  | unplaced free =>
    unfold LibraryEvent.call
    rw [setCall_own]
    exact ⟨rfl, rfl⟩
  | incoming free quiet =>
    unfold LibraryEvent.call
    rw [setCall_own]
    exact ⟨quiet, rfl⟩
  | ended =>
    unfold LibraryEvent.call
    rw [callEnd_own]
    exact ⟨rfl, rfl⟩
  | stateChanged | offered | negotiated => cases renews

end TiSIP.Audio
