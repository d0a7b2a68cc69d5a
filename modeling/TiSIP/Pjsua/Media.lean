import TiSIP.Pjsua.CallInfo
import TiSIP.Pjmedia.Conference

namespace TiSIP.Pjsua

open Pjmedia

abbrev maxCallMedia : Nat := 16

instance : NeZero maxCallMedia := ⟨Nat.succ_ne_zero _⟩

abbrev maxConfPorts : Nat := 12

instance : NeZero maxConfPorts := ⟨Nat.succ_ne_zero _⟩

abbrev Conf := Conference maxConfPorts

inductive MediaDir
  | none
  | encoding
  | decoding
  | encodingDecoding
  deriving DecidableEq

structure CallMedia where
  state : MediaStatus
  dir : MediaDir
  tp : Option Nat
  stream : Bool
  confSlot : Int
  deriving DecidableEq

def CallMedia.zero : CallMedia where
  state := .none
  dir := .none
  tp := none
  stream := false
  confSlot := 0

structure MediaChannel where
  audioIdx : Option (Fin maxCallMedia)
  medCnt : Nat
  media : Fin maxCallMedia → CallMedia
  medProvCnt : Nat
  mediaProv : Fin maxCallMedia → CallMedia

-- `reset_call` gives `media` an invalid slot, `media_prov` keeps the zero of `pj_bzero`.
def MediaChannel.reset : MediaChannel where
  audioIdx := some 0
  medCnt := 0
  media := fun _ => { CallMedia.zero with confSlot := invalidId }
  medProvCnt := 0
  mediaProv := fun _ => .zero

structure MediaPlane where
  conf : Conf
  channel : MediaChannel

def linesBelow (count : Nat) : List (Fin maxCallMedia) :=
  (List.finRange maxCallMedia).filter fun mi => mi.val < count

def audStopStream (conf : Conf) (callMed : CallMedia) : Conf × CallMedia :=
  if callMed.stream then
    if callMed.confSlot ≠ invalidId then
      (conf.kept (conf.removePort callMed.confSlot), { callMed with stream := false, confSlot := invalidId })
    else (conf, { callMed with stream := false })
  else (conf, callMed)

def syncProv (callMed provMed : CallMedia) : CallMedia :=
  if provMed.tp = callMed.tp then
    { provMed with state := callMed.state, confSlot := callMed.confSlot, stream := callMed.stream }
  else provMed

def stopMediaStream (plane : MediaPlane) (mi : Fin maxCallMedia) : MediaPlane :=
  let channel := plane.channel
  if channel.medCnt ≤ mi then plane
  else
    let (conf, stopped) := audStopStream plane.conf (channel.media mi)
    let callMed := { stopped with state := .none }
    let provMed := if mi < channel.medProvCnt then syncProv callMed (channel.mediaProv mi) else channel.mediaProv mi
    { conf
      channel := { channel with
        media := Function.update channel.media mi callMed
        mediaProv := Function.update channel.mediaProv mi provMed } }

def mediaProvCleanUp (channel : MediaChannel) : MediaChannel :=
  let used (tp : Option Nat) : Bool := (linesBelow channel.medCnt).any fun line => (channel.media line).tp = tp
  { channel with
    mediaProv := fun mi =>
      let provMed := channel.mediaProv mi
      if mi < channel.medProvCnt && !used provMed.tp then { provMed with tp := none } else provMed
    medProvCnt := 0 }

structure MediaSetup where
  lineCount : Nat
  audio : Option (Fin maxCallMedia)
  enabled : Fin maxCallMedia → Bool
  transport : Fin maxCallMedia → Option Nat
  mediaCreated : Bool

def callMediaInit (setup : MediaSetup) :
    List (Fin maxCallMedia) → (Fin maxCallMedia → CallMedia) → (Fin maxCallMedia → CallMedia) × Bool
  | [], mediaProv => (mediaProv, true)
  | mi :: rest, mediaProv =>
    if setup.enabled mi && (mediaProv mi).tp.isNone then
      match setup.transport mi with
      | none => (mediaProv, false)
      | some tp =>
        callMediaInit setup rest (Function.update mediaProv mi { mediaProv mi with tp := some tp })
    else callMediaInit setup rest mediaProv

def provisional (channel : MediaChannel) : Fin maxCallMedia → CallMedia :=
  if channel.medCnt = 0 then channel.media
  else fun mi => if mi < channel.medCnt then channel.media mi else (mediaProvCleanUp channel).mediaProv mi

def mediaChannelInit (channel : MediaChannel) (setup : MediaSetup) : MediaChannel × Bool :=
  match setup.audio with
  | none => ({ channel with mediaProv := provisional channel, medProvCnt := channel.medCnt }, false)
  | some first =>
    let medProvCnt := max channel.medCnt (min setup.lineCount maxCallMedia)
    if medProvCnt = 0 then ({ channel with mediaProv := provisional channel, medProvCnt }, false) else
    let (mediaProv, ready) := callMediaInit setup (linesBelow medProvCnt) (provisional channel)
    let channel := { channel with mediaProv, medProvCnt }
    if ready then
      -- `audio_idx` changes here, before any negotiation.
      let channel := { channel with audioIdx := some first }
      if setup.mediaCreated then (channel, true) else (mediaProvCleanUp channel, false)
    else (mediaProvCleanUp channel, false)

inductive StreamOutcome
  | refused
  | notStarted
  | started
  deriving DecidableEq

/-- What `pjmedia_stream_info_from_sdp` and the transport make of one line. -/
structure StreamInfo where
  dir : MediaDir
  /-- another remote address, codec or codec setting than the running stream has -/
  differs : Bool
  mediaStarted : Bool
  stream : StreamOutcome

/-- The SDP pair of a successful negotiation. At most one audio line keeps a port, since
    `aud_cnt` is one and the update deactivates the others. -/
structure SdpPair where
  lineCount : Nat
  audio : Option (Fin maxCallMedia)
  info : Fin maxCallMedia → Option StreamInfo
  /-- the result of negotiating again after a line was deactivated -/
  renegotiated : Bool

/-- A rejected line is inactive and has no codec, so it differs from that of any stream. -/
def SdpPair.streamInfo (sdp : SdpPair) (mi : Fin maxCallMedia) : Option StreamInfo :=
  (sdp.info mi).map fun si =>
    if sdp.audio = some mi then si else { si with dir := .none, differs := true }

def isMediaChanged (channel : MediaChannel) (mi : Fin maxCallMedia) (si : StreamInfo) : Bool :=
  let callMed := channel.media mi
  if channel.medCnt ≤ mi then true
  else if callMed.dir ≠ si.dir then true
  else if callMed.stream then si.differs
  else si.dir ≠ .none

def setProv (plane : MediaPlane) (mi : Fin maxCallMedia) (callMed : CallMedia) : MediaPlane :=
  { plane with channel := { plane.channel with mediaProv := Function.update plane.channel.mediaProv mi callMed } }

def audChannelUpdate (plane : MediaPlane) (mi : Fin maxCallMedia) (si : StreamInfo) : MediaPlane × Bool :=
  let callMed := plane.channel.mediaProv mi
  match si.stream with
  | .refused => (plane, false)
  | .notStarted => (setProv plane mi { callMed with stream := true }, false)
  | .started =>
    match plane.conf.addPort with
    | .error _ => (setProv plane mi { callMed with stream := true }, false)
    | .ok (conf, slot) =>
      (setProv { plane with conf } mi { callMed with stream := true, confSlot := slot.val }, true)

def closeTransport (plane : MediaPlane) (mi : Fin maxCallMedia) : MediaPlane :=
  setProv plane mi { plane.channel.mediaProv mi with tp := none }

def failLine (plane : MediaPlane) (mi : Fin maxCallMedia) : MediaPlane :=
  let plane := closeTransport (stopMediaStream plane mi) mi
  setProv plane mi { plane.channel.mediaProv mi with state := .error, dir := .none }

def runningState (dir : MediaDir) : MediaStatus :=
  match dir with
  | .decoding => .remoteHold
  | _ => .active

def selectAudio (plane : MediaPlane) (mi : Fin maxCallMedia) (dir : MediaDir) : MediaPlane :=
  if plane.channel.audioIdx = none ∧ dir ≠ .none then
    { plane with channel := { plane.channel with audioIdx := some mi } }
  else plane

def restarted (plane : MediaPlane) (mi : Fin maxCallMedia) (si : StreamInfo) : MediaPlane :=
  if isMediaChanged plane.channel mi si then stopMediaStream plane mi else plane

/-- One round of the loop in `pjsua_media_channel_update`, with whether the line got media. -/
def updateLine (sdp : SdpPair) (plane : MediaPlane) (mi : Fin maxCallMedia) : MediaPlane × Bool :=
  if sdp.lineCount ≤ mi then (closeTransport (stopMediaStream plane mi) mi, false)
  else
    match sdp.streamInfo mi with
    | none => (failLine plane mi, false)
    | some si =>
      let changed := isMediaChanged plane.channel mi si
      let plane := restarted plane mi si
      if sdp.audio ≠ some mi then
        let plane := setProv plane mi { plane.channel.mediaProv mi with state := .none, dir := .none }
        (closeTransport (selectAudio plane mi si.dir) mi, false)
      else if !si.mediaStarted then (failLine plane mi, false)
      else
        let (plane, streaming) := if changed then audChannelUpdate plane mi si else (plane, true)
        if streaming then
          let plane := setProv plane mi
            { plane.channel.mediaProv mi with dir := si.dir, state := runningState si.dir }
          (selectAudio plane mi si.dir, true)
        else (failLine plane mi, false)

def updateLines (sdp : SdpPair) : List (Fin maxCallMedia) → MediaPlane → MediaPlane × Bool
  | [], plane => (plane, false)
  | mi :: rest, plane =>
    let (plane, got) := updateLine sdp plane mi
    let (plane, gotMedia) := updateLines sdp rest plane
    (plane, got || gotMedia)

inductive UpdateStatus
  | success
  | noMedia
  | renegotiationFailed
  deriving DecidableEq

def commitMedia (channel : MediaChannel) : MediaChannel :=
  { channel with
    medCnt := channel.medProvCnt
    media := fun mi => if mi < channel.medProvCnt then channel.mediaProv mi else channel.media mi }

def mediaChannelUpdate (plane : MediaPlane) (sdp : SdpPair) : MediaPlane × UpdateStatus :=
  let unselected := { plane with channel := { plane.channel with audioIdx := none } }
  let (plane, gotMedia) := updateLines sdp (linesBelow plane.channel.medProvCnt) unselected
  let plane := { plane with channel := commitMedia plane.channel }
  if gotMedia then (plane, if sdp.renegotiated then .success else .renegotiationFailed)
  else (plane, .noMedia)

def stopMediaSession (plane : MediaPlane) : MediaPlane :=
  (linesBelow plane.channel.medCnt).foldl stopMediaStream plane

end TiSIP.Pjsua
