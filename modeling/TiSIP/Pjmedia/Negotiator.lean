import TiSIP.Pjmedia.SdpNeg

namespace TiSIP.Pjmedia

inductive SdpNegState
  | localOffer
  | remoteOffer
  | waitNego
  | done
  deriving DecidableEq

structure SdpNeg where
  state : SdpNegState
  prefs : Preferences
  hasRemoteAnswer : Bool
  answerWasRemote : Bool
  initialSdp : Option SdpSession
  initialSdpTmp : Option SdpSession
  activeLocalSdp : Option SdpSession
  activeRemoteSdp : Option SdpSession
  negLocalSdp : Option SdpSession
  negRemoteSdp : Option SdpSession
  deriving DecidableEq

namespace SdpNeg

def defaultPreferences : Preferences := { preferRemoteCodecOrder := true, answerWithMultipleCodecs := false }

def zalloc (state : SdpNegState) : SdpNeg :=
  { state, prefs := defaultPreferences, hasRemoteAnswer := false, answerWasRemote := false, initialSdp := none,
    initialSdpTmp := none, activeLocalSdp := none, activeRemoteSdp := none, negLocalSdp := none, negRemoteSdp := none }

def createWLocalOffer (sdp : SdpSession) : SdpStatus × Option SdpNeg :=
  if sdpValidate sdp ≠ .success then (sdpValidate sdp, none)
  else (.success, some { zalloc .localOffer with initialSdp := some sdp, negLocalSdp := some sdp })

def createWRemoteOffer (initial : Option SdpSession) (remote : SdpSession) : SdpStatus × Option SdpNeg :=
  if sdpValidate2 remote false ≠ .success then (sdpValidate2 remote false, none)
  else match initial with
    | none => (.success, some { zalloc .remoteOffer with negRemoteSdp := some remote })
    | some initial =>
      if sdpValidate initial ≠ .success then (sdpValidate initial, none)
      else (.success, some { zalloc .waitNego with
        initialSdp := some initial, negLocalSdp := some initial, negRemoteSdp := some remote })

def setPreferRemoteCodecOrder (neg : SdpNeg) (preferRemote : Bool) : SdpNeg :=
  { neg with prefs := { neg.prefs with preferRemoteCodecOrder := preferRemote } }

def setAnswerMultipleCodecs (neg : SdpNeg) (answerMultiple : Bool) : SdpNeg :=
  { neg with prefs := { neg.prefs with answerWithMultipleCodecs := answerMultiple } }

section ModifyLocalOffer

/-- The lines of a new offer in the places that lines of their types have in the old one. -/
def fixLines (sdp : SdpSession) : List SdpMedia → List SdpMedia → List SdpMedia
  | [], lines => lines
  | om :: old, lines =>
    match lines.find? fun nm => nm.media == om.media with
    | some nm => nm :: fixLines sdp old (lines.eraseP fun nm => nm.media == om.media)
    | none => mediaCloneDeactivate om om sdp :: fixLines sdp old lines

def addLines (sdp old : SdpSession) : List SdpMedia :=
  sdp.media ++ (old.media.drop sdp.media.length).map fun om => mediaCloneDeactivate om om sdp

def fixedOffer (allowMediaChange : Bool) (old sdp : SdpSession) : SdpSession :=
  { sdp with
    origin := { old.origin with version := old.origin.version + 1 }
    media := if allowMediaChange then addLines sdp old else fixLines sdp old.media sdp.media }

/-- Without an active description the source follows a null pointer, and a line too many is written
    out of its array: there is no outcome. -/
def modifyLocalOffer2 (neg : SdpNeg) (allowMediaChange : Bool) (sdp : SdpSession) : Option (SdpStatus × SdpNeg) :=
  if neg.state ≠ .done then some (.sdpNegEInState, neg)
  else if sdpValidate sdp ≠ .success then some (sdpValidate sdp, neg)
  else do
    let old ← neg.activeLocalSdp
    let newOffer := fixedOffer allowMediaChange old sdp
    if maxSdpMedia < newOffer.media.length then none
    else some (.success, { neg with
      state := .localOffer, initialSdpTmp := neg.initialSdp, initialSdp := some newOffer, negLocalSdp := some newOffer })

end ModifyLocalOffer

def sendLocalOffer (neg : SdpNeg) : SdpStatus × Option SdpSession × SdpNeg :=
  match neg.state with
  | .done =>
    match neg.activeLocalSdp with
    | none => (.sdpNegENoActive, none, neg)
    | some active => (.success, some active, { neg with
        state := .localOffer, negLocalSdp := some active
        initialSdpTmp := if neg.initialSdp.isSome then neg.initialSdp else neg.initialSdpTmp })
  | .localOffer => (.success, neg.negLocalSdp, neg)
  | _ => (.sdpNegEInState, none, neg)

def setRemoteAnswer (neg : SdpNeg) (remote : SdpSession) : SdpStatus × SdpNeg :=
  if neg.state ≠ .localOffer then (.sdpNegEInState, neg)
  else (.success, { neg with state := .waitNego, hasRemoteAnswer := true, negRemoteSdp := some remote })

def setRemoteOffer (neg : SdpNeg) (remote : SdpSession) : SdpStatus × SdpNeg :=
  if neg.state ≠ .done then (.sdpNegEInState, neg)
  else (.success, { neg with state := .remoteOffer, negRemoteSdp := some remote })

def setLocalAnswer (neg : SdpNeg) (sdp : SdpSession) : SdpStatus × SdpNeg :=
  if neg.state ≠ .remoteOffer then (.sdpNegEInState, neg)
  else match neg.initialSdp with
    | some initial => (.success, { neg with
        state := .waitNego, initialSdpTmp := some initial
        negLocalSdp := some { sdp with origin := { sdp.origin with id := initial.origin.id } } })
    | none => (.success, { neg with state := .waitNego, negLocalSdp := some sdp, initialSdp := some sdp })

def cancelOffer (neg : SdpNeg) : SdpStatus × SdpNeg :=
  if neg.state = .localOffer then
    (.success, { neg with
      state := .done
      -- "If we don't increment the version here, the next offer will have the same version."
      activeLocalSdp := neg.activeLocalSdp.map fun active =>
        { active with origin := { active.origin with version := active.origin.version + 1 } }
      initialSdp := neg.initialSdpTmp, initialSdpTmp := none, negLocalSdp := none, negRemoteSdp := none
      hasRemoteAnswer := false })
  else if neg.state = .remoteOffer then
    (.success, { neg with
      state := .done, initialSdpTmp := none, negLocalSdp := none, negRemoteSdp := none, hasRemoteAnswer := false })
  else (.sdpNegEInState, neg)

section Negotiate

variable (registered : List FmtMatchCb)

/-- What `pjmedia_sdp_neg_negotiate` does whatever the status is. -/
def finish (neg : SdpNeg) (status : SdpStatus) : SdpStatus × SdpNeg :=
  (status, { neg with
    state := .done, answerWasRemote := neg.hasRemoteAnswer
    initialSdp := if status = .success then neg.initialSdp else neg.initialSdpTmp
    initialSdpTmp := none, negLocalSdp := none, negRemoteSdp := none, hasRemoteAnswer := false })

def negotiateAnswer (neg : SdpNeg) (remote : SdpSession) : SdpStatus × SdpNeg :=
  match neg.negLocalSdp with
  | none => neg.finish .pjEInval
  | some offer =>
    match processAnswer registered offer remote with
    | (.success, active, answer) =>
      { neg with activeLocalSdp := some active, activeRemoteSdp := some answer }.finish .success
    | (status, _, _) => neg.finish status

def previousSdp (neg : SdpNeg) : Option SdpSession :=
  if neg.activeLocalSdp.isSome then neg.activeLocalSdp else neg.initialSdp

def negotiateOffer (neg : SdpNeg) (remote : SdpSession) : Option (SdpStatus × SdpNeg) :=
  match neg.negLocalSdp with
  | none => some (neg.finish (firstFailure [sdpValidate remote, .pjENoMem]))
  | some initial => do
    match ← createAnswer registered neg.prefs initial remote with
    | (.success, answer) =>
      let previous ← neg.previousSdp
      let numbered := { answer with origin := { answer.origin with version := previous.origin.version + 1 } }
      some ({ neg with activeLocalSdp := some numbered, activeRemoteSdp := some remote }.finish .success)
    | (status, _) => some (neg.finish status)

def negotiate (neg : SdpNeg) : Option (SdpStatus × SdpNeg) :=
  if neg.state ≠ .waitNego then some (.sdpNegEInState, neg)
  else match neg.negRemoteSdp with
    | none => some (.pjEBug, neg)
    | some remote =>
      if neg.hasRemoteAnswer then some (neg.negotiateAnswer registered remote) else neg.negotiateOffer registered remote

end Negotiate

end SdpNeg

end TiSIP.Pjmedia
