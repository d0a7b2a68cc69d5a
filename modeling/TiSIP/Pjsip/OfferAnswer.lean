import TiSIP.Lib.Proposals
import TiSIP.Pjmedia.NegotiatorLife

namespace TiSIP.Pjsip

open Pjmedia

inductive InviteMethod
  | invite
  | update
  deriving DecidableEq

inductive InvMessage
  | request (method : InviteMethod) (sdp : SdpSession)
  | accepted (method : InviteMethod) (sdp : SdpSession)
  | failed
  deriving DecidableEq

structure InvSession where
  neg : Option SdpNeg
  inbox : List InvMessage

section Outgoing

variable (allowMediaChange : Bool)

/-- `pjsip_inv_update` and `pjsip_inv_reinvite` with an offer. -/
def newOffer (method : InviteMethod) (neg : SdpNeg) (offer : SdpSession) : Option (SdpNeg × Option SdpSession) :=
  if neg.state ≠ .done then
    match method with
    | .update => some (neg, none)
    -- The re-INVITE would carry the offer that is pending. Applications wait until the negotiator is done.
    | .invite => none
  else do
    let (status, neg) ← neg.modifyLocalOffer2 allowMediaChange offer
    some (neg, if status = .success then neg.negLocalSdp else none)

end Outgoing

section Incoming

/-- `inv_check_sdp_in_incoming_msg`. It is the state of the negotiator that tells an answer from an offer. -/
def checkSdp (neg : Option SdpNeg) (sdp : SdpSession) : Option (Option SdpNeg) :=
  match neg with
  | none => some (SdpNeg.createWRemoteOffer none sdp).2
  | some neg =>
    match neg.state with
    | .done => some (neg.setRemoteOffer sdp).2
    | .localOffer => do
      let (_, settled) ← (neg.setRemoteAnswer sdp).2.negotiate []
      some settled
    | _ => some neg

def rxInvite (neg : Option SdpNeg) (initial : Option SdpSession) (sdp : SdpSession) : Option SdpNeg × Option InvMessage :=
  match neg with
  | none =>
    match SdpNeg.createWRemoteOffer initial sdp with
    | (.success, made) => (made, none)
    | _ => (none, some .failed)
  | some neg =>
    -- "Send 491 if we receive re-INVITE while another offer/answer negotiation is in progress"
    if neg.state ≠ .done then (some neg, some .failed) else (some (neg.setRemoteOffer sdp).2, none)

def negotiated (method : InviteMethod) (neg : SdpNeg) : Option (SdpNeg × InvMessage) := do
  match ← neg.negotiate [] with
  | (.success, settled) => some (settled, .accepted method (← settled.activeLocalSdp))
  | (_, settled) => some (settled, .failed)

/-- `inv_respond_incoming_update`; `answer` is what the application sets when it is told of the offer. -/
def respondIncomingUpdate (neg : SdpNeg) (answer : Option SdpSession) (sdp : SdpSession) : Option (SdpNeg × InvMessage) :=
  if neg.state ≠ .done then some (neg, .failed)
  else
    let offered := (neg.setRemoteOffer sdp).2
    match answer with
    | none => some (offered.cancelOffer.2, .failed)
    | some answer => negotiated .update (offered.setLocalAnswer answer).2

/-- `process_answer` of a 2xx response to an INVITE with an offer. Without a description to answer with
    there is no outcome. -/
def processAnswer200 (neg : SdpNeg) (sdp : Option SdpSession) : Option (SdpNeg × InvMessage) :=
  match neg.state, sdp with
  | .remoteOffer, some sdp => negotiated .invite (neg.setLocalAnswer sdp).2
  | .waitNego, none => negotiated .invite neg
  | _, _ => none

def processRejection (neg : SdpNeg) : Option (SdpNeg × InvMessage) :=
  if neg.state = .remoteOffer then some (neg.cancelOffer.2, .failed) else none

def rxAccepted (method : InviteMethod) (neg : Option SdpNeg) (sdp : SdpSession) : Option (Option SdpNeg) :=
  match method with
  | .invite => checkSdp neg sdp
  | .update =>
    -- "Only process remote SDP if we have sent local offer"
    if neg.any fun neg => neg.state == .localOffer then checkSdp neg sdp else some neg

def rxFailed (neg : Option SdpNeg) : Option SdpNeg :=
  neg.map fun neg => if neg.state = .localOffer then neg.cancelOffer.2 else neg

end Incoming

section Dialog

inductive InvAction
  | offer (method : InviteMethod) (sdp : SdpSession)
  | rxInvite (initial : Option SdpSession) (sdp : SdpSession)
  | rxUpdate (answer : Option SdpSession) (sdp : SdpSession)
  | answer (sdp : Option SdpSession)
  | reject
  | rxAccepted (method : InviteMethod) (sdp : SdpSession)
  | rxFailed
  | prefer (preferRemote answerMultiple : Bool)
  deriving DecidableEq

namespace InvSession

def post (inv : InvSession) (sent : Option InvMessage) : InvSession := { inv with inbox := inv.inbox ++ sent.toList }

def take (inv : InvSession) (message : InvMessage) : Option InvSession :=
  if message ∈ inv.inbox then some { inv with inbox := inv.inbox.erase message } else none

variable (allowMediaChange : Bool)

/-- The session after an action, and the message that it sends if it sends one. A message that is read
    is any of those that are on the way. -/
def act (inv : InvSession) : InvAction → Option (InvSession × Option InvMessage)
  | .offer method sdp => do
    let (neg, offer) ← newOffer allowMediaChange method (← inv.neg) sdp
    some ({ inv with neg := some neg }, offer.map (.request method))
  | .rxInvite initial sdp => do
    let inv ← inv.take (.request .invite sdp)
    let (neg, reply) := rxInvite inv.neg initial sdp
    some ({ inv with neg }, reply)
  | .rxUpdate answer sdp => do
    let inv ← inv.take (.request .update sdp)
    let (neg, reply) ← respondIncomingUpdate (← inv.neg) answer sdp
    some ({ inv with neg := some neg }, some reply)
  | .answer sdp => do
    let (neg, reply) ← processAnswer200 (← inv.neg) sdp
    some ({ inv with neg := some neg }, some reply)
  | .reject => do
    let (neg, reply) ← processRejection (← inv.neg)
    some ({ inv with neg := some neg }, some reply)
  | .rxAccepted method sdp => do
    let inv ← inv.take (.accepted method sdp)
    some ({ inv with neg := ← rxAccepted method inv.neg sdp }, none)
  | .rxFailed => do
    let inv ← inv.take .failed
    some ({ inv with neg := rxFailed inv.neg }, none)
  | .prefer preferRemote answerMultiple => do
    let neg ← inv.neg
    some ({ inv with
      neg := some ((neg.setPreferRemoteCodecOrder preferRemote).setAnswerMultipleCodecs answerMultiple) }, none)

end InvSession

open Proposals (Side)

abbrev InvDialog : Type := Side → InvSession

def dialed (neg : SdpNeg) (offer : SdpSession) : InvDialog
  | .left => { neg := some neg, inbox := [] }
  | .right => { neg := none, inbox := [.request .invite offer] }

variable (allowMediaChange : Bool)

def InvDialog.next (dialog : InvDialog) (label : Side × InvAction) : Option InvDialog := do
  let (mine, sent) ← (dialog label.1).act allowMediaChange label.2
  some fun side => if side = label.1 then mine else (dialog side).post sent

def DialogStep (before : InvDialog) (label : Side × InvAction) (after : InvDialog) : Prop :=
  before.next allowMediaChange label = some after

end Dialog

end TiSIP.Pjsip
