import TiSIP.Lib.Rearrange
import TiSIP.Pjmedia.Sdp

namespace TiSIP.Pjmedia

open Rearrange

inductive SdpDir
  | none
  | encoding
  | decoding
  | encodingDecoding
  deriving DecidableEq

/-- A format matching callback that `pjmedia_sdp_neg_register_fmt_match_cb` has registered. -/
structure FmtMatchCb where
  fmtName : List UInt8
  cb : SdpMedia → Nat → SdpMedia → Nat → Bool → SdpStatus

def customFmtMatch (registered : List FmtMatchCb) (fmtName : List UInt8) (offer : SdpMedia) (oFmtIdx : Nat)
    (answer : SdpMedia) (aFmtIdx : Nat) (allowModifyAnswer : Bool) : SdpStatus :=
  match registered.find? fun f => pjStricmp fmtName f.fmtName with
  | some f => f.cb offer oFmtIdx answer aFmtIdx allowModifyAnswer
  | none => .success

section Direction

def removeAllMediaDirections (attrs : List SdpAttr) : List SdpAttr :=
  attrRemoveAll (attrRemoveAll (attrRemoveAll (attrRemoveAll attrs "inactive") "sendrecv") "sendonly") "recvonly"

def localDir (m : SdpMedia) : SdpDir :=
  if (m.findAttr2 "sendonly" none).isSome then .encoding
  else if (m.findAttr2 "recvonly" none).isSome then .decoding
  else if (m.findAttr2 "inactive" none).isSome then .none
  else .encodingDecoding

def adjustedDir (remote : SdpMedia) (oldDir : SdpDir) : SdpDir :=
  if (remote.findAttr2 "inactive" none).isSome then .none
  else if (remote.findAttr2 "sendonly" none).isSome then
    match oldDir with
    | .encodingDecoding => .decoding
    | .decoding => .decoding
    | _ => .none
  else if (remote.findAttr2 "recvonly" none).isSome then
    match oldDir with
    | .encodingDecoding => .encoding
    | .encoding => .encoding
    | _ => .none
  else oldDir

def dirAttr : SdpDir → Option SdpAttr
  | .none => some { name := pjStr "inactive", value := [] }
  | .encoding => some { name := pjStr "sendonly", value := [] }
  | .decoding => some { name := pjStr "recvonly", value := [] }
  | .encodingDecoding => none

def updateMediaDirection (remote localMed : SdpMedia) : SdpMedia :=
  let oldDir := localDir localMed
  let newDir := adjustedDir remote oldDir
  if newDir ≠ oldDir then
    let attr := removeAllMediaDirections localMed.attr
    { localMed with attr := (dirAttr newDir).elim attr (attrAdd attr) }
  else localMed

end Direction

section ProcessAnswer

variable (registered : List FmtMatchCb)

def rtpmapAnswers (or_ ar : SdpRtpmap) : Bool :=
  pjStricmp or_.encName ar.encName && or_.clockRate == ar.clockRate &&
    (pjStricmp or_.param ar.param || ar.param == pjStr "1")

def answerIndex (offer answer : SdpMedia) (i : Nat) (fmt : List UInt8) : Except SdpStatus (Option Nat) :=
  if payloadType fmt < 96 then .ok (answer.fmt.findIdx? fun other => other == fmt)
  else match offer.findAttr2 "rtpmap" (some fmt) with
    | none => .error .pjEBug
    | some a =>
      let or_ := attrGetRtpmap a
      .ok (answer.fmt.zipIdx.findIdx? fun (other, j) =>
        match answer.findAttr2 "rtpmap" (some other) with
        | none => false
        | some a => rtpmapAnswers or_ (attrGetRtpmap a) &&
            customFmtMatch registered or_.encName offer i answer j false == .success)

/-- The formats of the offer that have a match, each with its index in the answer, and the
    attributes that are left of the offer's. -/
def keepMatching (offer answer : SdpMedia) : List (List UInt8 × Nat) → List (List UInt8) → List SdpAttr →
    Except SdpStatus (List (List UInt8 × Nat) × List SdpAttr)
  | kept, [], attr => .ok (kept, attr)
  | kept, fmt :: rest, attr => do
    let current := { offer with fmt := kept.map Prod.fst ++ fmt :: rest, attr }
    match ← answerIndex registered current answer kept.length fmt with
    | some j => keepMatching offer answer (kept ++ [(fmt, j)]) rest attr
    | none => keepMatching offer answer kept rest (removeFormatAttrs attr fmt)

/-- "Remove unmatched answer formats": `priors` starts with `offer_fmt_prior[i]`. -/
def dropUnmatched : List Nat → Nat → Nat → List (List UInt8) → List SdpAttr → List (List UInt8) × List SdpAttr
  | _, _, _, [], attr => ([], attr)
  | [], i, delCnt, fmt :: rest, attr => dropUnmatched [] i (delCnt + 1) rest (removeFormatAttrs attr fmt)
  | prior :: priors, i, delCnt, fmt :: rest, attr =>
    if (prior : Int) - delCnt = i then
      let result := dropUnmatched priors (i + 1) delCnt rest attr
      (fmt :: result.1, result.2)
    else dropUnmatched (prior :: priors) i (delCnt + 1) rest (removeFormatAttrs attr fmt)

/-- `process_m_answer` where asymmetric media is not allowed: the status, and what has become of
    the offer and of the answer. -/
def processMAnswer (offer answer : SdpMedia) : SdpStatus × SdpMedia × SdpMedia :=
  if answer.media ≠ offer.media then (.sdpNegEInvAnsMedia, offer, answer)
  else if transportCmp answer.transport offer.transport ≠ .success then (.sdpNegEInvAnsTp, offer, answer)
  else if answer.port = 0 then (.success, mediaDeactivate offer, answer)
  else if offer.port = 0 then (.success, offer, answer)
  else
    let offer := updateMediaDirection answer offer
    match keepMatching registered offer answer [] offer.fmt offer.attr with
    | .error status => (status, offer, answer)
    | .ok (kept, attr) =>
      if kept = [] then (.sdpNegEAnsNoMedia, { offer with fmt := [], attr }, answer)
      else
        let sorted := exchangeSort Prod.snd kept
        let left := dropUnmatched (sorted.map Prod.snd) 0 0 answer.fmt answer.attr
        (.success, { offer with fmt := sorted.map Prod.fst, attr }, { answer with fmt := left.1, attr := left.2 })

def processLines (offer : SdpSession) : List SdpMedia → List SdpMedia →
    Except SdpStatus (List SdpMedia × List SdpMedia × Bool)
  | [], answers => .ok ([], answers, false)
  | om :: oms, [] => do
    let (offers, answers, hasActive) ← processLines offer oms []
    .ok (mediaDeactivate om :: offers, mediaCloneDeactivate om om offer :: answers, hasActive)
  | om :: oms, am :: ams =>
    match processMAnswer registered om am with
    | (.sdpNegEInvAnsMedia, om, am) => do
      -- The line of the answer is looked at again for the next line of the offer.
      let (offers, answers, hasActive) ← processLines offer oms (am :: ams)
      .ok (mediaDeactivate om :: offers, answers, hasActive)
    | (.sdpNegEAnsNoMedia, om, am) => do
      let (offers, answers, hasActive) ← processLines offer oms ams
      .ok (mediaDeactivate om :: offers, mediaDeactivate am :: answers, hasActive)
    | (.success, om, am) => do
      let (offers, answers, hasActive) ← processLines offer oms ams
      .ok (om :: offers, am :: answers, om.port != 0 || hasActive)
    | (status, _, _) => .error status

def processAnswer (offer answer : SdpSession) : SdpStatus × SdpSession × SdpSession :=
  match processLines registered offer offer.media answer.media with
  | .error status => (status, offer, answer)
  | .ok (offers, answers, hasActive) =>
    (if hasActive then .success else .sdpNegENoMedia, { offer with media := offers }, { answer with media := answers })

end ProcessAnswer

section SymmetricPt

def rewritePt (value oldPt newPt : List UInt8) : List UInt8 := newPt ++ value.drop oldPt.length

def takeRewritten (name : String) (oldPt newPt : List UInt8) (attrs : List SdpAttr × List SdpAttr) :
    List SdpAttr × List SdpAttr :=
  match attrFind attrs.1 name (some oldPt) with
  | none => attrs
  | some a =>
    (attrRemoveFound attrs.1 name oldPt, attrs.2 ++ [{ a with value := rewritePt a.value oldPt newPt }])

def rewriteFormat (attrs : List SdpAttr × List SdpAttr) (pts : List UInt8 × List UInt8) :
    List SdpAttr × List SdpAttr :=
  if pts.2 = pts.1 then attrs
  else takeRewritten "fmtp" pts.2 pts.1 (takeRewritten "rtpmap" pts.2 pts.1 attrs)

def applyAnswerSymmetricPt (answer : SdpMedia) (pts : List (List UInt8 × List UInt8)) : SdpMedia :=
  let attrs := pts.foldl rewriteFormat (answer.attr, [])
  { answer with fmt := pts.map Prod.fst, attr := attrs.2.foldl attrAdd attrs.1 }

end SymmetricPt

section MatchOffer

structure Preferences where
  preferRemoteCodecOrder : Bool
  answerWithMultipleCodecs : Bool
  deriving DecidableEq

/-- What the loop of `match_offer` has found; `pts` are `pt_offer` and `pt_answer`. -/
structure Matches where
  masterHasCodec : Bool
  masterHasOther : Bool
  foundMatchingCodec : Bool
  foundMatchingTelephoneEvent : Bool
  foundMatchingOther : Bool
  pts : List (List UInt8 × List UInt8)

def Matches.none : Matches :=
  { masterHasCodec := false, masterHasOther := false, foundMatchingCodec := false,
    foundMatchingTelephoneEvent := false, foundMatchingOther := false, pts := [] }

def rtpmapMatches (or_ lr : SdpRtpmap) : Bool :=
  pjStricmp or_.encName lr.encName && or_.clockRate == lr.clockRate &&
    (pjStricmp or_.param lr.param || (lr.param == [] && or_.param == pjStr "1") ||
      (or_.param == [] && lr.param == pjStr "1"))

def isTelephoneEvent (rtpmap : SdpRtpmap) : Bool := pjStricmp rtpmap.encName (pjStr "telephone-event")

variable (registered : List FmtMatchCb) (prefs : Preferences) (offer preanswer : SdpMedia)

def master : SdpMedia := if prefs.preferRemoteCodecOrder then offer else preanswer

def slave : SdpMedia := if prefs.preferRemoteCodecOrder then preanswer else offer

def oriented (ours theirs : List UInt8) : List UInt8 × List UInt8 :=
  if prefs.preferRemoteCodecOrder then (ours, theirs) else (theirs, ours)

def slaveFormat (i : Nat) (or_ : SdpRtpmap) (isCodec : Bool) : Option (List UInt8) :=
  let found := (slave prefs offer preanswer).fmt.zipIdx.find? fun (fmt, j) =>
    match (slave prefs offer preanswer).findAttr2 "rtpmap" (some fmt) with
    | none => false
    | some a =>
      let indices := if prefs.preferRemoteCodecOrder then (i, j) else (j, i)
      rtpmapMatches or_ (attrGetRtpmap a) && (!isCodec ||
        customFmtMatch registered or_.encName offer indices.1 preanswer indices.2 true == .success)
  found.map Prod.fst

def matchStatic (fmt : List UInt8) (found : Matches) : Matches :=
  let found := { found with masterHasCodec := true }
  if !prefs.answerWithMultipleCodecs && found.foundMatchingCodec then found
  else match (slave prefs offer preanswer).fmt.find? fun other =>
      payloadType other == payloadType fmt && isStandard other with
    | some other => { found with foundMatchingCodec := true, pts := found.pts ++ [(other, other)] }
    | none => found

def matchTelephoneEvent (i : Nat) (fmt : List UInt8) (or_ : SdpRtpmap) (found : Matches) : Matches :=
  if found.foundMatchingTelephoneEvent then found
  else match slaveFormat registered prefs offer preanswer i or_ false with
    | some other => { found with foundMatchingTelephoneEvent := true, pts := found.pts ++ [oriented prefs fmt other] }
    | none => found

def matchDynamic (i : Nat) (fmt : List UInt8) (or_ : SdpRtpmap) (found : Matches) : Matches :=
  let found := { found with masterHasCodec := true }
  if !prefs.answerWithMultipleCodecs && found.foundMatchingCodec then found
  else match slaveFormat registered prefs offer preanswer i or_ true with
    | some other => { found with foundMatchingCodec := true, pts := found.pts ++ [oriented prefs fmt other] }
    | none => found

def matchOther (fmt : List UInt8) (found : Matches) : Matches :=
  let found := { found with masterHasOther := true }
  if found.foundMatchingOther then found
  else match (slave prefs offer preanswer).fmt.find? fun other => other == fmt with
    | some other => { found with foundMatchingOther := true, pts := found.pts ++ [oriented prefs fmt other] }
    | none => found

def matchFormat (i : Nat) (fmt : List UInt8) (found : Matches) : Except SdpStatus Matches :=
  if isStandard fmt then
    if payloadType fmt < 96 then .ok (matchStatic prefs offer preanswer fmt found)
    else match (master prefs offer preanswer).findAttr2 "rtpmap" (some fmt) with
      | none => .error .sdpEMissingRtpmap
      | some a =>
        let or_ := attrGetRtpmap a
        if isTelephoneEvent or_ then .ok (matchTelephoneEvent registered prefs offer preanswer i fmt or_ found)
        else .ok (matchDynamic registered prefs offer preanswer i fmt or_ found)
  else .ok (matchOther prefs offer preanswer fmt found)

def matchFormats : Nat → List (List UInt8) → Matches → Except SdpStatus Matches
  | _, [], found => .ok found
  | i, fmt :: rest, found => do matchFormats (i + 1) rest (← matchFormat registered prefs offer preanswer i fmt found)

/-- A format that is not found among those of the answer has no outcome: the source asserts that
    this does not happen, and then writes out of the array. -/
def answerWith (pts : List (List UInt8 × List UInt8)) : Option SdpMedia := do
  let fmts ← bringForward preanswer.fmt (pts.map Prod.snd)
  let attr := (fmts.drop pts.length).foldl removeFormatAttrs preanswer.attr
  let answer := { preanswer with fmt := fmts.take pts.length, attr }
  some (updateMediaDirection offer (applyAnswerSymmetricPt answer pts))

def matchOffer (preanswerSdp : SdpSession) : Option (Except SdpStatus SdpMedia) :=
  if offer.port = 0 then some (.ok (mediaCloneDeactivate offer preanswer preanswerSdp))
  else if preanswer.port = 0 then some (.ok preanswer)
  else match matchFormats registered prefs offer preanswer 0 (master prefs offer preanswer).fmt .none with
    | .error status => some (.error status)
    | .ok found =>
      if found.masterHasCodec && !found.foundMatchingCodec then some (.error .sdpNegNoAnsCodec)
      else if found.masterHasOther && !found.foundMatchingOther then some (.error .sdpNegNoAnsUnknown)
      else (answerWith offer preanswer found.pts).map .ok

end MatchOffer

section CreateAnswer

variable (registered : List FmtMatchCb) (prefs : Preferences) (initial offer : SdpSession)

/-- The search of the initial capability for a line that answers the offered one: the status that
    is left, and the line with its index. -/
def answerLine (om : SdpMedia) (used : List Nat) : List (SdpMedia × Nat) → SdpStatus →
    Option (SdpStatus × Option (SdpMedia × Nat))
  | [], status => some (status, none)
  | (im, j) :: rest, status =>
    if om.media = im.media ∧ om.transport = im.transport ∧ j ∉ used then do
      match ← matchOffer registered prefs om im initial with
      | .ok am => some (status, some (am, j))
      | .error status => answerLine om used rest status
    else answerLine om used rest status

def answerLines : List SdpMedia → List Nat → SdpStatus → Option (SdpStatus × List SdpMedia)
  | [], _, status => some (status, [])
  | om :: oms, used, status => do
    match ← answerLine registered prefs initial om used initial.media.zipIdx status with
    | (status, some (am, j)) =>
      let (status, answers) ← answerLines oms (j :: used) status
      some (status, am :: answers)
    | (status, none) =>
      let (status, answers) ← answerLines oms used status
      some (status, mediaCloneDeactivate om om initial :: answers)

def createAnswer : Option (SdpStatus × SdpSession) :=
  let status := sdpValidate offer
  if status ≠ .success then some (status, initial)
  else do
    let (status, answers) ← answerLines registered prefs initial offer.media [] status
    let hasActive := answers.any fun am => am.port != 0
    some (if hasActive then .success else status, { initial with media := answers })

end CreateAnswer

end TiSIP.Pjmedia
