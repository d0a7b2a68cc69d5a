import TiSIP.Pjmedia.Negotiator
import TiSIP.Pjmedia.SdpAgreement

namespace TiSIP.Pjmedia

open Pjlib

variable {table : Nat → Option Encoding}

def ProperSession (table : Nat → Option Encoding) (sdp : SdpSession) : Prop :=
  ∀ m ∈ sdp.media, m.port ≠ 0 → Proper table m

structure Replies (table : Nat → Option Encoding) (om am : SdpMedia) : Prop where
  media : am.media = om.media
  transport : am.transport = om.transport
  offered : am.port ≠ 0 → om.port ≠ 0
  proper : am.port ≠ 0 → Proper table am
  drawn : am.port ≠ 0 → Drawn om am
  dir : am.port ≠ 0 → ∃ capable : SdpDir, localDir am = capable.meet (localDir om).mirror

structure LinesAgree (here there : SdpMedia) : Prop where
  media : here.media = there.media
  transport : here.transport = there.transport
  port : here.port = 0 ↔ there.port = 0
  fmt : there.port ≠ 0 → here.fmt = there.fmt
  coding : there.port ≠ 0 → ∀ fmt ∈ there.fmt, here.coding fmt = there.coding fmt
  dir : there.port ≠ 0 → localDir here = (localDir there).mirror

def Agreed (here there : SdpSession) : Prop := List.Forall₂ LinesAgree here.media there.media

def SdpSession.active (sdp : SdpSession) : Bool := sdp.media.any fun m => m.port != 0

section Answerer

variable (prefs : Preferences) {initial : SdpSession}

theorem mediaCloneDeactivate_line (remMed localMed : SdpMedia) (localSess : SdpSession) :
    (mediaCloneDeactivate remMed localMed localSess).media = remMed.media ∧
      (mediaCloneDeactivate remMed localMed localSess).transport = remMed.transport ∧
      (mediaCloneDeactivate remMed localMed localSess).port = 0 := by
  unfold mediaCloneDeactivate
  dsimp only
  split <;> exact ⟨rfl, rfl, rfl⟩

theorem Replies.rejected {om am : SdpMedia} (media : am.media = om.media) (transport : am.transport = om.transport)
    (port : am.port = 0) : Replies table om am where
  media := media
  transport := transport
  offered active := absurd port active
  proper active := absurd port active
  drawn active := absurd port active
  dir active := absurd port active

theorem Replies.declined (om localMed : SdpMedia) (localSess : SdpSession) :
    Replies table om (mediaCloneDeactivate om localMed localSess) := by
  obtain ⟨media, transport, port⟩ := mediaCloneDeactivate_line om localMed localSess
  exact .rejected media transport port

variable (initial) in
theorem matchOffer_replies {om im : SdpMedia} (offered : om.port ≠ 0 → Proper table om)
    (capable : im.port ≠ 0 → Proper table im) (media : om.media = im.media) (transport : om.transport = im.transport) :
    (∃ status, matchOffer [] prefs om im initial = some (.error status)) ∨
      ∃ am, matchOffer [] prefs om im initial = some (.ok am) ∧ Replies table om am := by
  by_cases offeredPort : om.port = 0
  · right
    exact ⟨mediaCloneDeactivate om im initial, by simp [matchOffer, offeredPort], .declined om im initial⟩
  · by_cases capablePort : im.port = 0
    · right
      exact ⟨im, by simp [matchOffer, offeredPort, capablePort], .rejected media.symm transport.symm capablePort⟩
    · rcases matchOffer_spec prefs (offered offeredPort) (capable capablePort) offeredPort capablePort initial with
        refused | ⟨am, matched, answers⟩
      · exact .inl refused
      · right
        refine ⟨am, matched, ?_⟩
        constructor
        · rw [answers.media, media]
        · rw [answers.transport, transport]
        · exact fun _ => offeredPort
        · exact fun _ => answers.proper
        · exact fun _ => answers.drawn
        · exact fun _ => ⟨_, answers.dir⟩

variable (initial) in
theorem answerLine_replies {om : SdpMedia} (offered : om.port ≠ 0 → Proper table om) (used : List Nat)
    (lines : List (SdpMedia × Nat)) (capable : ∀ line ∈ lines, line.1.port ≠ 0 → Proper table line.1)
    (status : SdpStatus) :
    ∃ left found, answerLine [] prefs initial om used lines status = some (left, found) ∧
      ∀ am j, found = some (am, j) → Replies table om am := by
  induction lines generalizing status with
  | nil => exact ⟨status, none, rfl, by simp⟩
  | cons line lines ih =>
    obtain ⟨im, j⟩ := line
    have rest := ih fun other member => capable other (List.mem_cons_of_mem _ member)
    rw [answerLine]
    split
    · rename_i fits
      rcases matchOffer_replies prefs initial offered (capable _ List.mem_cons_self) fits.1 fits.2.1 with ⟨refused, matched⟩ | ⟨am, matched, replies⟩
      · simp only [matched, Option.bind_eq_bind, Option.bind_some]
        exact rest refused
      · simp only [matched, Option.bind_eq_bind, Option.bind_some]
        exact ⟨status, some (am, j), rfl, by rintro _ _ ⟨⟩; exact replies⟩
    · exact rest status

theorem answerLines_replies (capable : ProperSession table initial) (oms : List SdpMedia)
    (offered : ∀ om ∈ oms, om.port ≠ 0 → Proper table om) (used : List Nat) (status : SdpStatus) :
    ∃ left answers, answerLines [] prefs initial oms used status = some (left, answers) ∧
      List.Forall₂ (Replies table) oms answers := by
  induction oms generalizing used status with
  | nil => exact ⟨status, [], rfl, .nil⟩
  | cons om oms ih =>
    have rest := ih fun other member => offered other (List.mem_cons_of_mem _ member)
    have lines : ∀ line ∈ initial.media.zipIdx, line.1.port ≠ 0 → Proper table line.1 := by
      intro line member
      exact capable line.1 (List.fst_mem_of_mem_zipIdx member)
    obtain ⟨left, found, searched, replies⟩ :=
      answerLine_replies prefs initial (offered om List.mem_cons_self) used _ lines status
    rw [answerLines, searched]
    cases found with
    | none =>
      obtain ⟨last, answers, run, all⟩ := rest used left
      exact ⟨last, _, by simp [run], .cons (.declined om om initial) all⟩
    | some pair =>
      obtain ⟨last, answers, run, all⟩ := rest (pair.2 :: used) left
      exact ⟨last, _, by simp [run], .cons (replies pair.1 pair.2 rfl) all⟩

theorem createAnswer_valid {registered : List FmtMatchCb} {offer answer : SdpSession}
    (created : createAnswer registered prefs initial offer = some (.success, answer)) : sdpValidate offer = .success := by
  by_contra invalid
  simp [createAnswer, invalid] at created

theorem createAnswer_replies (capable : ProperSession table initial) {offer : SdpSession}
    (offered : ProperSession table offer) :
    ∃ status answer, createAnswer [] prefs initial offer = some (status, answer) ∧
      (sdpValidate offer = .success → List.Forall₂ (Replies table) offer.media answer.media) := by
  unfold createAnswer
  by_cases valid : sdpValidate offer = .success
  · obtain ⟨left, answers, run, replies⟩ :=
      answerLines_replies prefs capable offer.media offered [] (sdpValidate offer)
    rw [valid] at run
    simp only [valid, ne_eq, not_true, if_false, run, Option.bind_eq_bind, Option.bind_some]
    exact ⟨_, _, rfl, fun _ => replies⟩
  · simp only [valid, ne_eq, not_false_eq_true, if_true]
    exact ⟨_, _, rfl, fun impossible => impossible.elim⟩

end Answerer

section Offerer

theorem Replies.settled {om am : SdpMedia} (offered : om.port ≠ 0 → Proper table om) (replies : Replies table om am) :
    ∃ settled, processMAnswer [] om am = (.success, settled, am) ∧ LinesAgree settled am ∧
      (settled.port ≠ 0 → Proper table settled) := by
  by_cases port : am.port = 0
  · refine ⟨mediaDeactivate om, ?_, ?_, fun active => absurd rfl active⟩
    · simp [processMAnswer, replies.media, replies.transport, transportCmp_self, port]
    · constructor
      · exact replies.media.symm
      · exact replies.transport.symm
      · simp [mediaDeactivate, port]
      · exact fun active => absurd port active
      · exact fun active => absurd port active
      · exact fun active => absurd port active
  · have offeredPort := replies.offered port
    obtain ⟨settled, run, spec⟩ := processMAnswer_spec (offered offeredPort) (replies.proper port) (replies.drawn port)
      replies.media replies.transport offeredPort port
    refine ⟨settled, run, ?_, fun _ => spec.proper⟩
    constructor
    · rw [spec.media, replies.media]
    · rw [spec.transport, replies.transport]
    · rw [spec.port]
      simp [offeredPort, port]
    · exact fun _ => spec.fmt
    · exact fun _ => spec.codes
    · intro _
      obtain ⟨capable, dir⟩ := replies.dir port
      rw [spec.dir, dir, SdpDir.meet_mirror]

theorem processLines_agree (offer : SdpSession) {oms ams : List SdpMedia}
    (offered : ∀ om ∈ oms, om.port ≠ 0 → Proper table om) (replies : List.Forall₂ (Replies table) oms ams) :
    ∃ settled, processLines [] offer oms ams = .ok (settled, ams, ams.any fun m => m.port != 0) ∧
      List.Forall₂ LinesAgree settled ams ∧ ∀ m ∈ settled, m.port ≠ 0 → Proper table m := by
  induction replies with
  | nil => exact ⟨[], rfl, .nil, by simp⟩
  | @cons om am oms ams first _ ih =>
    obtain ⟨settled, run, agree, proper⟩ := ih fun other member => offered other (List.mem_cons_of_mem _ member)
    obtain ⟨line, lineRun, lineAgree, lineProper⟩ := first.settled (offered om List.mem_cons_self)
    have ports : (line.port != 0) = (am.port != 0) := by
      rw [Bool.eq_iff_iff, bne_iff_ne, bne_iff_ne, Ne, lineAgree.port]
    refine ⟨line :: settled, ?_, .cons lineAgree agree, ?_⟩
    · simp only [processLines, lineRun, run]
      rw [ports]
      rfl
    · intro m member
      rcases List.mem_cons.mp member with rfl | later
      · exact lineProper
      · exact proper m later

theorem processAnswer_agrees {offer answer : SdpSession} (offered : ProperSession table offer)
    (replies : List.Forall₂ (Replies table) offer.media answer.media) :
    ∃ settled, processAnswer [] offer answer =
        (if answer.active then .success else .sdpNegENoMedia, settled, answer) ∧
      settled.origin = offer.origin ∧ Agreed settled answer ∧ ProperSession table settled := by
  obtain ⟨settled, run, agree, proper⟩ := processLines_agree offer offered replies
  refine ⟨{ offer with media := settled }, ?_, rfl, agree, proper⟩
  unfold processAnswer
  rw [run]
  rfl

end Offerer

section Telephones

def rtpmapAttr (value : String) : SdpAttr := { name := pjStr "rtpmap", value := pjStr value }

def audioLine (fmt : List String) (attr : List SdpAttr) : SdpMedia :=
  { media := pjStr "audio", port := 4000, transport := pjStr "RTP/AVP", fmt := fmt.map pjStr, conn := none, attr }

def sessionOf (addr : String) (media : List SdpMedia) : SdpSession where
  origin := { user := pjStr "-", id := 1, version := 1, netType := pjStr "IN", addrType := pjStr "IP4", addr := pjStr addr }
  name := pjStr "pjmedia"
  conn := some { netType := pjStr "IN", addrType := pjStr "IP4", addr := pjStr addr }
  media

def deskPhone : SdpSession :=
  sessionOf "10.0.0.1" [audioLine ["0", "8", "101"] [rtpmapAttr "0 PCMU/8000", rtpmapAttr "8 PCMA/8000",
    rtpmapAttr "101 telephone-event/8000", { name := pjStr "sendonly", value := [] }]]

def softPhone : SdpSession :=
  sessionOf "10.0.0.2" [audioLine ["8", "0", "96"] [rtpmapAttr "8 PCMA/8000", rtpmapAttr "0 PCMU/8000",
    rtpmapAttr "96 telephone-event/8000"]]

def audioTypes : Nat → Option Encoding
  | 0 => some (pjStr "pcmu", 8000, [])
  | 8 => some (pjStr "pcma", 8000, [])
  | _ => none

theorem telephones_proper : ProperSession audioTypes deskPhone ∧ ProperSession audioTypes softPhone := by
  have desk : ∀ m ∈ deskPhone.media, Proper audioTypes m := by decide +kernel
  have soft : ∀ m ∈ softPhone.media, Proper audioTypes m := by decide +kernel
  exact ⟨fun m member _ => desk m member, fun m member _ => soft m member⟩

end Telephones

end TiSIP.Pjmedia
