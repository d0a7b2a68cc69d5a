import TiSIP.Pjmedia.NegotiatorLife
import TiSIP.Pjmedia.SdpReplies

namespace TiSIP.Pjmedia

open Transition

def SdpSession.kinds (sdp : SdpSession) : List (List UInt8) := sdp.media.map SdpMedia.media

section Lines

variable {registered : List FmtMatchCb}

theorem processMAnswer_media (offer answer : SdpMedia) : (processMAnswer registered offer answer).2.1.media = offer.media := by
  unfold processMAnswer
  split
  · rfl
  · split
    · rfl
    · split
      · rfl
      · split
        · rfl
        · dsimp only
          have line := (updateMediaDirection_line answer offer).1
          split
          · exact line
          · split
            · exact line
            · exact line

theorem processLines_kinds (session : SdpSession) (offers : List SdpMedia) {answers settled left : List SdpMedia}
    {hasActive : Bool} (run : processLines registered session offers answers = .ok (settled, left, hasActive)) :
    settled.map SdpMedia.media = offers.map SdpMedia.media := by
  induction offers generalizing answers settled left hasActive with
  | nil =>
    cases run
    rfl
  | cons om oms ih =>
    have step : ∀ {rest lines others : List SdpMedia} {active : Bool} {line : SdpMedia}, line.media = om.media →
        processLines registered session oms rest = .ok (lines, others, active) →
        (line :: lines).map SdpMedia.media = (om :: oms).map SdpMedia.media := by
      intro rest lines others active line same later
      rw [List.map_cons, List.map_cons, same, ih later]
    cases answers with
    | nil =>
      rw [processLines] at run
      cases later : processLines registered session oms [] with
      | error status =>
        rw [later] at run
        cases run
      | ok result =>
        rw [later] at run
        cases run
        exact step rfl later
    | cons am ams =>
      have kind : (processMAnswer registered om am).2.1.media = om.media := processMAnswer_media om am
      rw [processLines] at run
      split at run
      · rename_i processed
        rw [processed] at kind
        rename_i line same
        cases later : processLines registered session oms (same :: ams) with
        | error status =>
          rw [later] at run
          cases run
        | ok result =>
          rw [later] at run
          cases run
          exact step kind later
      · rename_i processed
        rw [processed] at kind
        cases later : processLines registered session oms ams with
        | error status =>
          rw [later] at run
          cases run
        | ok result =>
          rw [later] at run
          cases run
          exact step kind later
      · rename_i processed
        rw [processed] at kind
        cases later : processLines registered session oms ams with
        | error status =>
          rw [later] at run
          cases run
        | ok result =>
          rw [later] at run
          cases run
          exact step kind later
      · cases run

theorem processAnswer_kinds {offer answer settled left : SdpSession} {status : SdpStatus}
    (processed : processAnswer registered offer answer = (status, settled, left)) : settled.kinds = offer.kinds := by
  unfold processAnswer at processed
  split at processed
  · cases processed
    rfl
  · rename_i run
    cases processed
    exact processLines_kinds offer offer.media run

theorem createAnswer_kinds {prefs : Preferences} {initial offer answer : SdpSession}
    (created : createAnswer registered prefs initial offer = some (.success, answer)) : answer.kinds = offer.kinds := by
  obtain ⟨left, run⟩ := createAnswer_lines created (createAnswer_valid prefs created)
  obtain ⟨replies, lines, mirrors, -⟩ := answerLines_reflect offer.media run
  have same : List.Forall₂ (fun kind other => kind = other) (offer.media.map SdpMedia.media)
      (replies.map fun reply => reply.line.media) := by
    rw [List.forall₂_map_left_iff, List.forall₂_map_right_iff]
    exact mirrors.imp fun _ _ mirror => mirror.media.symm
  rw [List.forall₂_eq_eq_eq] at same
  unfold SdpSession.kinds
  rw [← lines, List.map_map]
  exact same.symm

theorem fixLines_kinds (sdp : SdpSession) (old lines : List SdpMedia) :
    old.map SdpMedia.media <+: (SdpNeg.fixLines sdp old lines).map SdpMedia.media := by
  induction old generalizing lines with
  | nil => exact List.nil_prefix
  | cons om old ih =>
    rw [SdpNeg.fixLines]
    split
    · rename_i nm caught
      have same : nm.media = om.media := by
        have found := List.find?_some caught
        simpa using found
      rw [List.map_cons, List.map_cons, same]
      exact (List.prefix_cons_inj _).mpr (ih _)
    · rw [List.map_cons, List.map_cons, (mediaCloneDeactivate_line om om sdp).1]
      exact (List.prefix_cons_inj _).mpr (ih _)

end Lines

namespace SdpNeg

variable {registered : List FmtMatchCb} {neg after : SdpNeg} {status : SdpStatus}

def underway (neg : SdpNeg) : Option SdpSession :=
  match neg.state with
  | .localOffer => neg.negLocalSdp
  | .remoteOffer => neg.negRemoteSdp
  | .waitNego => if neg.hasRemoteAnswer then neg.negLocalSdp else neg.negRemoteSdp
  | .done => none

def InPlace (neg : SdpNeg) : Prop :=
  ∀ active offer, neg.activeLocalSdp = some active → neg.underway = some offer → active.kinds <+: offer.kinds

/-- What was active is active with its media in the same places, or something is that has more lines. -/
def Extended (before after : SdpNeg) : Prop :=
  ∀ active, before.activeLocalSdp = some active → ∃ next, after.activeLocalSdp = some next ∧ active.kinds <+: next.kinds

def Placed (before : SdpNeg) (outcome : Outcome) : Prop :=
  match outcome.call with
  | .setRemoteOffer remote => ∀ active, before.activeLocalSdp = some active → active.kinds <+: remote.kinds
  | .modifyLocalOffer2 allowMediaChange _ => allowMediaChange = false
  | _ => True

theorem Extended.of_eq (same : after.activeLocalSdp = neg.activeLocalSdp) : Extended neg after :=
  fun active known => ⟨active, same.trans known, List.prefix_rfl⟩

theorem Extended.trans {before middle after : SdpNeg} (first : Extended before middle) (second : Extended middle after) :
    Extended before after := by
  intro active known
  obtain ⟨between, atMiddle, start⟩ := first active known
  obtain ⟨next, atEnd, rest⟩ := second between atMiddle
  exact ⟨next, atEnd, start.trans rest⟩

theorem InPlace.of_idle (idle : neg.state = .done) : InPlace neg := by
  intro active offer _ known
  simp [underway, idle] at known

theorem modifyLocalOffer2_inPlace (inPlace : InPlace neg) {sdp : SdpSession}
    (performed : neg.modifyLocalOffer2 false sdp = some (status, after)) : InPlace after ∧ Extended neg after := by
  unfold modifyLocalOffer2 at performed
  split at performed
  · cases performed
    exact ⟨inPlace, .of_eq rfl⟩
  · split at performed
    · cases performed
      exact ⟨inPlace, .of_eq rfl⟩
    · obtain ⟨old, known, made⟩ := Option.bind_eq_some_iff.mp performed
      dsimp only at made
      split at made
      · cases made
      · cases made
        refine ⟨?_, .of_eq rfl⟩
        rintro active _ current ⟨⟩
        rw [known] at current
        cases current
        exact fixLines_kinds sdp old.media sdp.media

theorem sendLocalOffer_inPlace (inPlace : InPlace neg) :
    InPlace neg.sendLocalOffer.2.2 ∧ Extended neg neg.sendLocalOffer.2.2 := by
  unfold sendLocalOffer
  split
  · split
    · exact ⟨inPlace, .of_eq rfl⟩
    · rename_i active known
      refine ⟨?_, .of_eq rfl⟩
      rintro other _ current ⟨⟩
      have same : some active = some other := known.symm.trans current
      cases same
      exact List.prefix_rfl
  · exact ⟨inPlace, .of_eq rfl⟩
  · exact ⟨inPlace, .of_eq rfl⟩

theorem setRemoteAnswer_inPlace (inPlace : InPlace neg) (remote : SdpSession) :
    InPlace (neg.setRemoteAnswer remote).2 ∧ Extended neg (neg.setRemoteAnswer remote).2 := by
  unfold setRemoteAnswer
  split
  · exact ⟨inPlace, .of_eq rfl⟩
  · rename_i state
    rw [ne_eq, not_not] at state
    refine ⟨fun active offer current known => ?_, .of_eq rfl⟩
    exact inPlace active offer current (by simpa [underway, state] using known)

theorem setRemoteOffer_inPlace (inPlace : InPlace neg) {remote : SdpSession}
    (placed : ∀ active, neg.activeLocalSdp = some active → active.kinds <+: remote.kinds) :
    InPlace (neg.setRemoteOffer remote).2 ∧ Extended neg (neg.setRemoteOffer remote).2 := by
  unfold setRemoteOffer
  split
  · exact ⟨inPlace, .of_eq rfl⟩
  · refine ⟨?_, .of_eq rfl⟩
    rintro active _ current ⟨⟩
    exact placed active current

theorem setLocalAnswer_inPlace (sound : neg.Sound) (inPlace : InPlace neg) (sdp : SdpSession) :
    InPlace (neg.setLocalAnswer sdp).2 ∧ Extended neg (neg.setLocalAnswer sdp).2 := by
  unfold setLocalAnswer
  split
  · exact ⟨inPlace, .of_eq rfl⟩
  · rename_i state
    rw [ne_eq, not_not] at state
    have atHand := sound.atHand
    rw [state] at atHand
    split
    · refine ⟨fun active offer current known => ?_, .of_eq rfl⟩
      exact inPlace active offer current (by simpa [underway, state, atHand.2.2] using known)
    · refine ⟨fun active offer current known => ?_, .of_eq rfl⟩
      exact inPlace active offer current (by simpa [underway, state, atHand.2.2] using known)

theorem cancelOffer_inPlace (inPlace : InPlace neg) : InPlace neg.cancelOffer.2 ∧ Extended neg neg.cancelOffer.2 := by
  unfold cancelOffer
  split
  · refine ⟨.of_idle rfl, fun active known => ?_⟩
    exact ⟨{ active with origin := { active.origin with version := active.origin.version + 1 } }, by simp [known],
      List.prefix_rfl⟩
  · split
    · exact ⟨.of_idle rfl, .of_eq rfl⟩
    · exact ⟨inPlace, .of_eq rfl⟩

theorem negotiateAnswer_extended (inPlace : InPlace neg) (state : neg.state = .waitNego)
    (answered : neg.hasRemoteAnswer = true) (remote : SdpSession) :
    Extended neg (neg.negotiateAnswer registered remote).2 := by
  unfold negotiateAnswer
  split
  · exact .of_eq rfl
  · rename_i offer known
    split
    · rename_i settled _ processed
      intro active current
      refine ⟨settled, rfl, ?_⟩
      rw [processAnswer_kinds processed]
      exact inPlace active offer current (by simpa [underway, state, answered] using known)
    · exact .of_eq rfl

theorem negotiateOffer_extended (inPlace : InPlace neg) (state : neg.state = .waitNego)
    (ours : neg.hasRemoteAnswer = false) {remote : SdpSession} (offered : neg.negRemoteSdp = some remote)
    (performed : neg.negotiateOffer registered remote = some (status, after)) : Extended neg after := by
  unfold negotiateOffer at performed
  split at performed
  · cases performed
    exact .of_eq rfl
  · obtain ⟨⟨result, answer⟩, created, rest⟩ := Option.bind_eq_some_iff.mp performed
    split at rest
    · rename_i same
      obtain ⟨previous, -, done⟩ := Option.bind_eq_some_iff.mp rest
      cases done
      cases same
      intro active current
      refine ⟨_, rfl, ?_⟩
      show active.kinds <+: answer.kinds
      rw [createAnswer_kinds created]
      exact inPlace active remote current (by simpa [underway, state, ours] using offered)
    · cases rest
      exact .of_eq rfl

theorem negotiate_inPlace (inPlace : InPlace neg) (performed : neg.negotiate registered = some (status, after)) :
    InPlace after ∧ Extended neg after := by
  constructor
  · rcases negotiate_moved performed with rfl | idle
    · exact inPlace
    · exact .of_idle idle
  · unfold negotiate at performed
    split at performed
    · cases performed
      exact .of_eq rfl
    · rename_i state
      rw [ne_eq, not_not] at state
      split at performed
      · cases performed
        exact .of_eq rfl
      · rename_i remote offered
        split at performed
        · rename_i answered
          have extended : Extended neg (neg.negotiateAnswer registered remote).2 :=
            negotiateAnswer_extended inPlace state answered remote
          rw [Option.some.injEq] at performed
          rw [performed] at extended
          exact extended
        · rename_i ours
          exact negotiateOffer_extended inPlace state (by simpa using ours) offered performed

theorem step_inPlace {outcome : Outcome} (sound : neg.Sound) (inPlace : InPlace neg)
    (step : guarded (Step registered) Placed neg outcome after) : InPlace after ∧ Extended neg after := by
  obtain ⟨found, call, result⟩ := outcome
  obtain ⟨placed, -, performed⟩ := step
  cases call with
  | modifyLocalOffer2 allowMediaChange sdp =>
    have same : allowMediaChange = false := placed
    rw [same] at performed
    exact modifyLocalOffer2_inPlace inPlace performed
  | sendLocalOffer =>
    cases performed
    exact sendLocalOffer_inPlace inPlace
  | setRemoteAnswer remote =>
    have kept := setRemoteAnswer_inPlace inPlace remote
    simp only [perform, Option.some.injEq] at performed
    rw [performed] at kept
    exact kept
  | setRemoteOffer remote =>
    have kept := setRemoteOffer_inPlace inPlace placed
    simp only [perform, Option.some.injEq] at performed
    rw [performed] at kept
    exact kept
  | setLocalAnswer sdp =>
    have kept := setLocalAnswer_inPlace sound inPlace sdp
    simp only [perform, Option.some.injEq] at performed
    rw [performed] at kept
    exact kept
  | cancelOffer =>
    have kept := cancelOffer_inPlace inPlace
    simp only [perform, Option.some.injEq] at performed
    rw [performed] at kept
    exact kept
  | negotiate => exact negotiate_inPlace inPlace performed
  | setPreferRemoteCodecOrder preferRemote =>
    cases performed
    exact ⟨inPlace, .of_eq rfl⟩
  | setAnswerMultipleCodecs answerMultiple =>
    cases performed
    exact ⟨inPlace, .of_eq rfl⟩

theorem Created.inPlace {Fit : SdpSession → Prop} (created : Created Fit neg) : InPlace neg := by
  have inactive : neg.activeLocalSdp = none := by
    cases created with
    | localOffer made =>
      unfold createWLocalOffer at made
      split at made
      · cases made
      · cases made
        rfl
    | remoteOffer _ _ made =>
      unfold createWRemoteOffer at made
      split at made
      · cases made
      · split at made
        · cases made
          rfl
        · split at made
          · cases made
          · cases made
            rfl
  intro active offer known
  rw [inactive] at known
  cases known

theorem run_inPlace {outcomes : List Outcome} {start final : SdpNeg} (sound : start.Sound) (inPlace : InPlace start)
    (run : Execution (guarded (Step registered) Placed) start outcomes final) :
    final.Sound ∧ InPlace final ∧ Extended start final := by
  induction run with
  | stop => exact ⟨sound, inPlace, .of_eq rfl⟩
  | next _ step ih =>
    obtain ⟨held, places, earlier⟩ := ih
    obtain ⟨kept, extended⟩ := step_inPlace held places step
    exact ⟨(step_keeps held step.2).1, kept, earlier.trans extended⟩

/-- Whatever is offered, answered, refused or taken back, a line of the active description stays where
    it is and of the type it is, and no line goes away. -/
theorem places_kept {created start final : SdpNeg} {history outcomes : List Outcome}
    (fresh : Created (fun _ => True) created)
    (past : Execution (guarded (Step registered) Placed) created history start)
    (run : Execution (guarded (Step registered) Placed) start outcomes final) : Extended start final := by
  obtain ⟨sound, inPlace, -⟩ := run_inPlace fresh.sound fresh.inPlace past
  exact (run_inPlace sound inPlace run).2.2

def widerPhone : SdpSession := { softPhone with media := whiteboard.media ++ softPhone.media }

theorem softPhone_keeps_places : ∃ start final sdp,
    start.activeLocalSdp = some sdp ∧ sdp.media.length = 1 ∧
      (∃ next, final.activeLocalSdp = some next ∧ next.media.length = 2) ∧ Extended start final := by
  have chain : ((answering.negotiate []).bind fun first => (first.2.modifyLocalOffer2 false widerPhone).bind fun second =>
      ((second.2.setRemoteAnswer widerPhone).2.negotiate []).map fun third => (first, second, third)).any
        (fun results => results.1.2.activeLocalSdp.any (fun sdp => sdp.media.length == 1) &&
          results.2.2.2.activeLocalSdp.any fun next => next.media.length == 2) = true := by decide +kernel
  obtain ⟨⟨first, second, third⟩, made, facts⟩ := (Option.any_eq_true _ _).mp chain
  obtain ⟨_, negotiated, rest⟩ := Option.bind_eq_some_iff.mp made
  obtain ⟨_, modified, last⟩ := Option.bind_eq_some_iff.mp rest
  obtain ⟨_, settled, same⟩ := Option.map_eq_some_iff.mp last
  cases same
  simp only [Bool.and_eq_true, Option.any_eq_true, beq_iff_eq] at facts
  obtain ⟨⟨sdp, active, one⟩, two⟩ := facts
  have past : Execution (guarded (Step []) Placed) answering [⟨.waitNego, .negotiate, first.1⟩] first.2 :=
    .single ⟨trivial, rfl, negotiated⟩
  have offered : Execution (guarded (Step []) Placed) first.2 [⟨_, .modifyLocalOffer2 false widerPhone, second.1⟩] second.2 :=
    .single ⟨rfl, rfl, modified⟩
  have answered : Execution (guarded (Step []) Placed) second.2 [⟨_, .setRemoteAnswer widerPhone, _⟩]
      (second.2.setRemoteAnswer widerPhone).2 := .single ⟨trivial, rfl, rfl⟩
  have agreed : Execution (guarded (Step []) Placed) (second.2.setRemoteAnswer widerPhone).2 [⟨_, .negotiate, third.1⟩]
      third.2 := .single ⟨trivial, rfl, settled⟩
  exact ⟨first.2, third.2, sdp, active, one, two,
    places_kept answering_created past ((offered.trans answered).trans agreed)⟩

end SdpNeg

end TiSIP.Pjmedia
