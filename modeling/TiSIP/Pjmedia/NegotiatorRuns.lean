import TiSIP.Lib.Transition
import TiSIP.Pjmedia.Negotiator

namespace TiSIP.Pjmedia

open Transition

namespace SdpNeg

inductive Call
  | modifyLocalOffer2 (allowMediaChange : Bool) (sdp : SdpSession)
  | sendLocalOffer
  | setRemoteAnswer (remote : SdpSession)
  | setRemoteOffer (remote : SdpSession)
  | setLocalAnswer (sdp : SdpSession)
  | cancelOffer
  | negotiate
  | setPreferRemoteCodecOrder (preferRemote : Bool)
  | setAnswerMultipleCodecs (answerMultiple : Bool)
  deriving DecidableEq

variable (registered : List FmtMatchCb)

def perform (neg : SdpNeg) : Call → Option (SdpStatus × SdpNeg)
  | .modifyLocalOffer2 allowMediaChange sdp => neg.modifyLocalOffer2 allowMediaChange sdp
  | .sendLocalOffer => some (neg.sendLocalOffer.1, neg.sendLocalOffer.2.2)
  | .setRemoteAnswer remote => some (neg.setRemoteAnswer remote)
  | .setRemoteOffer remote => some (neg.setRemoteOffer remote)
  | .setLocalAnswer sdp => some (neg.setLocalAnswer sdp)
  | .cancelOffer => some neg.cancelOffer
  | .negotiate => neg.negotiate registered
  | .setPreferRemoteCodecOrder preferRemote => some (.success, neg.setPreferRemoteCodecOrder preferRemote)
  | .setAnswerMultipleCodecs answerMultiple => some (.success, neg.setAnswerMultipleCodecs answerMultiple)

structure Outcome where
  found : SdpNegState
  call : Call
  status : SdpStatus
  deriving DecidableEq

def Step (before : SdpNeg) (outcome : Outcome) (after : SdpNeg) : Prop :=
  before.state = outcome.found ∧ before.perform registered outcome.call = some (outcome.status, after)

def AtHand (neg : SdpNeg) : SdpNegState → Prop
  | .done => neg.initialSdpTmp = none ∧ neg.hasRemoteAnswer = false
  | .remoteOffer => neg.negRemoteSdp.isSome = true ∧ neg.initialSdpTmp = none ∧ neg.hasRemoteAnswer = false
  | .localOffer => neg.negLocalSdp.isSome = true ∧ neg.initialSdp.isSome = true ∧ neg.hasRemoteAnswer = false ∧
      (neg.activeLocalSdp.isSome = true → neg.initialSdpTmp.isSome = true)
  | .waitNego => neg.negLocalSdp.isSome = true ∧ neg.negRemoteSdp.isSome = true ∧ neg.initialSdp.isSome = true ∧
      (neg.activeLocalSdp.isSome = true → neg.initialSdpTmp.isSome = true)

structure Sound (neg : SdpNeg) : Prop where
  initial : neg.activeLocalSdp.isSome = true → neg.initialSdp.isSome = true
  atHand : neg.AtHand neg.state

/-- The description that comes back as the initial one if what is under way fails. -/
def restorable (neg : SdpNeg) : Option SdpSession :=
  match neg.state with
  | .done | .remoteOffer => neg.initialSdp
  | .localOffer | .waitNego => neg.initialSdpTmp

def advanced (count : Nat) (sdp : SdpSession) : SdpSession :=
  { sdp with origin := { sdp.origin with version := sdp.origin.version + count.toUInt32 } }

/-- What is in force: the active descriptions, the local one with its version raised, and the initial
    description behind what is under way. -/
structure Keeps (count : Nat) (before after : SdpNeg) : Prop where
  activeLocal : after.activeLocalSdp = before.activeLocalSdp.map (advanced count)
  activeRemote : after.activeRemoteSdp = before.activeRemoteSdp
  restorable : after.restorable = before.restorable

theorem advanced_zero (sdp : SdpSession) : advanced 0 sdp = sdp := by
  simp [advanced]

theorem advanced_add (first second : Nat) (sdp : SdpSession) :
    advanced second (advanced first sdp) = advanced (first + second) sdp := by
  simp [advanced, Nat.toUInt32, UInt32.ofNat_add, UInt32.add_assoc]

theorem Keeps.of_eq {before after : SdpNeg} (activeLocal : after.activeLocalSdp = before.activeLocalSdp)
    (activeRemote : after.activeRemoteSdp = before.activeRemoteSdp) (restorable : after.restorable = before.restorable) :
    Keeps 0 before after where
  activeLocal := by
    have same : advanced 0 = id := by
      funext sdp
      exact advanced_zero sdp
    rw [activeLocal, same, Option.map_id, id]
  activeRemote := activeRemote
  restorable := restorable

theorem Keeps.refl (neg : SdpNeg) : Keeps 0 neg neg := .of_eq rfl rfl rfl

theorem Keeps.trans {first second : Nat} {before middle after : SdpNeg} (left : Keeps first before middle)
    (right : Keeps second middle after) : Keeps (first + second) before after where
  activeLocal := by
    rw [right.activeLocal, left.activeLocal, Option.map_map]
    congr 1
    funext sdp
    exact advanced_add first second sdp
  activeRemote := right.activeRemote.trans left.activeRemote
  restorable := right.restorable.trans left.restorable

variable {registered} {neg after : SdpNeg} {status : SdpStatus}

theorem createWLocalOffer_sound {sdp : SdpSession} (created : createWLocalOffer sdp = (status, some neg)) :
    neg.Sound := by
  unfold createWLocalOffer at created
  split at created
  · cases created
  · cases created
    constructor
    · exact fun impossible => nomatch impossible
    · exact ⟨rfl, rfl, rfl, fun impossible => nomatch impossible⟩

theorem createWRemoteOffer_sound {initial : Option SdpSession} {remote : SdpSession}
    (created : createWRemoteOffer initial remote = (status, some neg)) : neg.Sound := by
  unfold createWRemoteOffer at created
  split at created
  · cases created
  · split at created
    · cases created
      constructor
      · exact fun impossible => nomatch impossible
      · exact ⟨rfl, rfl, rfl⟩
    · split at created
      · cases created
      · cases created
        constructor
        · exact fun impossible => nomatch impossible
        · exact ⟨rfl, rfl, rfl, fun impossible => nomatch impossible⟩

section Calls

theorem modifyLocalOffer2_keeps (sound : neg.Sound) {allowMediaChange : Bool} {sdp : SdpSession}
    (performed : neg.modifyLocalOffer2 allowMediaChange sdp = some (status, after)) : after.Sound ∧ Keeps 0 neg after := by
  unfold modifyLocalOffer2 at performed
  split at performed
  · cases performed
    exact ⟨sound, .refl neg⟩
  · rename_i state
    rw [ne_eq, not_not] at state
    have atHand := sound.atHand
    rw [state] at atHand
    split at performed
    · cases performed
      exact ⟨sound, .refl neg⟩
    · obtain ⟨old, active, made⟩ := Option.bind_eq_some_iff.mp performed
      dsimp only at made
      split at made
      · cases made
      · cases made
        constructor
        · exact ⟨fun _ => rfl, rfl, rfl, atHand.2, sound.initial⟩
        · exact .of_eq rfl rfl (by simp [SdpNeg.restorable, state])

theorem sendLocalOffer_keeps (sound : neg.Sound) :
    neg.sendLocalOffer.2.2.Sound ∧ Keeps 0 neg neg.sendLocalOffer.2.2 := by
  unfold sendLocalOffer
  split
  · rename_i state
    have atHand := sound.atHand
    rw [state] at atHand
    split
    · exact ⟨sound, .refl neg⟩
    · rename_i active known
      have initial := sound.initial (by rw [known]; rfl)
      constructor
      · exact ⟨fun _ => initial, rfl, initial, atHand.2, fun _ => by simp [initial]⟩
      · exact .of_eq rfl rfl (by simp [SdpNeg.restorable, state, initial])
  · exact ⟨sound, .refl neg⟩
  · exact ⟨sound, .refl neg⟩

theorem setRemoteAnswer_keeps (sound : neg.Sound) (remote : SdpSession) :
    (neg.setRemoteAnswer remote).2.Sound ∧ Keeps 0 neg (neg.setRemoteAnswer remote).2 := by
  unfold setRemoteAnswer
  split
  · exact ⟨sound, .refl neg⟩
  · rename_i state
    rw [ne_eq, not_not] at state
    have atHand := sound.atHand
    rw [state] at atHand
    constructor
    · exact ⟨sound.initial, atHand.1, rfl, atHand.2.1, atHand.2.2.2⟩
    · exact .of_eq rfl rfl (by simp [SdpNeg.restorable, state])

theorem setRemoteOffer_keeps (sound : neg.Sound) (remote : SdpSession) :
    (neg.setRemoteOffer remote).2.Sound ∧ Keeps 0 neg (neg.setRemoteOffer remote).2 := by
  unfold setRemoteOffer
  split
  · exact ⟨sound, .refl neg⟩
  · rename_i state
    rw [ne_eq, not_not] at state
    have atHand := sound.atHand
    rw [state] at atHand
    constructor
    · exact ⟨sound.initial, rfl, atHand.1, atHand.2⟩
    · exact .of_eq rfl rfl (by simp [SdpNeg.restorable, state])

theorem setLocalAnswer_keeps (sound : neg.Sound) (sdp : SdpSession) :
    (neg.setLocalAnswer sdp).2.Sound ∧ Keeps 0 neg (neg.setLocalAnswer sdp).2 := by
  unfold setLocalAnswer
  split
  · exact ⟨sound, .refl neg⟩
  · rename_i state
    rw [ne_eq, not_not] at state
    have atHand := sound.atHand
    rw [state] at atHand
    split
    · rename_i initial known
      constructor
      · exact ⟨sound.initial, rfl, atHand.1, by rw [known]; rfl, fun _ => rfl⟩
      · exact .of_eq rfl rfl (by simp [SdpNeg.restorable, state, known])
    · rename_i missing
      constructor
      · refine ⟨fun _ => rfl, rfl, atHand.1, rfl, fun active => ?_⟩
        have initial := sound.initial active
        rw [missing] at initial
        cases initial
      · exact .of_eq rfl rfl (by simp [SdpNeg.restorable, state, missing, atHand.2.1])

def withdrawal (neg : SdpNeg) : Nat := if neg.state = .localOffer then 1 else 0

theorem cancelOffer_keeps (sound : neg.Sound) : neg.cancelOffer.2.Sound ∧ Keeps neg.withdrawal neg neg.cancelOffer.2 := by
  have atHand := sound.atHand
  unfold cancelOffer withdrawal
  split
  · rename_i state
    rw [state] at atHand
    constructor
    · refine ⟨fun active => ?_, rfl, rfl⟩
      exact atHand.2.2.2 (by simpa using active)
    · constructor
      · rfl
      · rfl
      · simp [SdpNeg.restorable, state]
  · split
    · rename_i state
      exact ⟨⟨sound.initial, rfl, rfl⟩, .of_eq rfl rfl (by simp [SdpNeg.restorable, state])⟩
    · exact ⟨sound, .refl neg⟩

theorem finish_keeps (sound : neg.Sound) (state : neg.state = .waitNego) (failed : status ≠ .success) :
    (neg.finish status).2.Sound ∧ Keeps 0 neg (neg.finish status).2 := by
  have atHand := sound.atHand
  rw [state] at atHand
  constructor
  · refine ⟨fun active => ?_, rfl, rfl⟩
    simpa [finish, failed] using atHand.2.2.2 active
  · exact .of_eq rfl rfl (by simp [finish, SdpNeg.restorable, state, failed])

theorem finish_sound (state : neg.state = .waitNego) (sound : neg.Sound) (loc remote : SdpSession) :
    ({ neg with activeLocalSdp := some loc, activeRemoteSdp := some remote }.finish .success).2.Sound := by
  have atHand := sound.atHand
  rw [state] at atHand
  exact ⟨fun _ => atHand.2.2.1, rfl, rfl⟩

theorem negotiateAnswer_keeps (sound : neg.Sound) (state : neg.state = .waitNego) (remote : SdpSession) :
    (neg.negotiateAnswer registered remote).2.Sound ∧
      ((neg.negotiateAnswer registered remote).1 ≠ .success → Keeps 0 neg (neg.negotiateAnswer registered remote).2) := by
  unfold negotiateAnswer
  split
  · have kept := finish_keeps sound state (show SdpStatus.pjEInval ≠ .success by decide)
    exact ⟨kept.1, fun _ => kept.2⟩
  · split
    · exact ⟨finish_sound state sound _ _, fun failed => absurd rfl failed⟩
    · rename_i failed _
      have kept := finish_keeps sound state failed
      exact ⟨kept.1, fun _ => kept.2⟩

theorem firstFailure_noMem (status : SdpStatus) : firstFailure [status, .pjENoMem] ≠ .success := by
  unfold firstFailure
  split
  · decide
  · assumption

theorem negotiateOffer_keeps (sound : neg.Sound) (state : neg.state = .waitNego) {remote : SdpSession}
    (performed : neg.negotiateOffer registered remote = some (status, after)) :
    after.Sound ∧ (status ≠ .success → Keeps 0 neg after) := by
  unfold negotiateOffer at performed
  split at performed
  · cases performed
    have kept := finish_keeps sound state (firstFailure_noMem (sdpValidate remote))
    exact ⟨kept.1, fun _ => kept.2⟩
  · obtain ⟨⟨result, answer⟩, created, rest⟩ := Option.bind_eq_some_iff.mp performed
    split at rest
    · obtain ⟨previous, -, done⟩ := Option.bind_eq_some_iff.mp rest
      cases done
      exact ⟨finish_sound state sound _ _, fun failed => absurd rfl failed⟩
    · rename_i failed _
      cases rest
      have kept := finish_keeps sound state failed
      exact ⟨kept.1, fun _ => kept.2⟩

theorem negotiate_keeps (sound : neg.Sound) (performed : neg.negotiate registered = some (status, after)) :
    after.Sound ∧ (status ≠ .success → Keeps 0 neg after) := by
  unfold negotiate at performed
  split at performed
  · cases performed
    exact ⟨sound, fun _ => .refl neg⟩
  · rename_i state
    rw [ne_eq, not_not] at state
    split at performed
    · cases performed
      exact ⟨sound, fun _ => .refl neg⟩
    · rename_i remote known
      split at performed
      · have kept : (neg.negotiateAnswer registered remote).2.Sound ∧
            ((neg.negotiateAnswer registered remote).1 ≠ .success → Keeps 0 neg (neg.negotiateAnswer registered remote).2) :=
          negotiateAnswer_keeps sound state remote
        rw [Option.some.injEq] at performed
        rw [performed] at kept
        exact kept
      · exact negotiateOffer_keeps sound state performed

end Calls

section Runs

def Outcome.withdraws (outcome : Outcome) : Bool :=
  match outcome.found, outcome.call with
  | .localOffer, .cancelOffer => true
  | _, _ => false

def Outcome.settles (outcome : Outcome) : Prop := outcome.call = .negotiate ∧ outcome.status = .success

theorem not_withdraws {outcome : Outcome} (other : outcome.call ≠ .cancelOffer) : outcome.withdraws.toNat = 0 := by
  unfold Outcome.withdraws
  split
  · rename_i cancelled
    exact absurd cancelled other
  · rfl

theorem step_keeps {outcome : Outcome} (sound : neg.Sound) (step : Step registered neg outcome after) :
    after.Sound ∧ (¬ outcome.settles → Keeps outcome.withdraws.toNat neg after) := by
  obtain ⟨found, call, status⟩ := outcome
  obtain ⟨rfl, performed⟩ := step
  cases call with
  | modifyLocalOffer2 allowMediaChange sdp =>
    have kept := modifyLocalOffer2_keeps sound performed
    exact ⟨kept.1, fun _ => by rw [not_withdraws (by simp)]; exact kept.2⟩
  | sendLocalOffer =>
    have kept := sendLocalOffer_keeps sound
    cases performed
    exact ⟨kept.1, fun _ => by rw [not_withdraws (by simp)]; exact kept.2⟩
  | setRemoteAnswer remote =>
    have kept := setRemoteAnswer_keeps sound remote
    simp only [perform, Option.some.injEq] at performed
    rw [performed] at kept
    exact ⟨kept.1, fun _ => by rw [not_withdraws (by simp)]; exact kept.2⟩
  | setRemoteOffer remote =>
    have kept := setRemoteOffer_keeps sound remote
    simp only [perform, Option.some.injEq] at performed
    rw [performed] at kept
    exact ⟨kept.1, fun _ => by rw [not_withdraws (by simp)]; exact kept.2⟩
  | setLocalAnswer sdp =>
    have kept := setLocalAnswer_keeps sound sdp
    simp only [perform, Option.some.injEq] at performed
    rw [performed] at kept
    exact ⟨kept.1, fun _ => by rw [not_withdraws (by simp)]; exact kept.2⟩
  | cancelOffer =>
    have kept := cancelOffer_keeps sound
    simp only [perform, Option.some.injEq] at performed
    rw [performed] at kept
    refine ⟨kept.1, fun _ => ?_⟩
    have counted : Bool.toNat (Outcome.withdraws ⟨neg.state, .cancelOffer, status⟩) = neg.withdrawal := by
      unfold Outcome.withdraws withdrawal
      cases neg.state <;> rfl
    rw [counted]
    exact kept.2
  | negotiate =>
    have kept := negotiate_keeps sound performed
    refine ⟨kept.1, fun unsettled => ?_⟩
    rw [not_withdraws (by simp)]
    exact kept.2 fun success => unsettled ⟨rfl, success⟩
  | setPreferRemoteCodecOrder preferRemote =>
    cases performed
    exact ⟨⟨sound.initial, sound.atHand⟩, fun _ => by rw [not_withdraws (by simp)]; exact .of_eq rfl rfl rfl⟩
  | setAnswerMultipleCodecs answerMultiple =>
    cases performed
    exact ⟨⟨sound.initial, sound.atHand⟩, fun _ => by rw [not_withdraws (by simp)]; exact .of_eq rfl rfl rfl⟩

theorem run_sound {outcomes : List Outcome} {start final : SdpNeg} (sound : start.Sound)
    (run : Execution (Step registered) start outcomes final) : final.Sound :=
  run.invariant (fun _ _ _ held step => (step_keeps held step).1) sound

theorem run_keeps {outcomes : List Outcome} {start final : SdpNeg} (sound : start.Sound)
    (run : Execution (Step registered) start outcomes final)
    (unsettled : ∀ outcome ∈ outcomes, ¬ (outcome.call = .negotiate ∧ outcome.status = .success)) :
    Keeps (outcomes.countP Outcome.withdraws) start final := by
  induction run with
  | stop => exact .refl start
  | @next outcomes before after outcome run step ih =>
    have earlier := ih fun other member => unsettled other (List.mem_append_left _ member)
    have kept := (step_keeps (run_sound sound run) step).2 (unsettled outcome (by simp))
    have counted : (outcomes ++ [outcome]).countP Outcome.withdraws =
        outcomes.countP Outcome.withdraws + outcome.withdraws.toNat := by
      rw [List.countP_append]
      cases caught : outcome.withdraws <;> simp [caught]
    rw [counted]
    exact earlier.trans kept

end Runs

end SdpNeg

end TiSIP.Pjmedia
