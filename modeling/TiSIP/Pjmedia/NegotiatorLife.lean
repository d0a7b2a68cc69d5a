import TiSIP.Pjmedia.NegotiatorRuns
import TiSIP.Pjmedia.SdpExchange

namespace TiSIP.Pjmedia

open Transition

namespace SdpNeg

inductive Created (Fit : SdpSession → Prop) : SdpNeg → Prop
  | localOffer {sdp : SdpSession} {status : SdpStatus} {neg : SdpNeg} :
      createWLocalOffer sdp = (status, some neg) → Created Fit neg
  | remoteOffer {initial : Option SdpSession} {remote : SdpSession} {status : SdpStatus} {neg : SdpNeg} :
      Fit remote → (∀ sdp, initial = some sdp → Fit sdp) → createWRemoteOffer initial remote = (status, some neg) →
        Created Fit neg

theorem Created.sound {Fit : SdpSession → Prop} {neg : SdpNeg} (created : Created Fit neg) : neg.Sound := by
  cases created with
  | localOffer made => exact createWLocalOffer_sound made
  | remoteOffer _ _ made => exact createWRemoteOffer_sound made

section Force

variable {registered : List FmtMatchCb} {created start final : SdpNeg} {history outcomes : List Outcome}

/-- Until a negotiation succeeds, what is in force stays as it is, but for the version of the active
    local description, which counts the offers that were withdrawn. -/
theorem force_kept_until_success (fresh : Created (fun _ => True) created) (past : Execution (Step registered) created history start)
    (run : Execution (Step registered) start outcomes final)
    (unsettled : ∀ outcome ∈ outcomes, ¬ (outcome.call = .negotiate ∧ outcome.status = .success)) :
    Keeps (outcomes.countP Outcome.withdraws) start final :=
  run_keeps (run_sound fresh.sound past) run unsettled

def answering : SdpNeg :=
  { zalloc .waitNego with initialSdp := some softPhone, negLocalSdp := some softPhone, negRemoteSdp := some deskPhone }

theorem answering_created : Created (fun _ => True) answering :=
  .remoteOffer trivial (fun _ _ => trivial)
    (show createWRemoteOffer (some softPhone) deskPhone = (.success, some answering) by decide +kernel)

theorem answering_negotiates : ∃ start sdp, Step [] answering ⟨.waitNego, .negotiate, .success⟩ start ∧
    start.state = .done ∧ start.activeLocalSdp = some sdp := by
  have returned : (answering.negotiate []).any (fun result => result.1 == .success && result.2.state == .done &&
      result.2.activeLocalSdp.isSome) = true := by decide +kernel
  obtain ⟨⟨status, start⟩, negotiated, facts⟩ := (Option.any_eq_true _ _).mp returned
  simp only [Bool.and_eq_true, beq_iff_eq, Option.isSome_iff_exists] at facts
  obtain ⟨⟨rfl, state⟩, sdp, known⟩ := facts
  exact ⟨start, sdp, ⟨rfl, negotiated⟩, state, known⟩

theorem softPhone_keeps : ∃ start final,
    Execution (Step []) answering [⟨.waitNego, .negotiate, .success⟩] start ∧
      Execution (Step []) start [⟨.done, .sendLocalOffer, .success⟩, ⟨.localOffer, .cancelOffer, .success⟩] final ∧
      start.activeLocalSdp.isSome = true ∧ Keeps 1 start final := by
  obtain ⟨start, sdp, negotiated, state, known⟩ := answering_negotiates
  have sent : Step [] start ⟨.done, .sendLocalOffer, .success⟩ start.sendLocalOffer.2.2 :=
    ⟨state, by simp [perform, sendLocalOffer, state, known]⟩
  have offering : start.sendLocalOffer.2.2.state = .localOffer := by simp [sendLocalOffer, state, known]
  have withdrawn : Step [] start.sendLocalOffer.2.2 ⟨.localOffer, .cancelOffer, .success⟩
      start.sendLocalOffer.2.2.cancelOffer.2 :=
    ⟨offering, by simp [perform, cancelOffer, offering]⟩
  have run := (Execution.single sent).trans (.single withdrawn)
  exact ⟨start, _, .single negotiated, run, by rw [known]; rfl,
    force_kept_until_success answering_created (.single negotiated) run (by simp)⟩

end Force

section Faults

variable {table : Nat → Option Encoding} {neg after : SdpNeg} {status : SdpStatus}

def Readable (sdp : SdpSession) : Prop :=
  ∀ m ∈ sdp.media, ∀ attr ∈ m.attr, attr.name = pjStr "rtpmap" → attr.value ≠ []

/-- What is negotiated from an offer of the peer is proper, and the rtpmaps of an answer can be read. -/
def Call.Proper (table : Nat → Option Encoding) : Call → Prop
  | .setRemoteOffer remote => ProperSession table remote
  | .setLocalAnswer sdp => ProperSession table sdp
  | .setRemoteAnswer remote => Readable remote
  | _ => True

/-- What is to be answered is proper, and so is what it is answered with. -/
structure Supplied (table : Nat → Option Encoding) (neg : SdpNeg) : Prop where
  sound : neg.Sound
  offered : neg.state = .remoteOffer → ∀ remote, neg.negRemoteSdp = some remote → ProperSession table remote
  answering : neg.state = .waitNego → neg.hasRemoteAnswer = false →
    (∀ remote, neg.negRemoteSdp = some remote → ProperSession table remote) ∧
      ∀ sdp, neg.negLocalSdp = some sdp → ProperSession table sdp

theorem Supplied.of_idle (sound : neg.Sound) (idle : neg.state = .done ∨ neg.state = .localOffer) : Supplied table neg := by
  have other : neg.state ≠ .remoteOffer ∧ neg.state ≠ .waitNego := by
    rcases idle with state | state <;> simp [state]
  constructor
  · exact sound
  · exact fun waiting => absurd waiting other.1
  · exact fun waiting => absurd waiting other.2

theorem Created.supplied (created : Created (ProperSession table) neg) : Supplied table neg := by
  have sound := created.sound
  cases created with
  | localOffer made =>
    apply Supplied.of_idle sound
    unfold createWLocalOffer at made
    split at made
    · cases made
    · cases made
      exact .inr rfl
  | remoteOffer offered capable made =>
    unfold createWRemoteOffer at made
    split at made
    · cases made
    · split at made
      · cases made
        constructor
        · exact sound
        · rintro - _ ⟨⟩
          exact offered
        · exact fun waiting => nomatch waiting
      · split at made
        · cases made
        · cases made
          constructor
          · exact sound
          · exact fun waiting => nomatch waiting
          · exact fun _ _ => ⟨by rintro _ ⟨⟩; exact offered, by rintro _ ⟨⟩; exact capable _ rfl⟩

theorem modifyLocalOffer2_moved {allowMediaChange : Bool} {sdp : SdpSession}
    (performed : neg.modifyLocalOffer2 allowMediaChange sdp = some (status, after)) :
    after = neg ∨ after.state = .localOffer := by
  unfold modifyLocalOffer2 at performed
  split at performed
  · cases performed
    exact .inl rfl
  · split at performed
    · cases performed
      exact .inl rfl
    · obtain ⟨old, -, made⟩ := Option.bind_eq_some_iff.mp performed
      dsimp only at made
      split at made
      · cases made
      · cases made
        exact .inr rfl

theorem sendLocalOffer_moved : neg.sendLocalOffer.2.2 = neg ∨ neg.sendLocalOffer.2.2.state = .localOffer := by
  unfold sendLocalOffer
  split
  · split
    · exact .inl rfl
    · exact .inr rfl
  · exact .inl rfl
  · exact .inl rfl

theorem cancelOffer_moved : neg.cancelOffer.2 = neg ∨ neg.cancelOffer.2.state = .done := by
  unfold cancelOffer
  split
  · exact .inr rfl
  · split
    · exact .inr rfl
    · exact .inl rfl

theorem negotiate_moved {registered : List FmtMatchCb} (performed : neg.negotiate registered = some (status, after)) :
    after = neg ∨ after.state = .done := by
  unfold negotiate at performed
  split at performed
  · cases performed
    exact .inl rfl
  · split at performed
    · cases performed
      exact .inl rfl
    · split at performed
      · rw [Option.some.injEq] at performed
        right
        unfold negotiateAnswer at performed
        split at performed
        · cases performed
          rfl
        · split at performed <;> cases performed <;> rfl
      · right
        unfold negotiateOffer at performed
        split at performed
        · cases performed
          rfl
        · obtain ⟨result, -, rest⟩ := Option.bind_eq_some_iff.mp performed
          split at rest
          · obtain ⟨previous, -, done⟩ := Option.bind_eq_some_iff.mp rest
            cases done
            rfl
          · cases rest
            rfl

theorem setRemoteAnswer_supplied (supplied : Supplied table neg) (remote : SdpSession) :
    Supplied table (neg.setRemoteAnswer remote).2 := by
  have sound := (setRemoteAnswer_keeps supplied.sound remote).1
  unfold setRemoteAnswer at sound ⊢
  split at sound
  · rename_i other
    rw [if_pos other]
    exact supplied
  · rename_i state
    rw [if_neg state]
    constructor
    · exact sound
    · exact fun waiting => nomatch waiting
    · exact fun _ ours => nomatch ours

theorem setRemoteOffer_supplied (supplied : Supplied table neg) {remote : SdpSession}
    (proper : ProperSession table remote) : Supplied table (neg.setRemoteOffer remote).2 := by
  have sound := (setRemoteOffer_keeps supplied.sound remote).1
  unfold setRemoteOffer at sound ⊢
  split at sound
  · rename_i other
    rw [if_pos other]
    exact supplied
  · rename_i state
    rw [if_neg state]
    constructor
    · exact sound
    · rintro - _ ⟨⟩
      exact proper
    · exact fun waiting => nomatch waiting

theorem setLocalAnswer_supplied (supplied : Supplied table neg) {sdp : SdpSession} (proper : ProperSession table sdp) :
    Supplied table (neg.setLocalAnswer sdp).2 := by
  have sound := (setLocalAnswer_keeps supplied.sound sdp).1
  unfold setLocalAnswer at sound ⊢
  split at sound
  · rename_i other
    rw [if_pos other]
    exact supplied
  · rename_i state
    rw [if_neg state]
    rw [ne_eq, not_not] at state
    cases initial : neg.initialSdp with
    | none =>
      simp only [initial] at sound ⊢
      constructor
      · exact sound
      · exact fun waiting => nomatch waiting
      · exact fun _ _ => ⟨supplied.offered state, by rintro _ ⟨⟩; exact proper⟩
    | some initial =>
      simp only [initial] at sound ⊢
      constructor
      · exact sound
      · exact fun waiting => nomatch waiting
      · exact fun _ _ => ⟨supplied.offered state, by rintro _ ⟨⟩; exact proper⟩

theorem Supplied.moved (supplied : Supplied table neg) (sound : after.Sound)
    (moved : after = neg ∨ after.state = .done ∨ after.state = .localOffer) : Supplied table after := by
  rcases moved with same | idle
  · exact same ▸ supplied
  · exact .of_idle sound idle

theorem step_supplied {registered : List FmtMatchCb} {outcome : Outcome} (supplied : Supplied table neg)
    (proper : outcome.call.Proper table) (step : Step registered neg outcome after) : Supplied table after := by
  have sound := (step_keeps supplied.sound step).1
  obtain ⟨found, call, result⟩ := outcome
  obtain ⟨-, performed⟩ := step
  cases call with
  | modifyLocalOffer2 allowMediaChange sdp =>
    apply supplied.moved sound
    exact (modifyLocalOffer2_moved performed).imp_right .inr
  | sendLocalOffer =>
    cases performed
    exact supplied.moved sound (sendLocalOffer_moved.imp_right .inr)
  | setRemoteAnswer remote =>
    simp only [perform, Option.some.injEq] at performed
    have kept := setRemoteAnswer_supplied supplied remote
    rw [performed] at kept
    exact kept
  | setRemoteOffer remote =>
    simp only [perform, Option.some.injEq] at performed
    have kept := setRemoteOffer_supplied supplied proper
    rw [performed] at kept
    exact kept
  | setLocalAnswer sdp =>
    simp only [perform, Option.some.injEq] at performed
    have kept := setLocalAnswer_supplied supplied proper
    rw [performed] at kept
    exact kept
  | cancelOffer =>
    simp only [perform, Option.some.injEq] at performed
    have moved : neg.cancelOffer.2 = neg ∨ neg.cancelOffer.2.state = .done := cancelOffer_moved
    rw [performed] at moved
    exact supplied.moved sound (moved.imp_right .inl)
  | negotiate => exact supplied.moved sound ((negotiate_moved performed).imp_right .inl)
  | setPreferRemoteCodecOrder preferRemote =>
    cases performed
    exact ⟨sound, supplied.offered, supplied.answering⟩
  | setAnswerMultipleCodecs answerMultiple =>
    cases performed
    exact ⟨sound, supplied.offered, supplied.answering⟩

theorem run_supplied {registered : List FmtMatchCb} {outcomes : List Outcome} {start final : SdpNeg}
    (supplied : Supplied table start) (run : Execution (Step registered) start outcomes final)
    (proper : ∀ outcome ∈ outcomes, outcome.call.Proper table) : Supplied table final := by
  induction run with
  | stop => exact supplied
  | next _ step ih =>
    have earlier := ih fun outcome member => proper outcome (List.mem_append_left _ member)
    exact step_supplied earlier (proper _ (by simp)) step

theorem negotiate_returns (supplied : Supplied table neg) : (neg.negotiate []).isSome = true := by
  have atHand := supplied.sound.atHand
  unfold negotiate
  split
  · rfl
  · rename_i state
    rw [ne_eq, not_not] at state
    rw [state] at atHand
    split
    · rfl
    · rename_i remote offer
      split
      · rfl
      · rename_i ours
        rw [Bool.not_eq_true] at ours
        obtain ⟨sdp, capable⟩ := Option.isSome_iff_exists.mp atHand.1
        obtain ⟨offered, able⟩ := supplied.answering state ours
        obtain ⟨result, answer, created, -⟩ :=
          createAnswer_replies neg.prefs (able sdp capable) (offered remote offer)
        have previous : neg.previousSdp.isSome = true := by
          unfold previousSdp
          split
          · assumption
          · exact atHand.2.2.1
        obtain ⟨numbered, known⟩ := Option.isSome_iff_exists.mp previous
        simp only [negotiateOffer, capable, created, known, Option.bind_eq_bind, Option.bind_some]
        split <;> rfl

/-- The offer that a modification makes does not fit, or there is nothing that it modifies. -/
def Overflows (neg : SdpNeg) (allowMediaChange : Bool) (sdp : SdpSession) : Prop :=
  neg.state = .done ∧ sdpValidate sdp = .success ∧
    ∀ old, neg.activeLocalSdp = some old → maxSdpMedia < (fixedOffer allowMediaChange old sdp).media.length

theorem modifyLocalOffer2_faults (allowMediaChange : Bool) (sdp : SdpSession) :
    neg.modifyLocalOffer2 allowMediaChange sdp = none ↔ neg.Overflows allowMediaChange sdp := by
  unfold modifyLocalOffer2 Overflows
  by_cases state : neg.state = .done
  · by_cases valid : sdpValidate sdp = .success
    · cases active : neg.activeLocalSdp with
      | none => simp [state, valid]
      | some old => simp [state, valid]
    · simp [state, valid]
  · simp [state]

theorem perform_faults (supplied : Supplied table neg) (call : Call) :
    neg.perform [] call = none ↔
      ∃ allowMediaChange sdp, call = .modifyLocalOffer2 allowMediaChange sdp ∧ neg.Overflows allowMediaChange sdp := by
  cases call with
  | modifyLocalOffer2 allowMediaChange sdp =>
    rw [perform, modifyLocalOffer2_faults]
    constructor
    · exact fun overflows => ⟨_, _, rfl, overflows⟩
    · rintro ⟨_, _, ⟨⟩, overflows⟩
      exact overflows
  | negotiate =>
    have returns := Option.isSome_iff_ne_none.mp (negotiate_returns supplied)
    simp [perform, returns]
  | _ => simp [perform]

def calling : SdpNeg := { zalloc .localOffer with initialSdp := some deskPhone, negLocalSdp := some deskPhone }

end Faults

end SdpNeg

end TiSIP.Pjmedia
