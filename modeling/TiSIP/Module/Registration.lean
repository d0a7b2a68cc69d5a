import TiSIP.Module.Observers
import TiSIP.Pjsua.Registration

namespace TiSIP.Module

open Foundation Foundation.NSNumber Dispatch Pjsip Pjsua

/-- A REGISTER of an account ends at `scheduled`, and the observer queries the account at
    `queried`; `pending` tells whether the session has sent another request by then. -/
structure Registration where
  long : CLong
  acc : RegAccount
  regc : Regc
  held : acc.regc = some regc
  outcome : RegOutcome
  scheduled : TimeVal
  queried : TimeVal
  pending : Bool

namespace Registration

def settled (registration : Registration) : RegAccount :=
  let (regc, param) := registration.outcome.report registration.long registration.regc registration.scheduled
  regcCb registration.acc (by rw [registration.held]; rfl) regc param

def info (registration : Registration) : AccInfo :=
  accGetInfo registration.long (registration.settled.setPending registration.pending) registration.queried

def fired (registration : Registration) (conversion : IntConversion) (decoder : BytewiseDecoder) (view : LibraryView)
    (accountId : Int32) : Except Fault (List Event) :=
  let view := { view with accGetInfo := Function.update view.accGetInfo accountId.toInt registration.info }
  observe conversion decoder view (PjSIPDispatch.dispatchRegistrationState accountId.toInt)

end Registration

def Fires (fired : Except Fault (List Event)) (name : String) : Prop :=
  ∃ events, fired = .ok events ∧ ∃ event ∈ events, event.name = name

def Accepted : RegOutcome → Int32 → Prop
  | .answered code granted, expiration => code.value < 300 ∧ granted = expiration
  | .failed .., _ => False

def Refused : RegOutcome → Prop
  | .answered code _ => 400 ≤ code.value
  | .failed .. => True

structure TellsTruth (outcome : RegOutcome) (fired : Except Fault (List Event)) : Prop where
  connected : Fires fired "REGISTRATION.CONNECTED" ↔ ∃ expiration, Accepted outcome expiration ∧ 1 ≤ expiration
  disconnected : Fires fired "REGISTRATION.DISCONNECTED" ↔ ∃ expiration, Accepted outcome expiration ∧ expiration < 1
  invalid : Fires fired "REGISTRATION.INVALID" ↔ Refused outcome

namespace Registration

/-- When the next refresh is due: `schedule_registration` leaves it as it was without a lifetime. -/
def refreshDue (registration : Registration) (granted : Int32) : TimeVal :=
  if 0 < granted then
    { registration.scheduled with
      sec := registration.long.wrap
        (registration.scheduled.sec + refreshDelay registration.long registration.regc granted) }
  else registration.regc.nextReg

/-- The observer comes at least one second before the next refresh, and no request is pending. -/
def RefreshAhead (registration : Registration) (granted : Int32) : Prop :=
  registration.pending = false ∧ registration.regc.autoReg = true ∧ granted ≠ -1 ∧ granted ≠ noexp ∧
    0 < secondsUntil registration.long (registration.refreshDue granted) registration.queried

/-- A binding is announced before it is refreshed; a lifetime that the library reads as negative
    while it asked for one is announced when no refresh is ahead. -/
def AnnouncedInTime (registration : Registration) : Prop :=
  ∀ granted, Accepted registration.outcome granted →
    (1 ≤ granted → registration.RefreshAhead granted) ∧
      (granted < 0 → 1 ≤ registration.regc.expiresRequested.toInt32 → ¬ registration.RefreshAhead granted)

end Registration

section Status

variable {info : AccInfo}

theorem accStatus_rejected {info : AccInfo} (error : info.regLastErr ≠ 0) : accStatus info = "INVALID" := by
  simp [accStatus, error]

theorem accStatus_redirected (quiet : info.regLastErr = 0) (low : 300 ≤ info.status) (high : info.status < 400) :
    accStatus info = "CONNECTING" := by
  have nonzero : info.status ≠ 0 := by omega
  simp [accStatus, isStatusInClass, quiet, nonzero]
  omega

theorem accStatus_refused (quiet : info.regLastErr = 0) (refused : 400 ≤ info.status) : accStatus info = "INVALID" := by
  have nonzero : info.status ≠ 0 := by omega
  have notTrying : ¬ info.status < 200 := by omega
  have notAccepted : ¬ info.status < 300 := by omega
  have notRedirected : ¬ info.status < 400 := by omega
  simp [accStatus, isStatusInClass, quiet, nonzero, notTrying, notAccepted, notRedirected]

theorem accStatus_accepted (quiet : info.regLastErr = 0) (low : 200 ≤ info.status) (high : info.status < 300) :
    accStatus info = if 0 < info.expires then "CONNECTED" else "DISCONNECTED" := by
  have nonzero : info.status ≠ 0 := by omega
  have notTrying : ¬ info.status < 200 := by omega
  have notRedirected : ¬ 300 ≤ info.status := by omega
  simp [accStatus, isStatusInClass, quiet, nonzero, low, high, notTrying, notRedirected]

end Status

namespace Registration

variable (registration : Registration) (conversion : IntConversion) (decoder : BytewiseDecoder) (view : LibraryView)
  (accountId : Int32)

theorem fires_iff (name : String) :
    Fires (registration.fired conversion decoder view accountId) name ↔
      "REGISTRATION." ++ accStatus registration.info = name := by
  have queried : notifGetInt conversion (PjSIPDispatch.dispatchRegistrationState accountId.toInt).userInfo
      PJSIPAccountIdKey = accountId.toInt := by
    simp [notifGetInt, PjSIPDispatch.dispatchRegistrationState, objectForKey, numberObject, intValue_int32]
  unfold Fires fired observe
  simp [registrationStateDidChange, PjSIPDispatch.dispatchRegistrationState] at queried ⊢
  simp [queried]

theorem info_failed {status : Int} {failure : status ≠ 0} {code : FinalCode}
    (outcome : registration.outcome = .failed status failure code) : registration.info.regLastErr = status := by
  have registrar : registration.acc.regUri ≠ [] := registration.acc.initiated (by rw [registration.held]; rfl)
  have nonzero : code.value ≠ 0 := by
    have final := code.final
    omega
  unfold info settled
  rw [outcome]
  simp [RegOutcome.report, cbparamInit, RegAccount.setPending, regcCb, accGetInfo, nonzero, registrar]

section Answered

variable {registration} {code : FinalCode} {granted : Int32}

theorem info_answered (outcome : registration.outcome = .answered code granted) :
    registration.info.regLastErr = 0 ∧ registration.info.status = code.value := by
  have registrar : registration.acc.regUri ≠ [] := registration.acc.initiated (by rw [registration.held]; rfl)
  have nonzero : code.value ≠ 0 := by
    have final := code.final
    omega
  unfold info settled
  rw [outcome]
  simp [RegOutcome.report, regcTsxCallback, cbparamInit, RegAccount.setPending, regcCb, accGetInfo, nonzero, registrar]

theorem info_expires (outcome : registration.outcome = .answered code granted) (success : code.value < 300) :
    0 < registration.info.expires ↔
      1 ≤ (cbparamInit registration.regc 0 code.value (if granted = noexp then -1 else granted)).expiration ∧
        registration.RefreshAhead granted := by
  have class2 : code.value.tdiv 100 = 2 := code.success_iff.mpr success
  have notFailed : ¬ (code.value < 0 ∨ 300 ≤ code.value) := by
    have final := code.final
    omega
  have known : (if granted = noexp then (-1 : Int32) else granted).toUInt32 ≠ expirationNotSpecified ↔
      granted ≠ -1 ∧ granted ≠ noexp := by
    rw [Ne, toUInt32_eq_notSpecified]
    by_cases same : granted = noexp
    · simp [same]
    · simp [same]
  unfold info settled
  rw [outcome]
  dsimp only [RegOutcome.report]
  have result : Granted registration.long registration.regc granted registration.scheduled code.value
      (regcTsxCallback registration.long registration.regc code.value granted registration.scheduled) :=
    regcTsxCallback_granted class2
  generalize regcTsxCallback registration.long registration.regc code.value granted registration.scheduled =
    answered at result
  obtain ⟨regc, reported⟩ := answered
  obtain ⟨autoReg, expires, nextReg, param⟩ := result
  dsimp only at autoReg expires nextReg param
  rw [← param]
  have status : reported.status = 0 := by rw [param]; rfl
  have reportedCode : reported.code = code.value := by rw [param]; rfl
  dsimp only [regcCb, RegAccount.setPending, accGetInfo]
  rw [if_neg (not_not.mpr status), reportedCode, if_neg notFailed, if_pos class2]
  by_cases ending : reported.expiration < 1
  · have ended : ¬ 1 ≤ reported.expiration := Int32.not_le.mpr ending
    simp [ending, ended]
  · have lasting : 1 ≤ reported.expiration := Int32.not_lt.mp ending
    rw [if_neg ending]
    dsimp only [Option.map_some]
    rw [regcNextReg_pos_iff]
    dsimp only
    rw [expires, known, autoReg]
    unfold RefreshAhead refreshDue
    cases refreshes : registration.regc.autoReg with
    | false => simp
    | true =>
      rw [nextReg refreshes]
      simp [lasting, and_assoc]

end Answered

theorem lasting_iff {regc : Regc} {code : Int} {granted : Int32} :
    1 ≤ (cbparamInit regc 0 code (if granted = noexp then -1 else granted)).expiration ↔
      if 0 ≤ granted ∧ granted ≠ noexp then 1 ≤ granted else 1 ≤ regc.expiresRequested.toInt32 := by
  unfold cbparamInit
  by_cases same : granted = noexp
  · simp [same]
  · by_cases positive : 0 ≤ granted
    · simp [same, positive]
    · simp [same, positive]

theorem announced_iff {granted : Int32} :
    ((if 0 ≤ granted ∧ granted ≠ noexp then 1 ≤ granted else 1 ≤ registration.regc.expiresRequested.toInt32) ∧
        registration.RefreshAhead granted ↔ 1 ≤ granted) ↔
      (1 ≤ granted → registration.RefreshAhead granted) ∧
        (granted < 0 → 1 ≤ registration.regc.expiresRequested.toInt32 → ¬ registration.RefreshAhead granted) := by
  have known : registration.RefreshAhead granted → granted ≠ noexp := fun ahead => ahead.2.2.2.1
  by_cases lasting : 1 ≤ granted
  · have positive : 0 ≤ granted := by
      rw [Int32.le_iff_toInt_le] at lasting ⊢
      exact Int.le_trans (by decide) lasting
    have notNegative : ¬ granted < 0 := Int32.not_lt.mpr positive
    by_cases same : granted = noexp
    · have unseen : ¬ registration.RefreshAhead granted := fun ahead => known ahead same
      simp [lasting, unseen]
    · simp [lasting, positive, notNegative, same]
  · by_cases negative : granted < 0
    · have notPositive : ¬ 0 ≤ granted := Int32.not_le.mpr negative
      simp [lasting, negative, notPositive]
    · have positive : 0 ≤ granted := Int32.not_lt.mp negative
      have same : granted ≠ noexp := by
        intro same
        rw [same] at lasting
        exact lasting (by decide)
      simp [lasting, negative, positive, same]

theorem registration_tells_truth_iff :
    TellsTruth registration.outcome (registration.fired conversion decoder view accountId) ↔
      registration.AnnouncedInTime := by
  have tells : TellsTruth registration.outcome (registration.fired conversion decoder view accountId) ↔
      (accStatus registration.info = "CONNECTED" ↔ ∃ expiration, Accepted registration.outcome expiration ∧ 1 ≤ expiration) ∧
        (accStatus registration.info = "DISCONNECTED" ↔
          ∃ expiration, Accepted registration.outcome expiration ∧ expiration < 1) ∧
        (accStatus registration.info = "INVALID" ↔ Refused registration.outcome) := by
    have named (status : String) : Fires (registration.fired conversion decoder view accountId) ("REGISTRATION." ++ status) ↔
        accStatus registration.info = status := by
      rw [fires_iff]
      exact String.append_right_inj _
    have connected := named "CONNECTED"
    have disconnected := named "DISCONNECTED"
    have invalid := named "INVALID"
    rw [← connected, ← disconnected, ← invalid]
    exact ⟨fun truth => ⟨truth.connected, truth.disconnected, truth.invalid⟩, fun all => ⟨all.1, all.2.1, all.2.2⟩⟩
  rw [tells]
  unfold AnnouncedInTime
  cases outcome : registration.outcome with
  | failed status failure code =>
    have rejected : accStatus registration.info = "INVALID" := by
      apply accStatus_rejected
      rw [registration.info_failed outcome]
      exact failure
    rw [rejected]
    simp [Accepted, Refused]
  | answered code granted =>
    obtain ⟨quiet, status⟩ := info_answered outcome
    have final := code.final
    rcases Int.lt_or_le code.value 300 with success | notSuccess
    · have reported := accStatus_accepted quiet (by omega) (by omega)
      have visible := info_expires outcome success
      rw [lasting_iff] at visible
      have notRefused : ¬ 400 ≤ code.value := by omega
      simp only [Accepted, Refused, success, true_and, notRefused, iff_false, exists_eq_left', forall_eq']
      rw [← registration.announced_iff, ← visible, reported, ← Int32.not_le]
      by_cases counted : 0 < registration.info.expires
      · simp [counted]
      · simp [counted]
    · have notAccepted : ¬ code.value < 300 := Int.not_lt.mpr notSuccess
      simp only [Accepted, Refused, notAccepted, false_and, exists_const, iff_false, IsEmpty.forall_iff, implies_true,
        iff_true]
      rcases Int.lt_or_le code.value 400 with redirected | refused
      · rw [accStatus_redirected quiet (by omega) (by omega)]
        have notRefused : ¬ 400 ≤ code.value := Int.not_le.mpr redirected
        simp [notRefused]
      · rw [accStatus_refused quiet (by omega)]
        simp [refused]

end Registration

def requestedSession : Regc where
  hasTsx := true
  autoReg := true
  expires := expirationNotSpecified
  expiresRequested := 10
  delayBeforeRefresh := 5
  lastReg := { sec := 0, msec := 0 }
  nextReg := { sec := 0, msec := 0 }

def lateObservation : Registration where
  long := .lp64
  acc :=
    { regUri := [115, 105, 112, 58, 97], regc := some requestedSession, regLastErr := 0, regLastCode := 0
      initiated := fun _ => by decide }
  regc := requestedSession
  held := rfl
  outcome := .answered { value := 200, final := by decide } 10
  scheduled := { sec := 1000000, msec := 0 }
  queried := { sec := 1000004, msec := 500 }
  pending := false

def noCalls : LibraryView where
  callGetInfo := fun _ => .zero
  accGetInfo := fun _ => { regLastErr := 0, status := 0, expires := 0 }

theorem binding_reported_ended :
    ¬ TellsTruth lateObservation.outcome (lateObservation.fired saturating .strict noCalls 0) := by
  intro truth
  have live : Fires (lateObservation.fired saturating .strict noCalls 0) "REGISTRATION.CONNECTED" :=
    truth.connected.mpr ⟨10, ⟨by decide, rfl⟩, by decide⟩
  rw [Registration.fires_iff] at live
  revert live
  decide

end TiSIP.Module
