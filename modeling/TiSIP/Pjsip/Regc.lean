import Mathlib.Order.Basic

namespace TiSIP.Pjsip

/-- The width of `long`, which the fields of `pj_time_val` have. -/
inductive CLong
  | ilp32
  | lp64
  deriving DecidableEq

def CLong.wrap : CLong → Int → Int
  | ilp32, value => value.bmod Int32.size
  | lp64, value => value.bmod Int64.size

structure TimeVal where
  sec : Int
  msec : Int
  deriving DecidableEq

def timeValNormalize (t : TimeVal) : TimeVal :=
  -- Both carries of the source, the division and the loop, leave what division towards zero leaves.
  let sec := t.sec + t.msec.tdiv 1000
  let msec := t.msec.tmod 1000
  if 1 ≤ sec ∧ msec < 0 then { sec := sec - 1, msec := msec + 1000 }
  else if sec < 0 ∧ 0 < msec then { sec := sec + 1, msec := msec - 1000 }
  else { sec, msec }

def timeValSub (long : CLong) (left right : TimeVal) : TimeVal :=
  timeValNormalize { sec := long.wrap (left.sec - right.sec), msec := left.msec - right.msec }

def expirationNotSpecified : UInt32 := 0xFFFFFFFF

def noexp : Int32 := 0x1FFFFFFF

def delayBeforeRefresh : Int := 5

/-- The part of `pjsip_regc` that decides when the registration is refreshed. -/
structure Regc where
  hasTsx : Bool
  autoReg : Bool
  expires : UInt32
  expiresRequested : UInt32
  delayBeforeRefresh : UInt32
  lastReg : TimeVal
  nextReg : TimeVal
  deriving DecidableEq

def refreshDelay (long : CLong) (regc : Regc) (expiration : Int32) : Int :=
  -- The subtraction is one of unsigned numbers.
  let delay := long.wrap (expiration.toUInt32 - regc.delayBeforeRefresh).toNat
  let delay :=
    if regc.expires ≠ expirationNotSpecified ∧ regc.expires.toInt32.toInt < delay then long.wrap regc.expires.toNat
    else delay
  if delay < Pjsip.delayBeforeRefresh then Pjsip.delayBeforeRefresh else delay

def scheduleRegistration (long : CLong) (regc : Regc) (expiration : Int32) (now : TimeVal) : Regc :=
  if regc.autoReg ∧ 0 < expiration then
    { regc with
      lastReg := now
      nextReg := { now with sec := long.wrap (now.sec + refreshDelay long regc expiration) } }
  else regc

structure RegcCbParam where
  status : Int
  code : Int
  expiration : Int32
  deriving DecidableEq

def cbparamInit (regc : Regc) (status code : Int) (expiration : Int32) : RegcCbParam where
  status := status
  code := code
  expiration := if 0 ≤ expiration then expiration else regc.expiresRequested.toInt32

/-- `regc_tsx_callback` for a response that it does not answer with another request; `granted`
    is what `calculate_response_expiration` finds in a 2xx. -/
def regcTsxCallback (long : CLong) (regc : Regc) (code : Int) (granted : Int32) (now : TimeVal) :
    Regc × RegcCbParam :=
  let regc := { regc with hasTsx := false }
  let (regc, expiration) :=
    if code.tdiv 100 = 2 then
      (scheduleRegistration long regc granted now, if granted = noexp then -1 else granted)
    else (regc, -1)
  ({ regc with expires := expiration.toUInt32 }, cbparamInit regc 0 code expiration)

def secondsUntil (long : CLong) (next now : TimeVal) : Int := (timeValSub long next now).sec.bmod Int32.size

def regcNextReg (long : CLong) (regc : Regc) (now : TimeVal) : Int :=
  if regc.hasTsx then 0
  else if !regc.autoReg then 0
  else if regc.expires = expirationNotSpecified then regc.expires.toInt32.toInt
  else secondsUntil long regc.nextReg now

structure FinalCode where
  value : Int
  final : 200 ≤ value

/-- How a REGISTER ends for the application: with a final response or the timeout that stands
    for one, or because it could not be sent again. -/
inductive RegOutcome
  | answered (code : FinalCode) (granted : Int32)
  | failed (status : Int) (failure : status ≠ 0) (code : FinalCode)

def RegOutcome.report (long : CLong) (regc : Regc) (now : TimeVal) : RegOutcome → Regc × RegcCbParam
  | answered code granted => regcTsxCallback long regc code.value granted now
  | failed status _ code => (regc, cbparamInit regc status code.value (-1))

theorem FinalCode.success_iff (code : FinalCode) : code.value.tdiv 100 = 2 ↔ code.value < 300 := by
  have final := code.final
  rw [Int.tdiv_eq_ediv_of_nonneg (by omega)]
  omega

theorem toUInt32_eq_notSpecified {expiration : Int32} :
    expiration.toUInt32 = expirationNotSpecified ↔ expiration = -1 := by
  have minusOne : expirationNotSpecified.toInt32 = -1 := by decide
  constructor
  · intro same
    have signed := congrArg UInt32.toInt32 same
    rw [minusOne, Int32.toInt32_toUInt32] at signed
    exact signed
  · intro same
    rw [same]
    rfl

section Answered

variable {long : CLong} {regc : Regc} {code : Int} {granted : Int32} {now : TimeVal}

structure Granted (long : CLong) (regc : Regc) (granted : Int32) (now : TimeVal) (code : Int)
    (result : Regc × RegcCbParam) : Prop where
  autoReg : result.1.autoReg = regc.autoReg
  expires : result.1.expires = (if granted = noexp then -1 else granted).toUInt32
  nextReg : regc.autoReg = true → result.1.nextReg =
    if 0 < granted then { now with sec := long.wrap (now.sec + refreshDelay long regc granted) } else regc.nextReg
  reported : result.2 = cbparamInit regc 0 code (if granted = noexp then -1 else granted)

theorem regcTsxCallback_granted (success : code.tdiv 100 = 2) :
    Granted long regc granted now code (regcTsxCallback long regc code granted now) := by
  unfold regcTsxCallback scheduleRegistration
  simp only [success, ↓reduceIte]
  split
  · rename_i scheduled
    refine ⟨rfl, rfl, fun _ => ?_, rfl⟩
    rw [if_pos scheduled.2]
    rfl
  · rename_i skipped
    refine ⟨rfl, rfl, fun refreshes => ?_, rfl⟩
    have notPositive : ¬ 0 < granted := fun positive => skipped ⟨refreshes, positive⟩
    rw [if_neg notPositive]

end Answered

section NextReg

variable {long : CLong} {regc : Regc} {now : TimeVal}

theorem regcNextReg_pos_iff :
    0 < regcNextReg long regc now ↔
      regc.hasTsx = false ∧ regc.autoReg = true ∧ regc.expires ≠ expirationNotSpecified ∧
        0 < secondsUntil long regc.nextReg now := by
  have unspecified : expirationNotSpecified.toInt32.toInt = -1 := by decide
  unfold regcNextReg
  cases busy : regc.hasTsx with
  | true => simp
  | false =>
    cases refreshes : regc.autoReg with
    | false => simp
    | true =>
      by_cases same : regc.expires = expirationNotSpecified
      · simp [same, unspecified]
      · simp [same]

end NextReg

end TiSIP.Pjsip
