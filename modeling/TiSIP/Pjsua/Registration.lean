import TiSIP.Pjsip.Regc
import TiSIP.Pjsua.CallInfo

namespace TiSIP.Pjsua

open Pjsip

/-- The registration part of `pjsua_acc`: a session exists only for an account with a registrar,
    since `pjsua_regc_init` creates no other. -/
structure RegAccount where
  regUri : List UInt8
  regc : Option Regc
  regLastErr : Int
  regLastCode : Int
  initiated : regc.isSome → regUri ≠ []

def regcCb (acc : RegAccount) (held : acc.regc.isSome) (regc : Regc) (param : RegcCbParam) : RegAccount where
  regUri := acc.regUri
  regc :=
    if param.status ≠ 0 then none
    else if param.code < 0 ∨ 300 ≤ param.code then none
    else if param.code.tdiv 100 = 2 then
      if param.expiration < 1 then none else some regc
    else some regc
  regLastErr := param.status
  regLastCode := param.code
  initiated := fun _ => acc.initiated held

def accGetInfo (long : CLong) (acc : RegAccount) (now : TimeVal) : AccInfo where
  regLastErr := if acc.regLastCode ≠ 0 ∧ acc.regUri ≠ [] then acc.regLastErr else 0
  status :=
    if acc.regLastCode ≠ 0 then
      if acc.regUri ≠ [] then acc.regLastCode else 0
    else if acc.regUri ≠ [] then 100
    else 0
  expires :=
    match acc.regc with
    | some regc => regcNextReg long regc now
    | none => -1

def RegAccount.setPending (acc : RegAccount) (pending : Bool) : RegAccount where
  regUri := acc.regUri
  regc := acc.regc.map fun regc => { regc with hasTsx := pending }
  regLastErr := acc.regLastErr
  regLastCode := acc.regLastCode
  initiated := by
    rw [Option.isSome_map]
    exact acc.initiated

end TiSIP.Pjsua
