import TiSIP.Dispatch.PJUtil

namespace TiSIP.Pjsua

open Dispatch

inductive InvState
  | null
  | calling
  | incoming
  | early
  | connecting
  | confirmed
  | disconnected
  deriving DecidableEq

inductive MediaStatus
  | none
  | active
  | localHold
  | remoteHold
  | error
  deriving DecidableEq

/-- The fields of `pjsua_call_info` that the module reads, and the account the call belongs to. -/
structure CallInfo where
  accId : Int
  state : InvState
  mediaStatus : MediaStatus
  confSlot : Int
  remoteInfo : PjStr
  remoteContact : PjStr
  callId : PjStr
  deriving DecidableEq

structure AccInfo where
  regLastErr : Int
  status : Int
  expires : Int
  deriving DecidableEq

def CallInfo.zero : CallInfo where
  accId := 0
  state := .null
  mediaStatus := .none
  confSlot := 0
  remoteInfo := { ptr := [], slen := 0 }
  remoteContact := { ptr := [], slen := 0 }
  callId := { ptr := [], slen := 0 }

end TiSIP.Pjsua
