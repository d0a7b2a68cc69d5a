import TiSIP.Pjsua.Call

namespace TiSIP.Proxy

open Pjsua

def confConnect (var : CallVar) (source sink : Int) : CallVar :=
  { var with conf := var.conf.kept (var.conf.connectPort source sink) }

def confDisconnect (var : CallVar) (source sink : Int) : CallVar :=
  { var with conf := var.conf.kept (var.conf.disconnectPort source sink) }

-- `ci` is the structure on the stack, which a failed query leaves as it is.
def muteCall (var : CallVar) (callId : Int) (ci : CallInfo) : CallVar :=
  let ci := (callGetInfo var callId ci).2
  confDisconnect var 0 ci.confSlot

def unmuteCall (var : CallVar) (callId : Int) (ci : CallInfo) : CallVar :=
  let ci := (callGetInfo var callId ci).2
  confConnect var 0 ci.confSlot

def hangUpCall (var : CallVar) (callId : Int) (ci : CallInfo) (outcome : HangupOutcome) : Int × CallVar :=
  let (status, var) := callHangup (muteCall var callId ci) callId outcome
  match status with
  | .error _ => (-1, var)
  | .ok () => (1, var)

def dispatchCallMediaState (var : CallVar) (callId : Int) (ci : CallInfo) : CallVar :=
  let ci := (callGetInfo var callId ci).2
  if ci.mediaStatus = .active then confConnect (confConnect var ci.confSlot 0) 0 ci.confSlot else var

end TiSIP.Proxy
