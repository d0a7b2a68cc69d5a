import TiSIP.Foundation.Number
import TiSIP.Pjsua.Acc

namespace TiSIP.Proxy

open Foundation Foundation.NSNumber Pjsua

structure PjSIPProxy where
  transportIdUDP : Int
  transportIdTCP : Int
  transportIdTCP6 : Int
  accountIds : List NSNumber
  pjsuaVar : PjsuaVar

/-- What an operation asks of the library about transports; `live` says whether the id was
    that of an open transport when it was used. -/
inductive TransportCall
  | getInfo (id : Int) (live : Bool)
  | close (id : Int) (live : Bool)
  | bind (id : Int)
  deriving DecidableEq

structure Completed where
  proxy : PjSIPProxy
  returned : NSNumber
  calls : List TransportCall

structure StartOutcome where
  tcp : Except PjError Unit
  udp : Except PjError Unit
  started : Except PjError Unit

structure StopOutcome where
  udp : Except PjError Unit
  tcp : Except PjError Unit
  tcp6 : Except PjError Unit

structure Credentials where
  sipAccount : String
  sipDomain : String
  realm : String
  username : String
  password : String

namespace PjSIPProxy

def isLive (proxy : PjSIPProxy) (id : Int) : Bool := (liveTransport proxy.pjsuaVar id).isSome

-- A failed creation is only logged, and leaves the id field as it was.
def createTCP (proxy : PjSIPProxy) (outcome : Except PjError Unit) : PjSIPProxy :=
  match transportCreate proxy.pjsuaVar .tcp outcome with
  | .error _ => proxy
  | .ok (var, id) => { proxy with pjsuaVar := var, transportIdTCP := id.val }

def createUDP (proxy : PjSIPProxy) (outcome : Except PjError Unit) : PjSIPProxy :=
  match transportCreate proxy.pjsuaVar .udp outcome with
  | .error _ => proxy
  | .ok (var, id) => { proxy with pjsuaVar := var, transportIdUDP := id.val }

def start (proxy : PjSIPProxy) (outcome : StartOutcome) : Completed :=
  let created := { proxy with pjsuaVar := initData }
  -- The creation of a TCP6 transport between these two is commented out in the source.
  let opened := (created.createTCP outcome.tcp).createUDP outcome.udp
  { proxy := opened
    returned :=
      match outcome.started with
      | .error _ => numberWithInt (-1)
      | .ok () => numberWithInt 1
    calls := [.getInfo opened.transportIdTCP (opened.isLive opened.transportIdTCP),
      .getInfo opened.transportIdTCP6 (opened.isLive opened.transportIdTCP6),
      .getInfo opened.transportIdUDP (opened.isLive opened.transportIdUDP)] }

/-- `init`: the fields of a new object are zero, and `start` runs at once. -/
def init (outcome : StartOutcome) : Completed :=
  start { transportIdUDP := 0, transportIdTCP := 0, transportIdTCP6 := 0, accountIds := [], pjsuaVar := initData }
    outcome

def closeTransport (var : PjsuaVar) (id : Int) (destroyed : Except PjError Unit) :
    PjsuaVar × List TransportCall :=
  if id = invalidId then (var, [])
  else
    let call := .close id (liveTransport var id).isSome
    match transportClose var id destroyed with
    | .error _ => (var, [call])
    | .ok closed => (closed, [call])

def stop (proxy : PjSIPProxy) (outcome : StopOutcome) : Completed :=
  let udp := closeTransport proxy.pjsuaVar proxy.transportIdUDP outcome.udp
  let tcp := closeTransport udp.1 proxy.transportIdTCP outcome.tcp
  let tcp6 := closeTransport tcp.1 proxy.transportIdTCP6 outcome.tcp6
  { proxy :=
      { transportIdUDP := invalidId, transportIdTCP := invalidId, transportIdTCP6 := invalidId
        accountIds := [], pjsuaVar := initData }
    returned := numberWithInt 1
    calls := udp.2 ++ tcp.2 ++ tcp6.2 }

def accConfig (proxy : PjSIPProxy) (credentials : Credentials) : AccConfig where
  id := "sip:" ++ credentials.sipAccount ++ "@" ++ credentials.sipDomain
  regUri := "sip:" ++ credentials.sipDomain ++ ";transport=udp"
  credRealm := credentials.realm
  credUsername := credentials.username
  credData := credentials.password
  regTimeout := 10
  mwiEnabled := false
  priority := 0
  transportId := proxy.transportIdUDP

def register (proxy : PjSIPProxy) (credentials : Credentials) (parsed : Except PjError Unit) : Completed :=
  let calls := [.bind proxy.transportIdUDP]
  match accAdd proxy.pjsuaVar (proxy.accConfig credentials) parsed with
  | .error _ => { proxy, returned := numberWithInt (-1), calls }
  | .ok (var, accId) =>
    let accountId := numberWithInt accId.val
    { proxy := { proxy with pjsuaVar := var, accountIds := proxy.accountIds ++ [accountId] }
      returned := accountId, calls }

def unregister (conversion : IntConversion) (proxy : PjSIPProxy) (accountId : NSNumber) : Completed :=
  match accDel proxy.pjsuaVar (accountId.intValue conversion) with
  | .error _ => { proxy, returned := numberWithInt (-1), calls := [] }
  | .ok var =>
    { proxy := { proxy with pjsuaVar := var, accountIds := removeObject proxy.accountIds accountId }
      returned := numberWithInt 1, calls := [] }

def refresh (conversion : IntConversion) (proxy : PjSIPProxy) (accountId : NSNumber)
    (sent : Except PjError Unit) : Completed :=
  match accSetRegistration proxy.pjsuaVar (accountId.intValue conversion) sent with
  | .error _ => { proxy, returned := numberWithInt (-1), calls := [] }
  | .ok () => { proxy, returned := numberWithInt 1, calls := [] }

def getRegisteredAccountsCount (proxy : PjSIPProxy) : NSNumber := numberWithInt (accGetCount proxy.pjsuaVar)

end PjSIPProxy

end TiSIP.Proxy
