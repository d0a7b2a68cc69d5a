import TiSIP.Lib.LockQueue

namespace TiSIP.Threads

open LockQueue

inductive Party
  | javaScript
  | worker
  deriving DecidableEq

def pjsuaCallGetInfo : List Instr := locked []

def pjsuaAccGetInfo : List Instr := locked []

def pjsuaConfConnect : List Instr := locked []

-- `dispatch` runs the block, and in it the observers, on the thread that calls it.
def onRegistrationStarted : List Instr := dispatched []

def onRegistrationState : List Instr := dispatched pjsuaAccGetInfo

def onCallState : List Instr := dispatched pjsuaCallGetInfo

def onCallMediaState (active : Bool) : List Instr :=
  dispatched (pjsuaCallGetInfo ++ if active then pjsuaConfConnect ++ pjsuaConfConnect else [])

def onPager : List Instr := dispatched []

def onPagerStatus : List Instr := dispatched []

def onMwiInfo : List Instr := dispatched []

/-- What the INVITE sessions do on a thread, as far as the lock and the queue are concerned. -/
inductive SessionWork
  | lockSection
  | stateChanged (disconnected : Bool)
  | mediaUpdate (active : Bool)

def SessionWork.code : SessionWork → List Instr
  | .lockSection => locked []
  -- `pjsua_call_on_state_changed` takes the lock only after the callback, to reset the call.
  | .stateChanged disconnected => onCallState ++ if disconnected then locked [] else []
  | .mediaUpdate active => onCallMediaState active

def sessionWork (work : List SessionWork) : List Instr := work.flatMap SessionWork.code

inductive RegistrationWork
  | started
  | state

def RegistrationWork.code : RegistrationWork → List Instr
  | .started => onRegistrationStarted
  | .state => locked onRegistrationState

def registrationWork (work : List RegistrationWork) : List Instr := work.flatMap RegistrationWork.code

def pjsuaAccSetRegistration (work : List RegistrationWork) : List Instr := locked (registrationWork work)

def acquireCall : List Instr := locked []

/-- `work` is raised by the media initialisation, inside the lock, and `sent` by the response
    that is created and sent after the lock has been given back. -/
def pjsuaCallAnswer (work sent : List SessionWork) : List Instr :=
  acquireCall ++ locked (locked (sessionWork work)) ++ sessionWork sent

def onIncomingCall (work sent : List SessionWork) : List Instr :=
  pjsuaCallAnswer work sent ++ dispatched pjsuaCallGetInfo

inductive ApiCall
  | register (added : Option (List RegistrationWork))
  | unregister (deleted : Option (List RegistrationWork))
  | refresh (valid : Option (List RegistrationWork))
  | placeCall (work : List SessionWork)
  | answerCall (work sent : List SessionWork)
  | hangUpCall (work : List SessionWork)
  | muteCall
  | unmuteCall
  | sendText (failed : Bool)

def ApiCall.code : ApiCall → List Instr
  | .register none => locked []
  | .register (some work) => locked [] ++ pjsuaAccSetRegistration work
  -- An id that is no account's is refused before the lock is taken.
  | .unregister none => []
  | .unregister (some work) => locked (pjsuaAccSetRegistration work)
  | .refresh none => []
  | .refresh (some work) => pjsuaAccSetRegistration work
  -- `pjsua_call_make_call` and the completion of its media set-up both hold the lock.
  | .placeCall work => locked (locked (sessionWork work))
  | .answerCall work sent => pjsuaCallAnswer work sent
  | .hangUpCall work => pjsuaCallGetInfo ++ acquireCall ++ sessionWork work
  | .muteCall => pjsuaCallGetInfo
  | .unmuteCall => pjsuaCallGetInfo ++ pjsuaConfConnect
  | .sendText failed => if failed then onPagerStatus else []

inductive WorkerEvent
  | registrationResponse (work : List RegistrationWork)
  | reregistrationTimer (work : List RegistrationWork)
  | incomingInvite (work sent pending : List SessionWork)
  | sessionEvent (work : List SessionWork)
  | message
  | messageStatus
  | mwiNotify

def WorkerEvent.code : WorkerEvent → List Instr
  | .registrationResponse work => locked (registrationWork work)
  | .reregistrationTimer work => locked (pjsuaAccSetRegistration work)
  -- `pjsua_call_on_incoming` holds the lock from its first line to its last.
  | .incomingInvite work sent pending => locked (onIncomingCall work sent ++ sessionWork pending)
  | .sessionEvent work => sessionWork work
  | .message => onPager
  | .messageStatus => onPagerStatus
  | .mwiNotify => onMwiInfo

def Entry : Party → Type
  | .javaScript => ApiCall
  | .worker => WorkerEvent

def program : (party : Party) → Entry party → List Instr
  | .javaScript, entry => ApiCall.code entry
  | .worker, entry => WorkerEvent.code entry

section Closed

theorem query_closed (inBlock : Bool) : Closed inBlock (locked []) := (closed_nil inBlock).locked

theorem onCallState_closed : Closed false onCallState := (query_closed true).dispatched

theorem onCallMediaState_closed (active : Bool) : Closed false (onCallMediaState active) := by
  apply Closed.dispatched
  apply (query_closed true).append
  split
  · exact (query_closed true).append (query_closed true)
  · exact closed_nil true

theorem empty_dispatch_closed : Closed false (dispatched []) := (closed_nil true).dispatched

theorem sessionWork_closed (work : List SessionWork) : Closed false (sessionWork work) := by
  apply closed_flatMap
  intro item
  cases item with
  | lockSection => exact query_closed false
  | stateChanged disconnected =>
    apply onCallState_closed.append
    split
    · exact query_closed false
    · exact closed_nil false
  | mediaUpdate active => exact onCallMediaState_closed active

theorem registrationWork_closed (work : List RegistrationWork) : Closed false (registrationWork work) := by
  apply closed_flatMap
  intro item
  cases item with
  | started => exact empty_dispatch_closed
  | state => exact (query_closed true).dispatched.locked

theorem pjsuaCallAnswer_closed (work sent : List SessionWork) : Closed false (pjsuaCallAnswer work sent) :=
  ((query_closed false).append (sessionWork_closed work).locked.locked).append (sessionWork_closed sent)

theorem apiCall_closed (call : ApiCall) : Closed false call.code := by
  cases call with
  | register added =>
    cases added with
    | none => exact query_closed false
    | some work => exact (query_closed false).append (registrationWork_closed work).locked
  | unregister deleted =>
    cases deleted with
    | none => exact closed_nil false
    | some work => exact (registrationWork_closed work).locked.locked
  | refresh valid =>
    cases valid with
    | none => exact closed_nil false
    | some work => exact (registrationWork_closed work).locked
  | placeCall work => exact (sessionWork_closed work).locked.locked
  | answerCall work sent => exact pjsuaCallAnswer_closed work sent
  | hangUpCall work => exact ((query_closed false).append (query_closed false)).append (sessionWork_closed work)
  | muteCall => exact query_closed false
  | unmuteCall => exact (query_closed false).append (query_closed false)
  | sendText failed =>
    cases failed with
    | false => exact closed_nil false
    | true => exact empty_dispatch_closed

theorem workerEvent_closed (event : WorkerEvent) : Closed false event.code := by
  cases event with
  | registrationResponse work => exact (registrationWork_closed work).locked
  | reregistrationTimer work => exact (registrationWork_closed work).locked.locked
  | incomingInvite work sent pending =>
    have announced : Closed false (onIncomingCall work sent) :=
      (pjsuaCallAnswer_closed work sent).append (query_closed true).dispatched
    exact (announced.append (sessionWork_closed pending)).locked
  | sessionEvent work => exact sessionWork_closed work
  | message => exact empty_dispatch_closed
  | messageStatus => exact empty_dispatch_closed
  | mwiNotify => exact empty_dispatch_closed

theorem program_closed (party : Party) (entry : Entry party) : Closed false (program party entry) := by
  cases party with
  | javaScript => exact apiCall_closed entry
  | worker => exact workerEvent_closed entry

end Closed

end TiSIP.Threads
