import TiSIP.Pjsip.Invite

namespace TiSIP.Pjsip

open Pjsua (InvState)

/-- How far a call has come in a state, as the application is told. -/
def progress : InvState → Nat
  | .null => 0
  | .calling | .incoming => 1
  | .early | .connecting => 2
  | .confirmed => 3
  | .disconnected => 4

def Moves (role : Role) (state next : InvState) : Prop :=
  state ≠ .disconnected ∧ progress state ≤ progress next ∧ (state = .null → next = .calling ∨ next = .disconnected) ∧
    (role = .uas → next ≠ .calling) ∧ (role = .uac → next ≠ .incoming)

instance (role : Role) (state next : InvState) : Decidable (Moves role state next) :=
  inferInstanceAs (Decidable (_ ∧ _))

/-- A client may start again as long as it is not connected; nothing follows DISCONNECTED. -/
def Forward (role : Role) : InvState → List Change → Prop
  | _, [] => True
  | state, .set next :: rest => Moves role state next ∧ Forward role next rest
  | state, .restart :: rest => (role = .uac ∧ progress state ≤ 2) ∧ Forward role .null rest

theorem forward_append {role : Role} {first second : List Change} : ∀ {state : InvState},
    Forward role state first → Forward role (settled state first) second → Forward role state (first ++ second) := by
  induction first with
  | nil => exact fun _ next => next
  | cons change rest ih =>
    intro state forward next
    cases change with
    | set _ => exact ⟨forward.1, ih forward.2 next⟩
    | restart => exact ⟨forward.1, ih forward.2 next⟩

def Advances (role : Role) (state : InvState) (script : Script) : Prop := Forward role state (script state)

section Parts

variable {role : Role} {state : InvState} {event : TsxEvent} {course : Outcomes}

theorem advances_skip : Advances role state skip := trivial

theorem advances_put {next : InvState} (moves : Moves role state next) : Advances role state (put next) := ⟨moves, trivial⟩

theorem advances_andThen {first next : Script} (before : Advances role state first)
    (after : Advances role (settled state (first state)) next) : Advances role state (first.andThen next) :=
  forward_append before after

theorem advances_ite {condition : Prop} [Decidable condition] {first second : Script}
    (yes : condition → Advances role state first) (no : ¬ condition → Advances role state second) :
    Advances role state (if condition then first else second) :=
  iteInduction (motive := Advances role state) yes no

theorem endSession_cases (role : Role) (outcome : SendOutcome) (state : InvState) :
    endSession role outcome state = [] ∨
      endSession role outcome state = [.set .disconnected] ∧ state ≠ .disconnected ∧ state ≠ .null := by
  cases state <;> cases role <;> cases outcome <;> decide

theorem advances_endSession (outcome : SendOutcome) : Advances role state (endSession role outcome) := by
  unfold Advances
  rcases endSession_cases role outcome state with none | ⟨ended, up, sent⟩
  · rw [none]
    trivial
  · rw [ended]
    refine ⟨⟨up, ?_, fun null => absurd null sent, nofun, nofun⟩, trivial⟩
    cases state <;> decide

theorem settled_endSession (outcome : SendOutcome) :
    settled state (endSession role outcome state) = state ∨
      settled state (endSession role outcome state) = .disconnected := by
  rcases endSession_cases role outcome state with none | ⟨ended, _⟩
  · rw [none]
    exact .inl rfl
  · rw [ended]
    exact .inr rfl

theorem advances_processSdp : Advances role state (processSdp role course) := by
  unfold processSdp
  cases course.sdp with
  | none => exact advances_skip
  | some outcome => exact advances_endSession outcome

theorem settled_processSdp :
    settled state (processSdp role course state) = state ∨
      settled state (processSdp role course state) = .disconnected := by
  unfold processSdp
  cases course.sdp with
  | none => exact .inl rfl
  | some outcome => exact settled_endSession outcome

theorem advances_afterSdp {next : Script} (same : Advances role state next) (ended : Advances role .disconnected next) :
    Advances role state ((processSdp role course).andThen next) := by
  apply advances_andThen advances_processSdp
  have settles : settled state (processSdp role course state) = state ∨
      settled state (processSdp role course state) = .disconnected := settled_processSdp
  rcases settles with unchanged | disconnected
  · rw [unchanged]
    exact same
  · rw [disconnected]
    exact ended

theorem advances_confirm (started : state ≠ .null) (up : state ≠ .disconnected) :
    Advances role state (confirm role course) := by
  refine advances_ite (fun _ => advances_put ?_) fun _ => advances_endSession _
  exact ⟨up, by cases state <;> simp_all [progress], fun null => absurd null started, nofun, nofun⟩

theorem advances_sendAck (started : state ≠ .null) : Advances role state (sendAck role course) := by
  unfold Advances sendAck
  split
  · rename_i sends
    have up : state ≠ .disconnected := by
      rintro rfl
      simp [beforeConfirmed] at sends
    exact advances_confirm started up
  · trivial

theorem advances_sendAck_ended : Advances role .disconnected (sendAck role course) := advances_sendAck nofun

theorem advances_checked {next : Script} (same : Advances role state next) (ended : Advances role .disconnected next) :
    Advances role state (checked role course next) :=
  advances_ite (fun _ => advances_endSession _) fun _ => advances_afterSdp same ended

end Parts

section Handlers

variable {role : Role} {state : InvState} {event : TsxEvent} {course : Outcomes}

def Guarded (role : Role) (state : InvState) (script : Script) : Prop :=
  (.restart ∈ script state → role = .uac ∧ state ≠ .disconnected) → Advances role state script

theorem Advances.guarded {script : Script} (advances : Advances role state script) : Guarded role state script :=
  fun _ => advances

theorem guarded_ite {condition : Prop} [Decidable condition] {first second : Script}
    (yes : condition → Guarded role state first) (no : ¬ condition → Guarded role state second) :
    Guarded role state (if condition then first else second) :=
  iteInduction (motive := Guarded role state) yes no

def Calm (state : InvState) (event : TsxEvent) (course : Outcomes) : Prop :=
  event.code = 422 → course.timer = .restarted → progress state ≤ 2 ∨ state = .disconnected

theorem guarded_timerRestart (calm : Calm state event course) (code : event.code = 422) :
    Guarded role state (timerRestart course) := by
  intro safe
  unfold timerRestart at safe ⊢
  by_cases restarted : course.timer = .restarted
  · rw [if_pos restarted] at safe ⊢
    obtain ⟨client, up⟩ := safe (by simp)
    rcases calm code restarted with low | ended
    · exact ⟨⟨client, low⟩, trivial⟩
    · exact absurd ended up
  · rw [if_neg restarted]
    exact advances_skip

theorem advances_refreshError : Advances role state (refreshError role course) :=
  advances_ite (fun _ => advances_endSession _) fun _ => advances_skip

theorem moves_disconnected (up : state ≠ .disconnected) : Moves role state .disconnected := by
  refine ⟨up, ?_, fun _ => .inr rfl, nofun, nofun⟩
  cases state <;> decide

theorem guarded_uacTsxResponse (calm : Calm state event course) :
    Guarded role state (uacTsxResponse role event course) := by
  unfold Guarded Advances uacTsxResponse
  split
  · rename_i gone
    exact fun _ => advances_put (moves_disconnected gone.1)
  · split
    · exact fun _ => trivial
    · split
      · rename_i small
        exact guarded_timerRestart calm small.2
      · split
        · exact fun _ => advances_refreshError
        · exact fun _ => trivial

theorem guarded_updateResponse (calm : Calm state event course) {unhandled : Script}
    (rest : Guarded role state unhandled) : Guarded role state (updateResponse role event course unhandled) := by
  apply guarded_ite (fun _ => advances_skip.guarded)
  intro _
  apply guarded_ite (fun small => guarded_timerRestart calm small.2)
  intro _
  refine guarded_ite (fun _ => ?_) fun _ => ?_
  · exact (advances_ite (fun _ => advances_processSdp) fun _ => advances_endSession _).guarded
  · apply guarded_ite (fun _ => advances_refreshError.guarded)
    intro _
    exact guarded_ite (fun _ => advances_skip.guarded) fun _ => rest

theorem guarded_callRejection (up : state ≠ .disconnected) (low : progress state ≤ 2) :
    Guarded role state (callRejection event course) := by
  have restart : Guarded role state fun _ => [.restart] := fun safe => ⟨⟨(safe (by simp)).1, low⟩, trivial⟩
  refine guarded_ite (fun _ => restart) fun _ => guarded_ite (fun _ => ?_) fun _ => ?_
  · exact guarded_ite (fun _ => restart) fun _ => advances_skip.guarded
  · exact (advances_put (moves_disconnected up)).guarded

theorem advances_byeResponse (up : state ≠ .disconnected) : Advances role state (byeResponse event course) :=
  advances_ite (fun _ => advances_skip) fun _ => advances_put (moves_disconnected up)

theorem advances_respondIncomingBye : Advances role state (respondIncomingBye course) := by
  unfold Advances respondIncomingBye
  split
  · rename_i responded
    exact advances_put (moves_disconnected responded.2)
  · trivial

theorem advances_success {next : Script} (moves : Moves role state .connecting) (same : Advances role .connecting next)
    (ended : Advances role .disconnected next) :
    Advances role state ((put .connecting).andThen (checked role course next)) :=
  advances_andThen (advances_put moves) (advances_checked same ended)

theorem advances_cancelled (cancel : course.pendingCancel ≠ some .failed ∨ course.tagged = false) :
    Advances .uac .calling ((match course.pendingCancel with
      | none => skip
      | some outcome => endSession .uac outcome).andThen
        (if course.tagged then (put .early).andThen (processSdp .uac course) else skip)) := by
  have early : Advances .uac .calling (if course.tagged then (put .early).andThen (processSdp .uac course) else skip) :=
    advances_ite (fun _ => advances_andThen (advances_put (by decide)) advances_processSdp) fun _ => advances_skip
  rcases cancel with notFailed | untagged
  · cases pending : course.pendingCancel with
    | none => exact advances_andThen advances_skip early
    | some outcome =>
      cases outcome with
      | failed => exact absurd pending notFailed
      | notCreated => exact advances_andThen (advances_endSession _) early
      | sent => exact advances_andThen (advances_endSession _) early
  · rw [untagged]
    refine advances_andThen ?_ advances_skip
    cases course.pendingCancel with
    | none => exact advances_skip
    | some outcome => exact advances_endSession outcome

theorem guarded_onStateCalling
    (cancel : event.state = .proceeding → course.pendingCancel ≠ some .failed ∨ course.tagged = false) :
    Guarded .uac .calling (onStateCalling .uac event course) := by
  have disconnected : Advances .uac .calling (put .disconnected) := advances_put (moves_disconnected nofun)
  refine guarded_ite (fun _ => ?_) fun _ => guarded_ite (fun _ => ?_) fun _ => ?_
  · split
    · exact (advances_put (by decide)).guarded
    · rename_i proceeding
      exact (advances_cancelled (cancel proceeding)).guarded
    · refine guarded_ite (fun _ => ?_) fun _ => guarded_callRejection nofun (by decide)
      exact (advances_success (by decide) advances_skip advances_skip).guarded
    · refine guarded_ite (fun _ => ?_) fun _ => disconnected.guarded
      exact (advances_success (by decide) (advances_sendAck nofun) advances_sendAck_ended).guarded
    · exact advances_skip.guarded
  · exact guarded_ite (fun _ => disconnected.guarded) fun _ => advances_skip.guarded
  · exact guarded_ite (fun _ => advances_processSdp.guarded) fun _ => advances_skip.guarded

theorem advances_onStateIncoming : Advances .uas .incoming (onStateIncoming event) := by
  have disconnected : Advances .uas .incoming (put .disconnected) := advances_put (moves_disconnected nofun)
  refine advances_ite (fun _ => ?_) fun _ => advances_skip
  split
  · exact advances_put (by decide)
  · exact advances_ite (fun _ => advances_put (by decide)) fun _ => advances_skip
  · exact advances_ite (fun _ => advances_put (by decide)) fun _ => disconnected
  · exact disconnected
  · exact advances_skip

theorem advances_onStateNull (first : event.state = .calling ∨ event.state = .terminated ∧ isSuccess event.code = false) :
    Advances .uac .null (onStateNull .uac event course) := by
  refine advances_ite (fun _ => advances_ite (fun _ => advances_put (by decide)) fun later => ?_) fun _ => advances_skip
  have disconnected : Advances .uac .null (put .disconnected) := advances_put (moves_disconnected nofun)
  rcases first with calling | ⟨terminated, failed⟩
  · exact absurd calling later
  · refine advances_ite (fun _ => ?_) fun _ => advances_ite (fun _ => ?_) fun _ => ?_
    · rw [terminated, failed]
      exact disconnected
    · exact advances_ite (fun _ => disconnected) fun _ => advances_skip
    · exact advances_ite (fun _ => advances_processSdp) fun _ => advances_skip

theorem guarded_onStateEarly (calm : Calm .early event course) :
    Guarded role .early (onStateEarly role event course) := by
  have disconnected : Advances role .early (put .disconnected) := advances_put (moves_disconnected nofun)
  have connecting : Moves role .early .connecting := by cases role <;> decide
  have again : Moves role .early .early := by cases role <;> decide
  have acknowledged : ∀ state, state ≠ .null →
      Advances role state (if event.role = .uac then sendAck role course else skip) :=
    fun _ started => advances_ite (fun _ => advances_sendAck started) fun _ => advances_skip
  have answered : Guarded role .early (if isSuccess event.code then
      (put .connecting).andThen (if event.received then
        checked role course (if event.role = .uac then sendAck role course else skip)
      else if event.role = .uac then sendAck role course else skip)
      else put .disconnected) := by
    refine guarded_ite (fun _ => ?_) fun _ => disconnected.guarded
    refine (advances_andThen (advances_put connecting) (advances_ite (fun _ => ?_) fun _ => ?_)).guarded
    · exact advances_checked (acknowledged _ nofun) (acknowledged _ nofun)
    · exact acknowledged _ nofun
  refine guarded_ite (fun _ => ?_) fun _ => ?_
  · split
    · refine (advances_andThen (advances_put again) ?_).guarded
      exact advances_ite (fun _ => advances_processSdp) fun _ => advances_skip
    · refine guarded_ite (fun _ => ?_) fun _ => guarded_ite (fun _ => ?_) fun _ => disconnected.guarded
      · refine (advances_andThen (advances_put connecting) ?_).guarded
        exact advances_ite (fun _ => advances_checked advances_skip advances_skip) fun _ => advances_skip
      · exact guarded_callRejection nofun (by decide)
    · exact answered
    · exact answered
    · exact advances_skip.guarded
  · apply guarded_ite (fun _ => advances_skip.guarded)
    intro _
    apply guarded_ite (fun _ => advances_processSdp.guarded)
    intro _
    apply guarded_ite (fun _ => guarded_updateResponse calm advances_skip.guarded)
    intro _
    apply guarded_ite (fun _ => guarded_uacTsxResponse calm)
    intro _
    exact guarded_ite (fun _ => advances_respondIncomingBye.guarded) fun _ => advances_skip.guarded

theorem guarded_onEstablished (calm : Calm state event course) (up : state ≠ .disconnected) :
    Guarded role state (onEstablished role event course) := by
  apply guarded_ite (fun _ => advances_respondIncomingBye.guarded)
  intro _
  apply guarded_ite (fun _ => (advances_byeResponse up).guarded)
  intro _
  apply guarded_ite (fun _ => advances_processSdp.guarded)
  intro _
  apply guarded_ite (fun _ => guarded_updateResponse calm (guarded_uacTsxResponse calm))
  intro _
  exact guarded_ite (fun _ => guarded_uacTsxResponse calm) fun _ => advances_skip.guarded

theorem guarded_onStateConnecting (calm : Calm .connecting event course)
    (sdp : event.state = .confirmed → event.received = true → course.sdp ≠ some .failed) :
    Guarded role .connecting (onStateConnecting role event course) := by
  have confirmed : Advances role .connecting (confirm role course) := advances_confirm nofun nofun
  have disconnected : Advances role .connecting (put .disconnected) := advances_put (moves_disconnected nofun)
  refine guarded_ite (fun _ => ?_) fun _ => guarded_onEstablished calm nofun
  split
  · rename_i acknowledged
    refine guarded_ite (fun _ => ?_) fun _ => advances_skip.guarded
    by_cases received : event.received = true
    · rw [if_pos received]
      have kept : processSdp role course .connecting = [] := by
        have notFailed := sdp acknowledged received
        unfold processSdp
        cases held : course.sdp with
        | none => rfl
        | some outcome =>
          cases outcome with
          | failed => exact absurd held notFailed
          | notCreated => rfl
          | sent => rfl
      refine (advances_andThen advances_processSdp ?_).guarded
      rw [kept]
      exact confirmed
    · rw [if_neg received]
      exact (advances_andThen advances_skip confirmed).guarded
  · exact guarded_ite (fun _ => disconnected.guarded) fun _ => advances_skip.guarded
  · exact advances_skip.guarded

theorem guarded_onStateConfirmed (calm : Calm .confirmed event course) :
    Guarded role .confirmed (onStateConfirmed role event course) := by
  have checks : Advances role .confirmed (checked role course (sendAck role course)) :=
    advances_checked (advances_sendAck nofun) advances_sendAck_ended
  refine guarded_ite (fun _ => ?_) fun _ => guarded_onEstablished calm nofun
  split
  · exact advances_processSdp.guarded
  · exact guarded_ite (fun _ => advances_processSdp.guarded) fun _ => advances_skip.guarded
  · exact advances_skip.guarded
  · exact advances_skip.guarded
  · exact advances_skip.guarded
  · refine guarded_ite (fun _ => ?_) fun _ => guarded_uacTsxResponse calm
    exact checks.guarded

theorem guarded_onStateDisconnected (calm : Calm .disconnected event course) :
    Guarded role .disconnected (onStateDisconnected role event course) :=
  guarded_ite (fun _ => guarded_uacTsxResponse calm) fun _ => advances_skip.guarded

theorem advances_onRxAck : Advances role state (onRxAck role course) := by
  refine advances_afterSdp ?_ trivial
  unfold Advances
  dsimp only
  split
  · rename_i connecting
    rw [connecting]
    exact advances_confirm nofun nofun
  · trivial

end Handlers

def Session.Fits (session : Session) : Prop :=
  (session.state = .null ∨ session.state = .calling → session.role = .uac) ∧
    (session.state = .incoming → session.role = .uas)

/-- The events that take a session forward: no 422 reaches a confirmed session, no CANCEL that
    waited fails at once when a response with a tag comes, and the SDP of an ACK ends no
    session whose BYE fails at once. -/
def KeepsForward (session : Session) : SessionEvent → Prop
  | .tsx event course =>
    (session.state = .confirmed → ¬ (event.code = 422 ∧ course.timer = .restarted)) ∧
      (session.state = .calling →
        ¬ (event.state = .proceeding ∧ course.pendingCancel = some .failed ∧ course.tagged = true)) ∧
      (session.state = .connecting →
        ¬ (event.state = .confirmed ∧ event.received = true ∧ course.sdp = some .failed))
  | _ => True

instance (session : Session) : (event : SessionEvent) → Decidable (KeepsForward session event)
  | .tsx _ _ => inferInstanceAs (Decidable (_ ∧ _))
  | .ack _ | .success _ | .ended _ => instDecidableTrue

theorem onTsxState_forward {session : Session} {event : TsxEvent} {course : Outcomes} (fits : session.Fits)
    (arrives : Arrives session (.tsx event course)) (keeps : KeepsForward session (.tsx event course)) :
    Guarded session.role session.state (onTsxState session.role event course) := by
  obtain ⟨role, state, callingReported⟩ := session
  obtain ⟨confirmed, calling, connecting⟩ := keeps
  obtain ⟨client, server⟩ := fits
  dsimp only at client server arrives confirmed calling connecting ⊢
  have calm : Calm state event course := by
    intro code restarted
    cases state with
    | confirmed => exact absurd ⟨code, restarted⟩ (confirmed rfl)
    | disconnected => exact .inr rfl
    | null | calling | incoming | early | connecting => exact .inl (by decide)
  cases state with
  | null =>
    obtain rfl := client (.inl rfl)
    exact (advances_onStateNull (arrives rfl)).guarded
  | calling =>
    obtain rfl := client (.inr rfl)
    apply guarded_onStateCalling
    intro proceeding
    by_cases failed : course.pendingCancel = some .failed
    · refine .inr (Bool.eq_false_iff.mpr fun tagged => ?_)
      exact calling rfl ⟨proceeding, failed, tagged⟩
    · exact .inl failed
  | incoming =>
    obtain rfl := server rfl
    exact advances_onStateIncoming.guarded
  | early => exact guarded_onStateEarly calm
  | connecting =>
    refine guarded_onStateConnecting calm fun acknowledged received failed => ?_
    exact connecting rfl ⟨acknowledged, received, failed⟩
  | confirmed => exact guarded_onStateConfirmed calm
  | disconnected => exact guarded_onStateDisconnected calm

theorem script_forward {session : Session} {event : SessionEvent} (fits : session.Fits)
    (arrives : Arrives session event) (safe : ¬ Crashes session event) (keeps : KeepsForward session event) :
    Forward session.role session.state (event.script session.role session.state) := by
  cases event with
  | tsx event course =>
    apply onTsxState_forward fits arrives keeps
    intro restarts
    have sound := not_and.mp safe restarts
    rw [not_or] at sound
    refine ⟨?_, sound.2⟩
    cases held : session.role with
    | uac => rfl
    | uas => exact absurd held sound.1
  | ack course => exact advances_onRxAck
  | success course => exact advances_sendAck arrives
  | ended outcome => exact advances_endSession outcome

end TiSIP.Pjsip
