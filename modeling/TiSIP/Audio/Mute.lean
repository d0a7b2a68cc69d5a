import TiSIP.Audio.Topology

namespace TiSIP.Audio

open Pjmedia Pjsua Proxy Switchboard Transition

inductive CallbackStage
  | entered
  | connectOut (slot : Int)
  | connectIn (slot : Int)
  deriving DecidableEq

inductive AudioOperation
  | mute
  | unmute
  | hangUp
  deriving DecidableEq

/-- What an operation was asked for, and the calls and the uninitialised structure that it found. -/
structure Asked where
  callId : Int
  var : CallVar
  ci : CallInfo

def Asked.Slot (asked : Asked) (slot : Fin maxConfPorts) : Prop := MutedSlot asked.var asked.callId asked.ci slot

instance (asked : Asked) (slot : Fin maxConfPorts) : Decidable (asked.Slot slot) :=
  inferInstanceAs (Decidable (MutedSlot _ _ _ _))

/-- An operation of the JavaScript thread after its query, which left it `slot`. `asked` is there for what is said
    of the steps that follow; `target` is the live call it was asked for, as long as that call has not ended. -/
inductive UserStage
  | update (operation : AudioOperation) (asked : Asked) (slot : Int) (target : Option (Fin maxCalls))
  | hangup (callId : Int)

structure MuteState where
  var : CallVar
  user : Option UserStage
  running : Fin maxCalls → Option CallbackStage
  /-- `muteCall` was executed on the live call, and `unmuteCall` was not since -/
  muted : Fin maxCalls → Bool

inductive MuteEvent
  | library (event : LibraryEvent)
  | callback (index : Fin maxCalls)
  | answerCall (callId : Int)
  | query (operation : AudioOperation) (callId : Int) (ci : CallInfo)
  | update
  | hangup (outcome : HangupOutcome)

def liveCall (var : CallVar) (callId : Int) : Option (Fin maxCalls) :=
  (SlotTable.slotOf maxCalls callId).filter fun index => (var.calls index).Live

def mark (muted : Fin maxCalls → Bool) (target : Option (Fin maxCalls)) (value : Bool) : Fin maxCalls → Bool :=
  match target with
  | none => muted
  | some index => Function.update muted index value

def forget (index : Fin maxCalls) : UserStage → UserStage
  | .update operation asked slot target =>
    .update operation asked slot (target.filter fun other => other ≠ index)
  | .hangup callId => .hangup callId

def callbackStep (state : MuteState) (index : Fin maxCalls) : CallbackStage → MuteState
  | .entered =>
    let ci := (callGetInfo state.var index.val .zero).2
    let next := if ci.mediaStatus = .active then some (.connectOut ci.confSlot) else none
    { state with running := Function.update state.running index next }
  | .connectOut slot =>
    { state with
      var := confConnect state.var slot 0
      running := Function.update state.running index (some (.connectIn slot)) }
  | .connectIn slot =>
    { state with var := confConnect state.var 0 slot, running := Function.update state.running index none }

def userStep (state : MuteState) (operation : AudioOperation) (callId slot : Int) (target : Option (Fin maxCalls)) :
    MuteState :=
  match operation with
  | .mute =>
    { state with
      var := confDisconnect state.var 0 slot, user := none, muted := mark state.muted target true }
  | .hangUp =>
    { state with
      var := confDisconnect state.var 0 slot, user := some (.hangup callId), muted := mark state.muted target true }
  | .unmute =>
    { state with
      var := confConnect state.var 0 slot, user := none, muted := mark state.muted target false }

/-- The hang-up needs the dialog lock, which a running callback of the call holds. -/
def Acquires (state : MuteState) (callId : Int) (outcome : HangupOutcome) : Prop :=
  ∀ index, SlotTable.slotOf maxCalls callId = some index → (state.running index).isSome → outcome = .notAcquired

instance (state : MuteState) (callId : Int) (outcome : HangupOutcome) : Decidable (Acquires state callId outcome) :=
  inferInstanceAs (Decidable (∀ _, _ → _ → _))

def muteStep (state : MuteState) : MuteEvent → Option MuteState
  | .library event =>
    if (state.running event.call).isSome then none
    else
      (libraryStep state.var event).map fun (var, reported) =>
        { var
          user := if event.renews then state.user.map (forget event.call) else state.user
          running := if reported then Function.update state.running event.call (some .entered) else state.running
          muted := if event.renews then Function.update state.muted event.call false else state.muted }
  | .callback index => (state.running index).map (callbackStep state index)
  | .answerCall _ => some state
  | .query operation callId ci =>
    if state.user.isSome then none
    else
      let slot := (callGetInfo state.var callId ci).2.confSlot
      let asked := { callId, var := state.var, ci }
      some { state with user := some (.update operation asked slot (liveCall state.var callId)) }
  | .update =>
    match state.user with
    | some (.update operation asked slot target) => some (userStep state operation asked.callId slot target)
    | _ => none
  | .hangup outcome =>
    match state.user with
    | some (.hangup callId) =>
      if Acquires state callId outcome then
        let var := (callHangup state.var callId outcome).2
        let ended := (liveCall state.var callId).filter fun index => ¬ (var.calls index).Live
        some { state with var, user := none, muted := mark state.muted ended false }
      else none
    | _ => none

def MutePersists (state : MuteState) : Prop :=
  ∀ index slot, state.muted index = true → CurrentSlot state.var index slot → ¬ state.var.conf.Transmits 0 slot

/-- Whatever slot of the call hears the microphone is the one the call had when it was asked for: its selected line
    has not moved since, and no other line of it hears the microphone. -/
def CutsMicrophone (state : MuteState) (asked : Asked) (target : Option (Fin maxCalls)) : Prop :=
  ∀ index, target = some index → ∀ mi heard, seatOf ((state.var.calls index).channel.media mi) = some heard →
    state.var.conf.Transmits 0 heard → asked.Slot heard

/-- The slot that the call had when it was asked for is not one that another, muted call has taken since. -/
def SparesMuted (state : MuteState) (asked : Asked) (target : Option (Fin maxCalls)) : Prop :=
  ∀ index mi heard, state.muted index = true → target ≠ some index →
    seatOf ((state.var.calls index).channel.media mi) = some heard → ¬ asked.Slot heard

instance (state : MuteState) (asked : Asked) (target : Option (Fin maxCalls)) :
    Decidable (CutsMicrophone state asked target) :=
  inferInstanceAs (Decidable (∀ _, _ → _))

instance (state : MuteState) (asked : Asked) (target : Option (Fin maxCalls)) :
    Decidable (SparesMuted state asked target) :=
  inferInstanceAs (Decidable (∀ _ _ _, _ → _ → _ → _))

def UserStage.KeepsMute (state : MuteState) : UserStage → Prop
  | update .mute asked _ target | update .hangUp asked _ target => CutsMicrophone state asked target
  | update .unmute asked _ target => SparesMuted state asked target
  | hangup _ => True

instance (state : MuteState) : (stage : UserStage) → Decidable (stage.KeepsMute state)
  | .update .mute asked _ target | .update .hangUp asked _ target =>
    inferInstanceAs (Decidable (CutsMicrophone state asked target))
  | .update .unmute asked _ target => inferInstanceAs (Decidable (SparesMuted state asked target))
  | .hangup _ => instDecidableTrue

def CallbackStage.opens : CallbackStage → Bool
  | connectIn _ => true
  | _ => false

/-- The steps that keep every muted call muted: no media-state callback connects the
    microphone to a muted call, and the calls that are asked for keep their slots until the
    operation gets to the bridge. -/
def KeepsMute (state : MuteState) : MuteEvent → Prop
  | .callback index => (state.running index).any CallbackStage.opens = true → state.muted index = false
  | .update => ∀ stage, state.user = some stage → stage.KeepsMute state
  | _ => True

instance (state : MuteState) : (event : MuteEvent) → Decidable (KeepsMute state event)
  | .callback _ => inferInstanceAs (Decidable (_ → _))
  | .update =>
    match found : state.user with
    | none => .isTrue fun stage held => by cases found.symm.trans held
    | some stage =>
      decidable_of_iff (stage.KeepsMute state)
        ⟨fun keeps other held => Option.some.inj (found.symm.trans held) ▸ keeps, fun keeps => keeps stage found⟩
  | .library _ | .answerCall _ | .query .. | .hangup _ => instDecidableTrue

def Told (user : Option UserStage) : Prop :=
  ∀ operation asked slot target, user = some (.update operation asked slot target) →
    ∀ port : Fin maxConfPorts, slot = port.val ↔ asked.Slot port

structure StagesSound (state : MuteState) : Prop where
  sound : AudioSound state.var
  running : ∀ index slot, state.running index = some (.connectOut slot) ∨ state.running index = some (.connectIn slot) →
    ∃ mi, ((state.var.calls index).channel.media mi).confSlot = slot
  told : Told state.user

structure MuteInvariant (state : MuteState) : Prop extends StagesSound state where
  silent : ∀ index mi, state.muted index = true → Silent 0 state.var.conf.board (seats state.var.calls) (index, mi)

theorem MuteInvariant.persists {state : MuteState} (invariant : MuteInvariant state) : MutePersists state := by
  intro index slot muted current
  obtain ⟨mi, _, held⟩ := current
  exact invariant.silent index mi muted slot held

section Silence

variable {var : CallVar} {line : AudioLine}

theorem silent_connect {sink : Int} (silent : Silent 0 var.conf.board (seats var.calls) line)
    (elsewhere : ∀ slot, seats var.calls line = some slot → (slot.val : Int) ≠ sink) :
    Silent 0 (confConnect var 0 sink).conf.board (seats var.calls) line := by
  rcases confConnect_board var sink with same | ⟨slot, rfl, connected⟩
  · rw [same]
    exact silent
  · rw [connected]
    exact silent.connect fun _ held => elsewhere slot held rfl

theorem silent_disconnect (sink : Int) (silent : Silent 0 var.conf.board (seats var.calls) line) :
    Silent 0 (confDisconnect var 0 sink).conf.board (seats var.calls) line := by
  rcases confDisconnect_board var sink with same | ⟨slot, _, cut⟩
  · rw [same]
    exact silent
  · rw [cut]
    exact silent.disconnect

theorem connectOut_board (var : CallVar) (source : Int) :
    (confConnect var source 0).conf.board = var.conf.board ∨
      ∃ slot : Fin maxConfPorts, source = slot.val ∧
        (confConnect var source 0).conf.board = var.conf.board.connect slot 0 := by
  rcases slotOf_none_or source maxConfPorts with outside | ⟨slot, rfl⟩
  · apply Or.inl
    unfold confConnect
    rw [Conference.connectPort_refused (by simp [Conference.ends, outside])]
    rfl
  · exact .inr ⟨slot, rfl, Conference.board_connectPort var.conf slot 0⟩

theorem silent_connectOut (source : Int) (sound : AudioSound var)
    (silent : Silent 0 var.conf.board (seats var.calls) line) :
    Silent 0 (confConnect var source 0).conf.board (seats var.calls) line := by
  rcases connectOut_board var source with same | ⟨slot, _, connected⟩
  · rw [same]
    exact silent
  · rw [connected]
    have notHub : ∀ held, seats var.calls line = some held → held ≠ 0 := sound.seated.notHub line
    exact silent.connect fun _ held => notHub 0 held rfl

theorem connectOut_sound (source : Int) (sound : AudioSound var) : AudioSound (confConnect var source 0) := by
  refine sound.of_board rfl ?_
  rcases connectOut_board var source with same | ⟨slot, _, connected⟩
  · rw [same]
    exact sound.seated
  · rw [connected]
    exact sound.seated.connect (.inr rfl)

theorem silent_cut {sink : Int} (only : ∀ heard, seats var.calls line = some heard →
      var.conf.Transmits 0 heard → (heard.val : Int) = sink) :
    Silent 0 (confDisconnect var 0 sink).conf.board (seats var.calls) line := by
  intro slot held heard
  rcases slotOf_none_or sink maxConfPorts with outside | ⟨cutSlot, rfl⟩
  · have same : (confDisconnect var 0 sink).conf = var.conf := by
      unfold confDisconnect
      exact Conference.kept_disconnectPort_out outside
    rw [same] at heard
    have inside := only slot held heard
    rw [← inside, SlotTable.slotOf_val] at outside
    cases outside
  · have cut : (confDisconnect var 0 cutSlot.val).conf.board = var.conf.board.disconnect 0 cutSlot :=
      Conference.board_disconnectPort var.conf 0 cutSlot
    rw [cut] at heard
    have same : slot = cutSlot := Fin.ext (Int.ofNat.inj (only slot held heard.1))
    exact heard.2 ⟨rfl, same⟩

end Silence

theorem mark_eq_true {muted : Fin maxCalls → Bool} {target : Option (Fin maxCalls)} {index : Fin maxCalls}
    (marked : mark muted target true index = true) : target = some index ∨ muted index = true := by
  cases target with
  | none => exact .inr marked
  | some other =>
    by_cases same : index = other
    · exact .inl (congrArg some same.symm)
    · apply Or.inr
      simpa [mark, same] using marked

theorem mark_false {muted : Fin maxCalls → Bool} {target : Option (Fin maxCalls)} {index : Fin maxCalls}
    (marked : mark muted target false index = true) : target ≠ some index ∧ muted index = true := by
  cases target with
  | none => exact ⟨nofun, marked⟩
  | some other =>
    by_cases same : index = other
    · simp [mark, same] at marked
    · have before : muted index = true := by simpa [mark, same] using marked
      exact ⟨fun hit => same (Option.some.inj hit).symm, before⟩

section Told

theorem told_none : Told none := by
  intro _ _ _ _ impossible
  cases impossible

theorem told_hangup (callId : Int) : Told (some (.hangup callId)) := by
  intro _ _ _ _ impossible
  cases impossible

theorem told_query (operation : AudioOperation) (var : CallVar) (callId : Int) (ci : CallInfo)
    (target : Option (Fin maxCalls)) :
    Told (some (.update operation { callId, var, ci } (callGetInfo var callId ci).2.confSlot target)) := by
  intro _ _ _ _ same port
  cases same
  exact queried_slot_iff

theorem Told.forget {user : Option UserStage} (told : Told user) (index : Fin maxCalls) :
    Told (user.map (forget index)) := by
  intro operation asked slot target forgotten
  obtain ⟨stage, held, same⟩ := Option.map_eq_some_iff.mp forgotten
  cases stage with
  | update operation' asked' slot' target' =>
    cases same
    exact told _ _ _ _ held
  | hangup callId => cases same

end Told

section Stages

variable {state : MuteState}

theorem StagesSound.links {var : CallVar} {user : Option UserStage} {running : Fin maxCalls → Option CallbackStage}
    {muted : Fin maxCalls → Bool} (stages : StagesSound state) (calls : var.calls = state.var.calls)
    (sound : AudioSound var) (told : Told user)
    (held : ∀ index slot, running index = some (.connectOut slot) ∨ running index = some (.connectIn slot) →
      (∃ mi, ((state.var.calls index).channel.media mi).confSlot = slot) ∨
        state.running index = some (.connectOut slot) ∨ state.running index = some (.connectIn slot)) :
    StagesSound { var, user, running, muted } where
  sound := sound
  running := by
    intro index slot stage
    dsimp only
    rw [calls]
    rcases held index slot stage with holds | before
    · exact holds
    · exact stages.running index slot before
  told := told

theorem queried_active {var : CallVar} {index : Fin maxCalls}
    (active : (callGetInfo var index.val .zero).2.mediaStatus = .active) :
    ∃ mi, ((var.calls index).channel.media mi).confSlot = (callGetInfo var index.val .zero).2.confSlot := by
  by_cases live : (var.calls index).Live
  · obtain ⟨status, confSlot⟩ := callGetInfo_live .zero live
    rw [status] at active
    rw [confSlot]
    unfold Call.audioInfo at active ⊢
    cases selected : (var.calls index).channel.audioIdx with
    | none =>
      rw [selected] at active
      cases active
    | some mi => exact ⟨mi, rfl⟩
  · rw [callGetInfo_dead .zero live] at active
    cases active

theorem StagesSound.callback {index : Fin maxCalls} {stage : CallbackStage} (stages : StagesSound state)
    (running : state.running index = some stage) : StagesSound (callbackStep state index stage) := by
  have elsewhere : ∀ (next : Option CallbackStage) other slot, other ≠ index →
      Function.update state.running index next other = some (.connectOut slot) ∨
        Function.update state.running index next other = some (.connectIn slot) →
      state.running other = some (.connectOut slot) ∨ state.running other = some (.connectIn slot) := by
    intro next other slot different stage
    rw [Function.update_of_ne different] at stage
    exact stage
  cases stage with
  | entered =>
    apply stages.links rfl stages.sound stages.told
    intro other slot stage
    by_cases same : other = index
    · subst same
      rw [Function.update_self] at stage
      split at stage
      · rename_i active
        rcases stage with out | impossible
        · cases out
          exact .inl (queried_active active)
        · cases impossible
      · rcases stage with impossible | impossible <;> cases impossible
    · exact .inr (elsewhere _ other slot same stage)
  | connectOut slot =>
    refine stages.links rfl (connectOut_sound slot stages.sound) stages.told ?_
    intro other slot' stage
    by_cases same : other = index
    · subst same
      rw [Function.update_self] at stage
      rcases stage with impossible | inward
      · cases impossible
      · cases inward
        exact .inl (stages.running other slot (.inl running))
    · exact .inr (elsewhere _ other slot' same stage)
  | connectIn slot =>
    refine stages.links rfl (stages.sound.connect slot) stages.told ?_
    intro other slot' stage
    by_cases same : other = index
    · subst same
      rw [Function.update_self] at stage
      rcases stage with impossible | impossible <;> cases impossible
    · exact .inr (elsewhere _ other slot' same stage)

theorem StagesSound.update (operation : AudioOperation) (callId slot : Int) (target : Option (Fin maxCalls))
    (stages : StagesSound state) : StagesSound (userStep state operation callId slot target) := by
  cases operation with
  | mute => exact stages.links rfl (stages.sound.disconnect slot) told_none fun _ _ stage => .inr stage
  | hangUp => exact stages.links rfl (stages.sound.disconnect slot) (told_hangup callId) fun _ _ stage => .inr stage
  | unmute => exact stages.links rfl (stages.sound.connect slot) told_none fun _ _ stage => .inr stage

theorem StagesSound.hangup {callId : Int} {outcome : HangupOutcome} {user : Option UserStage}
    {muted : Fin maxCalls → Bool} (stages : StagesSound state) (acquires : Acquires state callId outcome)
    (told : Told user) :
    StagesSound { state with var := (callHangup state.var callId outcome).2, user, muted } := by
  rcases slotOf_none_or callId maxCalls with outside | ⟨index, rfl⟩
  · rw [callHangup_outside outside]
    exact stages.links rfl stages.sound told fun _ _ stage => .inr stage
  · have stepped := callHangup_step stages.sound index outcome
    refine ⟨stepped.audioSound stages.sound, ?_, told⟩
    intro other slot stage
    have holds := stages.running other slot stage
    have kept : (callHangup state.var index.val outcome).2.calls other = state.var.calls other := by
      by_cases same : other = index
      · subst same
        have busy : (state.running other).isSome := by
          rcases stage with out | inward
          · exact Option.isSome_iff_exists.mpr ⟨_, out⟩
          · exact Option.isSome_iff_exists.mpr ⟨_, inward⟩
        rw [acquires other (SlotTable.slotOf_val other) busy]
        unfold callHangup
        rw [SlotTable.slotOf_val]
        dsimp only
        split <;> rfl
      · exact stepped.others other same
    dsimp only
    rw [kept]
    exact holds

theorem StagesSound.library {event : LibraryEvent} {var : CallVar} {reported : Bool} {user : Option UserStage}
    {muted : Fin maxCalls → Bool} (stages : StagesSound state) (idle : (state.running event.call).isSome = false)
    (stepped : libraryStep state.var event = some (var, reported)) (told : Told user) :
    StagesSound
      { var
        user
        running := if reported then Function.update state.running event.call (some .entered) else state.running
        muted } := by
  have library := (libraryStep_stepped stages.sound stepped).step
  refine ⟨library.audioSound stages.sound, ?_, told⟩
  intro index slot stage
  have different : index ≠ event.call := by
    intro same
    subst same
    cases reported with
    | true => simp at stage
    | false =>
      rcases stage with out | inward
      · have busy : state.running event.call = some (.connectOut slot) := out
        rw [busy] at idle
        cases idle
      · have busy : state.running event.call = some (.connectIn slot) := inward
        rw [busy] at idle
        cases idle
  have before : state.running index = some (.connectOut slot) ∨ state.running index = some (.connectIn slot) := by
    cases reported with
    | true => simpa [different] using stage
    | false => exact stage
  dsimp only
  rw [library.others index different]
  exact stages.running index slot before

end Stages

theorem muteStep_cases {state after : MuteState} {event : MuteEvent} (stepped : muteStep state event = some after) :
    (∃ library var reported, event = .library library ∧ (state.running library.call).isSome = false ∧
      libraryStep state.var library = some (var, reported) ∧
      after =
        { var
          user := if library.renews then state.user.map (forget library.call) else state.user
          running := if reported then Function.update state.running library.call (some .entered) else state.running
          muted := if library.renews then Function.update state.muted library.call false else state.muted }) ∨
    (∃ index stage, event = .callback index ∧ state.running index = some stage ∧
      after = callbackStep state index stage) ∨
    (∃ callId, event = .answerCall callId ∧ after = state) ∨
    (∃ operation callId ci, event = .query operation callId ci ∧ state.user = none ∧
      after = { state with
        user := some (.update operation { callId, var := state.var, ci } (callGetInfo state.var callId ci).2.confSlot
          (liveCall state.var callId)) }) ∨
    (∃ operation asked slot target, event = .update ∧ state.user = some (.update operation asked slot target) ∧
      after = userStep state operation asked.callId slot target) ∨
    ∃ callId outcome, event = .hangup outcome ∧ state.user = some (.hangup callId) ∧ Acquires state callId outcome ∧
      after = { state with
        var := (callHangup state.var callId outcome).2
        user := none
        muted := mark state.muted ((liveCall state.var callId).filter fun index =>
          ¬ ((callHangup state.var callId outcome).2.calls index).Live) false } := by
  cases event with
  | library event =>
    unfold muteStep at stepped
    dsimp only at stepped
    split at stepped
    · cases stepped
    · rename_i idle
      obtain ⟨⟨var, reported⟩, ran, rfl⟩ := Option.map_eq_some_iff.mp stepped
      exact .inl ⟨event, var, reported, rfl, Bool.eq_false_iff.mpr idle, ran, rfl⟩
  | callback index =>
    obtain ⟨stage, running, rfl⟩ := Option.map_eq_some_iff.mp stepped
    exact .inr (.inl ⟨index, stage, rfl, running, rfl⟩)
  | answerCall callId =>
    cases stepped
    exact .inr (.inr (.inl ⟨callId, rfl, rfl⟩))
  | query operation callId ci =>
    unfold muteStep at stepped
    dsimp only at stepped
    split at stepped
    · cases stepped
    · rename_i idle
      cases stepped
      exact .inr (.inr (.inr (.inl ⟨operation, callId, ci, rfl, Option.not_isSome_iff_eq_none.mp idle, rfl⟩)))
  | update =>
    unfold muteStep at stepped
    dsimp only at stepped
    split at stepped
    · rename_i operation asked slot target user
      cases stepped
      exact .inr (.inr (.inr (.inr (.inl ⟨operation, asked, slot, target, rfl, user, rfl⟩))))
    · cases stepped
  | hangup outcome =>
    unfold muteStep at stepped
    dsimp only at stepped
    split at stepped
    · rename_i callId user
      split at stepped
      · rename_i acquires
        cases stepped
        exact .inr (.inr (.inr (.inr (.inr ⟨callId, outcome, rfl, user, acquires, rfl⟩))))
      · cases stepped
    · cases stepped

theorem muteStep_stages {state after : MuteState} {event : MuteEvent} (stages : StagesSound state)
    (stepped : muteStep state event = some after) : StagesSound after := by
  rcases muteStep_cases stepped with ⟨library, var, reported, _, idle, ran, rfl⟩ | ⟨index, stage, _, running, rfl⟩ |
    ⟨_, _, rfl⟩ | ⟨operation, callId, ci, _, _, rfl⟩ | ⟨operation, asked, slot, target, _, _, rfl⟩ |
    ⟨callId, outcome, _, _, acquires, rfl⟩
  · refine stages.library idle ran ?_
    split
    · exact stages.told.forget _
    · exact stages.told
  · exact stages.callback running
  · exact stages
  · have told := told_query operation state.var callId ci (liveCall state.var callId)
    exact stages.links rfl stages.sound told fun _ _ stage => .inr stage
  · exact stages.update operation asked.callId slot target
  · exact stages.hangup acquires told_none

section Steps

variable {state : MuteState}

theorem MuteInvariant.callback {index : Fin maxCalls} {stage : CallbackStage} (invariant : MuteInvariant state)
    (running : state.running index = some stage) (keeps : stage.opens = true → state.muted index = false)
    {other : Fin maxCalls} {mi : Fin maxCallMedia} (muted : state.muted other = true) :
    Silent 0 (callbackStep state index stage).var.conf.board (seats state.var.calls) (other, mi) := by
  have before := invariant.silent other mi muted
  cases stage with
  | entered => exact before
  | connectOut slot => exact silent_connectOut slot invariant.sound before
  | connectIn slot =>
    apply silent_connect before
    intro heard held same
    obtain ⟨own, owned⟩ := invariant.running index slot (.inr running)
    have ownSeat : seats state.var.calls (index, own) = some heard := seatOf_eq_some.mpr (owned.trans same.symm)
    have one : other = index := congrArg Prod.fst (invariant.sound.seated.alone _ _ _ held ownSeat)
    rw [one, keeps rfl] at muted
    cases muted

theorem MuteInvariant.update {operation : AudioOperation} {asked : Asked} {slot : Int}
    {target : Option (Fin maxCalls)} (invariant : MuteInvariant state)
    (user : state.user = some (.update operation asked slot target))
    (keeps : (UserStage.update operation asked slot target).KeepsMute state) {index : Fin maxCalls}
    {mi : Fin maxCallMedia} (marked : (userStep state operation asked.callId slot target).muted index = true) :
    Silent 0 (userStep state operation asked.callId slot target).var.conf.board (seats state.var.calls) (index, mi) := by
  have told := invariant.told operation asked slot target user
  have cut (only : CutsMicrophone state asked target) (marked : mark state.muted target true index = true) :
      Silent 0 (confDisconnect state.var 0 slot).conf.board (seats state.var.calls) (index, mi) := by
    rcases mark_eq_true marked with hit | muted
    · exact silent_cut fun heard held link => ((told heard).mpr (only index hit mi heard held link)).symm
    · exact silent_disconnect slot (invariant.silent index mi muted)
  cases operation with
  | mute => exact cut keeps marked
  | hangUp => exact cut keeps marked
  | unmute =>
    obtain ⟨other, muted⟩ := mark_false marked
    apply silent_connect (invariant.silent index mi muted)
    intro heard held same
    exact keeps index mi heard muted other held ((told heard).mp same.symm)

theorem MuteInvariant.hangup {callId : Int} {outcome : HangupOutcome} (invariant : MuteInvariant state)
    {other : Fin maxCalls} {mi : Fin maxCallMedia} (muted : state.muted other = true) :
    Silent 0 (callHangup state.var callId outcome).2.conf.board
      (seats (callHangup state.var callId outcome).2.calls) (other, mi) := by
  rcases slotOf_none_or callId maxCalls with outside | ⟨index, rfl⟩
  · rw [callHangup_outside outside]
    exact invariant.silent other mi muted
  · have stepped := callHangup_step invariant.sound index outcome
    exact stepped.reseats.silent (invariant.silent other mi muted)

theorem MuteInvariant.library {event : LibraryEvent} {var : CallVar} {reported : Bool}
    (invariant : MuteInvariant state) (stepped : libraryStep state.var event = some (var, reported))
    {index : Fin maxCalls} {mi : Fin maxCallMedia}
    (marked : (if event.renews then Function.update state.muted event.call false else state.muted) index = true) :
    Silent 0 var.conf.board (seats var.calls) (index, mi) := by
  have before : state.muted index = true := by
    cases renews : event.renews with
    | true =>
      by_cases same : index = event.call
      · simp [renews, same] at marked
      · simpa [renews, same] using marked
    | false => simpa [renews] using marked
  have library := (libraryStep_stepped invariant.sound stepped).step
  exact library.reseats.silent (invariant.silent index mi before)

end Steps

theorem muteStep_invariant {state after : MuteState} {event : MuteEvent} (invariant : MuteInvariant state)
    (keeps : KeepsMute state event) (stepped : muteStep state event = some after) : MuteInvariant after := by
  refine ⟨muteStep_stages invariant.toStagesSound stepped, ?_⟩
  intro index mi muted
  rcases muteStep_cases stepped with ⟨library, var, reported, _, _, ran, rfl⟩ | ⟨caller, stage, rfl, running, rfl⟩ |
    ⟨_, _, rfl⟩ | ⟨_, _, _, _, _, rfl⟩ | ⟨operation, asked, slot, target, rfl, user, rfl⟩ |
    ⟨callId, outcome, _, _, _, rfl⟩
  · exact invariant.library ran muted
  · have opens : stage.opens = true → state.muted caller = false := by
      intro opens
      apply keeps
      rw [running]
      exact opens
    cases stage with
    | entered => exact invariant.silent index mi muted
    | connectOut slot => exact invariant.callback running opens muted
    | connectIn slot => exact invariant.callback running opens muted
  · exact invariant.silent index mi muted
  · exact invariant.silent index mi muted
  · have kept := keeps _ user
    cases operation with
    | mute => exact invariant.update user kept muted
    | hangUp => exact invariant.update user kept muted
    | unmute => exact invariant.update user kept muted
  · exact invariant.hangup (mark_false muted).2

def startMute : MuteState where
  var := startVar
  user := none
  running := fun _ => none
  muted := fun _ => false

theorem startMute_invariant : MuteInvariant startMute where
  sound := startVar_sound
  running := by
    intro index slot stage
    rcases stage with impossible | impossible <;> cases impossible
  told := told_none
  silent := by
    intro index mi muted
    cases muted

def MuteStep (before : MuteState) (event : MuteEvent) (after : MuteState) : Prop :=
  muteStep before event = some after

theorem mute_persists {events : List MuteEvent} {state : MuteState}
    (run : Execution (guarded MuteStep KeepsMute) startMute events state) : MutePersists state := by
  have invariant : MuteInvariant state :=
    run.invariant (fun _ _ _ before stepped => muteStep_invariant before stepped.1 stepped.2) startMute_invariant
  exact invariant.persists

def mutedCall : List MuteEvent :=
  [.library (.placeCall 0 sampleSession (audioOffer 7)), .library (.stateChanged 0 .calling),
    .library (.negotiated 0 none (some (audioPair .encodingDecoding))), .callback 0, .callback 0, .callback 0,
    .library (.stateChanged 0 .confirmed), .query .mute 0 .zero, .update]

theorem muted_call_stays_silent :
    ∃ state, Execution (guarded MuteStep KeepsMute) startMute mutedCall state ∧ state.muted 0 = true ∧
      MutePersists state := by
  have ran : (mutedCall.foldlM (fun state event => if KeepsMute state event then muteStep state event else none)
      startMute).any fun state => state.muted 0 := by decide
  obtain ⟨state, ended, muted⟩ := (Option.any_eq_true _ _).mp ran
  have run := Execution.guarded_of_foldlM muteStep KeepsMute mutedCall ended
  exact ⟨state, run, muted, mute_persists run⟩

def mutedCallRenegotiated : List MuteEvent :=
  mutedCall ++ [.library (.negotiated 0 (some (audioOffer 7)) (some (audioPair .encodingDecoding))),
    .callback 0, .callback 0, .callback 0]

theorem renegotiation_unmutes :
    ∃ state, Execution MuteStep startMute mutedCallRenegotiated state ∧ ¬ MutePersists state := by
  have ran : (mutedCallRenegotiated.foldlM muteStep startMute).isSome := by decide
  have heard : (mutedCallRenegotiated.foldlM muteStep startMute).all fun state =>
      state.muted 0 = true ∧ (state.var.calls 0).channel.audioIdx = some 0 ∧
        seatOf ((state.var.calls 0).channel.media 0) = some 1 ∧ state.var.conf.Transmits 0 1 := by decide
  obtain ⟨state, ended⟩ := Option.isSome_iff_exists.mp ran
  refine ⟨state, Execution.of_foldlM muteStep mutedCallRenegotiated ended, ?_⟩
  intro persists
  rw [ended] at heard
  obtain ⟨muted, selected, held, transmits⟩ := of_decide_eq_true heard
  exact persists 0 1 muted ⟨0, selected, held⟩ transmits

end TiSIP.Audio
