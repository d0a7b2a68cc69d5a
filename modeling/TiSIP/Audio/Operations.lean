import TiSIP.Audio.Library

namespace TiSIP.Audio

open Pjmedia Pjsua Proxy Switchboard

theorem slotOf_none_or (callId : Int) (size : Nat) :
    SlotTable.slotOf size callId = none ∨ ∃ slot : Fin size, callId = slot.val := by
  cases found : SlotTable.slotOf size callId with
  | none => exact .inl rfl
  | some slot => exact .inr ⟨slot, SlotTable.slotOf_eq_some.mp found⟩

theorem confConnect_board (var : CallVar) (sink : Int) :
    (confConnect var 0 sink).conf.board = var.conf.board ∨
      ∃ slot : Fin maxConfPorts, sink = slot.val ∧
        (confConnect var 0 sink).conf.board = var.conf.board.connect 0 slot := by
  rcases slotOf_none_or sink maxConfPorts with outside | ⟨slot, rfl⟩
  · apply Or.inl
    unfold confConnect
    rw [Conference.kept_connectPort_out outside]
  · exact .inr ⟨slot, rfl, Conference.board_connectPort var.conf 0 slot⟩

theorem confDisconnect_board (var : CallVar) (sink : Int) :
    (confDisconnect var 0 sink).conf.board = var.conf.board ∨
      ∃ slot : Fin maxConfPorts, sink = slot.val ∧
        (confDisconnect var 0 sink).conf.board = var.conf.board.disconnect 0 slot := by
  rcases slotOf_none_or sink maxConfPorts with outside | ⟨slot, rfl⟩
  · apply Or.inl
    unfold confDisconnect
    rw [Conference.kept_disconnectPort_out outside]
  · exact .inr ⟨slot, rfl, Conference.board_disconnectPort var.conf 0 slot⟩

section Elsewhere

variable {var : CallVar} {confSlot : Int} {exempt : Fin maxConfPorts → Fin maxConfPorts → Prop}

theorem confDisconnect_elsewhere :
    (∀ source sink, ¬ exempt source sink →
      ((confDisconnect var 0 confSlot).conf.Transmits source sink ↔ var.conf.Transmits source sink)) ↔
      ∀ slot : Fin maxConfPorts, confSlot = slot.val → var.conf.Transmits 0 slot → exempt 0 slot := by
  rcases slotOf_none_or confSlot maxConfPorts with outside | ⟨slot, rfl⟩
  · have kept : (confDisconnect var 0 confSlot).conf = var.conf := Conference.kept_disconnectPort_out outside
    rw [kept]
    apply iff_of_true (fun _ _ _ => Iff.rfl)
    intro slot inside
    rw [inside, SlotTable.slotOf_val] at outside
    cases outside
  · have cut : (confDisconnect var 0 slot.val).conf.board = var.conf.board.disconnect 0 slot :=
      Conference.board_disconnectPort var.conf 0 slot
    have exact_slot : (∀ left right, ¬ exempt left right →
        ((var.conf.board.disconnect 0 slot).linked left right ↔ var.conf.board.linked left right)) ↔
        (var.conf.board.linked 0 slot → exempt 0 slot) := disconnect_elsewhere_iff
    rw [← cut] at exact_slot
    refine Iff.trans exact_slot ⟨fun allowed other inside => ?_, fun all => all slot rfl⟩
    have same : other = slot := Fin.ext (Int.ofNat.inj inside.symm)
    subst same
    exact allowed

theorem confConnect_elsewhere (hub : var.conf.ports.Live 0) :
    (∀ source sink, ¬ exempt source sink →
      ((confConnect var 0 confSlot).conf.Transmits source sink ↔ var.conf.Transmits source sink)) ↔
      ∀ slot : Fin maxConfPorts, confSlot = slot.val →
        var.conf.ports.Live slot ∧ ¬ var.conf.Transmits 0 slot → exempt 0 slot := by
  rcases slotOf_none_or confSlot maxConfPorts with outside | ⟨slot, rfl⟩
  · have kept : (confConnect var 0 confSlot).conf = var.conf := Conference.kept_connectPort_out outside
    rw [kept]
    apply iff_of_true (fun _ _ _ => Iff.rfl)
    intro slot inside
    rw [inside, SlotTable.slotOf_val] at outside
    cases outside
  · have joined : (confConnect var 0 slot.val).conf.board = var.conf.board.connect 0 slot :=
      Conference.board_connectPort var.conf 0 slot
    have exact_slot : (∀ left right, ¬ exempt left right →
        ((var.conf.board.connect 0 slot).linked left right ↔ var.conf.board.linked left right)) ↔
        (slot ∈ var.conf.board.plugged ∧ ¬ var.conf.board.linked 0 slot → exempt 0 slot) := connect_elsewhere_iff hub
    rw [← joined] at exact_slot
    refine Iff.trans exact_slot ⟨fun allowed other inside => ?_, fun all => all slot rfl⟩
    have same : other = slot := Fin.ext (Int.ofNat.inj inside.symm)
    subst same
    exact allowed

end Elsewhere

theorem AudioSound.of_board {before after : CallVar} (sound : AudioSound before) (calls : after.calls = before.calls)
    (seated : Seated 0 after.conf.board (seats before.calls)) : AudioSound after where
  channel := by
    rw [calls]
    exact sound.channel
  seated := by
    rw [calls]
    exact seated
  free := by
    rw [calls]
    exact sound.free

theorem AudioSound.connect {var : CallVar} (sound : AudioSound var) (sink : Int) :
    AudioSound (confConnect var 0 sink) := by
  refine sound.of_board rfl ?_
  rcases confConnect_board var sink with same | ⟨slot, _, connected⟩
  · rw [same]
    exact sound.seated
  · rw [connected]
    exact sound.seated.connect (.inl rfl)

theorem AudioSound.disconnect {var : CallVar} (sound : AudioSound var) (sink : Int) :
    AudioSound (confDisconnect var 0 sink) := by
  refine sound.of_board rfl ?_
  rcases confDisconnect_board var sink with same | ⟨slot, _, cut⟩
  · rw [same]
    exact sound.seated
  · rw [cut]
    exact sound.seated.disconnect

def HoldsStream (var : CallVar) (slot : Fin maxConfPorts) : Prop :=
  slot = 0 ∨ ∃ index mi, seatOf ((var.calls index).channel.media mi) = some slot ∧
    ((var.calls index).channel.media mi).stream = true

theorem queried_slot {var : CallVar} (leftover : CallInfo) (index : Fin maxCalls) :
    (callGetInfo var index.val leftover).2.confSlot = 0 ∨
      ∃ mi, (var.calls index).channel.audioIdx = some mi ∧
        (callGetInfo var index.val leftover).2.confSlot = ((var.calls index).channel.media mi).confSlot := by
  by_cases live : (var.calls index).Live
  · rw [(callGetInfo_live leftover live).2]
    unfold Call.audioInfo
    cases selected : (var.calls index).channel.audioIdx with
    | none => exact .inl rfl
    | some mi => exact .inr ⟨mi, rfl, rfl⟩
  · rw [callGetInfo_dead leftover live]
    exact .inl rfl

def CurrentSlot (var : CallVar) (index : Fin maxCalls) (slot : Fin maxConfPorts) : Prop :=
  ∃ mi, (var.calls index).channel.audioIdx = some mi ∧ seatOf ((var.calls index).channel.media mi) = some slot

instance (var : CallVar) (index : Fin maxCalls) (slot : Fin maxConfPorts) : Decidable (CurrentSlot var index slot) :=
  inferInstanceAs (Decidable (∃ _, _ ∧ _))

/-- The slot that `muteCall` disconnects from port 0, and `unmuteCall` connects to it: the one of the selected audio line, port 0
    for a call without one, and what the stack holds for an identifier out of range. -/
def MutedSlot (var : CallVar) (callId : Int) (ci : CallInfo) (slot : Fin maxConfPorts) : Prop :=
  match SlotTable.slotOf maxCalls callId with
  | none => ci.confSlot = slot.val
  | some index =>
    if (var.calls index).Live ∧ (var.calls index).channel.audioIdx.isSome then CurrentSlot var index slot else slot = 0

instance (var : CallVar) (callId : Int) (ci : CallInfo) (slot : Fin maxConfPorts) :
    Decidable (MutedSlot var callId ci slot) :=
  match found : SlotTable.slotOf maxCalls callId with
  | none => decidable_of_iff (ci.confSlot = slot.val) (by simp [MutedSlot, found])
  | some index =>
    decidable_of_iff
      (if (var.calls index).Live ∧ (var.calls index).channel.audioIdx.isSome then CurrentSlot var index slot else slot = 0)
      (by simp [MutedSlot, found])

theorem queried_slot_iff {var : CallVar} {callId : Int} {ci : CallInfo} {slot : Fin maxConfPorts} :
    (callGetInfo var callId ci).2.confSlot = slot.val ↔ MutedSlot var callId ci slot := by
  have hub : (0 : Int) = slot.val ↔ slot = 0 := by
    constructor
    · intro zero
      apply Fin.ext
      show slot.val = 0
      omega
    · intro same
      subst same
      rfl
  unfold MutedSlot
  rcases slotOf_none_or callId maxCalls with outside | ⟨index, rfl⟩
  · rw [callGetInfo_outside ci outside, outside]
  · rw [SlotTable.slotOf_val]
    dsimp only
    by_cases live : (var.calls index).Live
    · rw [(callGetInfo_live ci live).2]
      unfold Call.audioInfo CurrentSlot
      cases selected : (var.calls index).channel.audioIdx with
      | none => simpa using hub
      | some mi => simpa [live] using seatOf_eq_some.symm
    · rw [callGetInfo_dead ci live]
      simp only [live, false_and, ↓reduceIte]
      exact hub

theorem queried_elsewhere {var : CallVar} {callId : Int} {ci : CallInfo} {other : Fin maxCalls} (sound : AudioSound var)
    (garbage : SlotTable.slotOf maxCalls callId = none →
      ∀ slot, HoldsStream var slot → slot ≠ 0 → ci.confSlot ≠ slot.val)
    (different : callId ≠ other.val) (mi : Fin maxCallMedia) :
    ((var.calls other).channel.media mi).confSlot ≠ (callGetInfo var callId ci).2.confSlot ∨
      (callGetInfo var callId ci).2.confSlot = 0 ∨ seatOf ((var.calls other).channel.media mi) = none := by
  cases held : seatOf ((var.calls other).channel.media mi) with
  | none => exact .inr (.inr rfl)
  | some slot =>
    rw [seatOf_eq_some.mp held]
    rcases slotOf_none_or callId maxCalls with outside | ⟨index, rfl⟩
    · have line := (sound.channel other).line mi
      have stream : HoldsStream var slot := .inr ⟨other, mi, held, (line.seated (seat_valid held)).2.1⟩
      have notHub := sound.seated.notHub (other, mi) slot held
      rw [callGetInfo_outside ci outside]
      exact .inl fun same => garbage outside slot stream notHub same.symm
    · rcases queried_slot ci index with hub | ⟨own, _, same⟩
      · exact .inr (.inl hub)
      · rw [same]
        refine .inl fun shared => different ?_
        have ownSeat : seats var.calls (index, own) = some slot := seatOf_eq_some.mpr shared.symm
        have otherSeat : seats var.calls (other, mi) = some slot := held
        have one : index = other := congrArg Prod.fst (sound.seated.alone _ _ _ ownSeat otherSeat)
        rw [one]

theorem dispatched_cases (var : CallVar) {index : Fin maxCalls} {mi : Fin maxCallMedia} {slot : Fin maxConfPorts}
    (live : (var.calls index).Live) (selected : (var.calls index).channel.audioIdx = some mi)
    (held : seatOf ((var.calls index).channel.media mi) = some slot) :
    dispatchCallMediaState var index.val .zero =
      if ((var.calls index).channel.media mi).state = .active then
        confConnect (confConnect var slot.val 0) 0 slot.val
      else var := by
  obtain ⟨status, confSlot⟩ := callGetInfo_live .zero live
  unfold Call.audioInfo at status confSlot
  rw [selected] at status confSlot
  unfold dispatchCallMediaState
  dsimp only at status confSlot ⊢
  rw [status, confSlot, seatOf_eq_some.mp held]

theorem dispatched_unselected {var : CallVar} {index : Fin maxCalls} (live : (var.calls index).Live)
    (unselected : (var.calls index).channel.audioIdx = none) : dispatchCallMediaState var index.val .zero = var := by
  obtain ⟨status, _⟩ := callGetInfo_live .zero live
  unfold Call.audioInfo at status
  rw [unselected] at status
  unfold dispatchCallMediaState
  dsimp only at status ⊢
  rw [status]
  rfl

theorem callHangup_outside {var : CallVar} {callId : Int} {outcome : HangupOutcome}
    (outside : SlotTable.slotOf maxCalls callId = none) : (callHangup var callId outcome).2 = var := by
  simp [callHangup, outside]

theorem callHangup_step {var : CallVar} (sound : AudioSound var) (index : Fin maxCalls) (outcome : HangupOutcome) :
    CallStep index var (callHangup var index.val outcome).2 := by
  have session : ∀ hangingUp, (var.calls index).Live → CallStep index var (setHangingUp var index hangingUp) :=
    fun _ live => callStep_session sound live
  unfold callHangup
  rw [SlotTable.slotOf_val]
  dsimp only
  split
  · exact .refl sound
  · rename_i live
    have live := not_not.mp live
    split
    · exact .refl sound
    · exact session false live
    · exact callStep_end sound
    · exact session false live
    · exact callStep_end sound
    · exact session true live
    · exact session true live

theorem startConf_unlinked (source sink : Fin maxConfPorts) : ¬ startConf.Transmits source sink := by
  rintro ⟨port, held, member⟩
  rcases SlotTable.put_eq_some.mp held with ⟨_, rfl⟩ | ⟨_, impossible⟩
  · cases member
  · cases impossible

theorem startVar_sound : AudioSound startVar where
  channel := fun _ => reset_sound
  free := fun _ _ => rfl
  seated := by
    have empty : ∀ line, seats startVar.calls line = none := fun _ => seatOf_invalid rfl
    refine ⟨?_, ?_, ?_, ?_, ?_, ?_⟩
    · show startConf.ports.Live 0
      exact (SlotTable.live_put _ _ _ _).mpr (.inl rfl)
    · exact fun source sink link => absurd link (startConf_unlinked source sink)
    · intro line slot held
      rw [empty] at held
      cases held
    · intro line slot held
      rw [empty] at held
      cases held
    · intro first second slot held
      rw [empty] at held
      cases held
    · intro slot plugged
      rcases (SlotTable.live_put _ _ _ _).mp plugged with same | impossible
      · exact .inl same
      · exact absurd impossible (SlotTable.live_empty slot)

end TiSIP.Audio
