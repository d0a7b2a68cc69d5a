import TiSIP.Audio.Update
import TiSIP.Proxy.CallAudio

namespace TiSIP.Audio

open Pjmedia Pjsua Switchboard

def seats (calls : Fin maxCalls → Call) : AudioLine → Option (Fin maxConfPorts) :=
  fun line => seatOf ((calls line.1).channel.media line.2)

theorem seats_update {calls : Fin maxCalls → Call} {index : Fin maxCalls} {call : Call} :
    seats (Function.update calls index call) = placed (seats calls) index (mediaSeats call.channel) := by
  funext line
  by_cases same : line.1 = index
  · simp [seats, placed, mediaSeats, same]
  · simp [seats, placed, same]

theorem seats_placed {calls : Fin maxCalls → Call} {index : Fin maxCalls} :
    placed (seats calls) index (mediaSeats (calls index).channel) = seats calls := by
  rw [← seats_update, Function.update_eq_self]

/-- Sound calls that sit, line by line, at ports of their own around port 0. -/
structure AudioSound (var : CallVar) : Prop where
  channel : ∀ index, ChannelSound (var.calls index).channel
  seated : Seated 0 var.conf.board (seats var.calls)
  free : ∀ index, ¬ (var.calls index).Live → (var.calls index).channel = .reset

/-- A library step on one call: the other calls stay, and this one leaves and takes seats. -/
structure CallStep (index : Fin maxCalls) (before after : CallVar) : Prop where
  others : ∀ other, other ≠ index → after.calls other = before.calls other
  sound : ChannelSound (after.calls index).channel
  free : ¬ (after.calls index).Live → (after.calls index).channel = .reset
  reseats : Reseats (fun line : AudioLine => line.1 = index) before.conf.board (seats before.calls)
    after.conf.board (seats after.calls)

theorem CallStep.refl {index : Fin maxCalls} {var : CallVar} (sound : AudioSound var) : CallStep index var var where
  others := fun _ _ => rfl
  sound := sound.channel index
  free := sound.free index
  reseats := .same

theorem CallStep.audioSound {index : Fin maxCalls} {before after : CallVar} (stepped : CallStep index before after)
    (sound : AudioSound before) : AudioSound after where
  channel := by
    intro other
    by_cases same : other = index
    · subst same
      exact stepped.sound
    · rw [stepped.others other same]
      exact sound.channel other
  seated := stepped.reseats.seated sound.seated
  free := by
    intro other
    by_cases same : other = index
    · subst same
      exact stepped.free
    · rw [stepped.others other same]
      exact sound.free other

theorem CallStep.wired {index other : Fin maxCalls} {before after : CallVar} (stepped : CallStep index before after)
    (sound : AudioSound before) (different : other ≠ index) {mi : Fin maxCallMedia} {slot : Fin maxConfPorts}
    (held : seats before.calls (other, mi) = some slot) (wired : before.conf.board.Wired 0 slot) :
    after.conf.board.Wired 0 slot :=
  stepped.reseats.wired sound.seated different held wired

theorem callStep_of_media {index : Fin maxCalls} {before : CallVar} {call : Call} (sound : ChannelSound call.channel)
    (free : ¬ call.Live → call.channel = .reset) (media : call.channel.media = (before.calls index).channel.media) :
    CallStep index before (setCall before index call) where
  others := fun other different => Function.update_of_ne different _ _
  sound := by
    rw [setCall_own]
    exact sound
  free := by
    rw [setCall_own]
    exact free
  reseats := by
    have same : seats (setCall before index call).calls = seats before.calls := by
      have view : mediaSeats call.channel = mediaSeats (before.calls index).channel := by
        funext mi
        simp [mediaSeats, media]
      unfold setCall
      rw [seats_update, view, seats_placed]
    rw [same]
    exact .same

theorem callStep_start {index : Fin maxCalls} {var : CallVar} {call : Call} (sound : AudioSound var)
    (free : ¬ (var.calls index).Live) (channel : ChannelSound call.channel)
    (media : call.channel.media = MediaChannel.reset.media) (used : ¬ call.Live → call.channel = .reset) :
    CallStep index var (setCall var index call) := by
  apply callStep_of_media channel used
  rw [sound.free index free]
  exact media

theorem callStep_cleanUp {index : Fin maxCalls} {var : CallVar} (sound : AudioSound var) (live : (var.calls index).Live) :
    CallStep index var
      (setCall var index { var.calls index with channel := mediaProvCleanUp (var.calls index).channel }) :=
  callStep_of_media (cleanUp_sound (sound.channel index)) (fun dead => absurd live dead) rfl

theorem callStep_session {index : Fin maxCalls} {var : CallVar} {session : CallSession} (sound : AudioSound var)
    (live : session.dlg.isSome) : CallStep index var (setCall var index { var.calls index with session }) :=
  callStep_of_media (sound.channel index) (fun dead => absurd live dead) rfl

theorem callStep_init {index : Fin maxCalls} {var : CallVar} (setup : MediaSetup) (sound : AudioSound var)
    (live : (var.calls index).Live) : CallStep index var (callOffered var index setup) :=
  callStep_of_media (mediaChannelInit_sound setup (sound.channel index)) (fun dead => absurd live dead)
    (mediaChannelInit_media _ _)

theorem callStep_update {index : Fin maxCalls} {var : CallVar} {plane : MediaPlane} {status : UpdateStatus}
    (updated : ChannelUpdated index (mediaPlane var index) plane status) (live : (var.calls index).Live) :
    CallStep index var (setPlane var index plane) where
  others := fun other different => Function.update_of_ne different _ _
  sound := by
    rw [setPlane_own]
    exact updated.sound
  free := by
    rw [setPlane_own]
    exact fun dead => absurd live dead
  reseats := by
    have moved := updated.reseats (seats var.calls)
    unfold mediaPlane at moved
    rw [seats_placed] at moved
    unfold setPlane
    rw [seats_update]
    exact moved

theorem stop_reseats (index : Fin maxCalls) {plane : MediaPlane} {mi : Fin maxCallMedia}
    (sound : LineSound (plane.channel.media mi)) (below : mi < plane.channel.medCnt)
    (seat : AudioLine → Option (Fin maxConfPorts)) :
    (stopMediaStream plane mi).channel.medCnt = plane.channel.medCnt ∧
      (∀ other, other ≠ mi → (stopMediaStream plane mi).channel.media other = plane.channel.media other) ∧
      ((stopMediaStream plane mi).channel.media mi).confSlot = invalidId ∧
      Reseats (fun line : AudioLine => line.1 = index) plane.conf.board
        (placed seat index (mediaSeats plane.channel)) (stopMediaStream plane mi).conf.board
        (placed seat index (mediaSeats (stopMediaStream plane mi).channel)) := by
  rw [stop_below below]
  generalize stoppedEq : audStopStream plane.conf (plane.channel.media mi) = stopped
  have stoppedSlot : stopped.2.confSlot = invalidId := by
    rw [← stoppedEq]
    exact audStopStream_slot fun valid => (sound.seated valid).2.1
  refine ⟨rfl, fun other different => Function.update_of_ne different _ _, ?_, ?_⟩
  · simpa using stoppedSlot
  · have left : ∀ mediaProv, mediaSeats { plane.channel with
        media := Function.update plane.channel.media mi { stopped.2 with state := .none }
        mediaProv := mediaProv } = Function.update (mediaSeats plane.channel) mi none := by
      intro mediaProv
      funext other
      by_cases here : other = mi
      · subst here
        have given : seatOf { stopped.2 with state := .none } = none := seatOf_invalid stoppedSlot
        simpa [mediaSeats] using given
      · simp [mediaSeats, here]
    rw [left, ← stoppedEq]
    apply audStopStream_reseats index mi seat rfl
    intro valid
    obtain ⟨seated, running, _⟩ := sound.seated valid
    exact ⟨seated, running⟩

theorem stopAll_reseats (index : Fin maxCalls) (lines : List (Fin maxCallMedia)) (nodup : lines.Nodup)
    {plane : MediaPlane} (sound : ∀ mi, mi ∈ lines → LineSound (plane.channel.media mi) ∧ mi < plane.channel.medCnt)
    (seat : AudioLine → Option (Fin maxConfPorts)) :
    (∀ mi, mi ∉ lines → (lines.foldl stopMediaStream plane).channel.media mi = plane.channel.media mi) ∧
      (∀ mi, mi ∈ lines → ((lines.foldl stopMediaStream plane).channel.media mi).confSlot = invalidId) ∧
      Reseats (fun line : AudioLine => line.1 = index) plane.conf.board
        (placed seat index (mediaSeats plane.channel)) (lines.foldl stopMediaStream plane).conf.board
        (placed seat index (mediaSeats (lines.foldl stopMediaStream plane).channel)) := by
  induction lines generalizing plane with
  | nil =>
    refine ⟨fun _ _ => rfl, ?_, .same⟩
    intro mi member
    cases member
  | cons line rest ih =>
    obtain ⟨notLater, restNodup⟩ := List.nodup_cons.mp nodup
    obtain ⟨lineSound, lineBelow⟩ := sound line (by simp)
    obtain ⟨medCnt, others, stopped, moved⟩ := stop_reseats index lineSound lineBelow seat
    rw [List.foldl_cons]
    have restSound : ∀ mi, mi ∈ rest → LineSound ((stopMediaStream plane line).channel.media mi) ∧
        mi < (stopMediaStream plane line).channel.medCnt := by
      intro mi member
      have different : mi ≠ line := by
        rintro rfl
        exact notLater member
      rw [others mi different, medCnt]
      exact sound mi (by simp [member])
    obtain ⟨kept, emptied, movedRest⟩ := ih restNodup restSound
    refine ⟨?_, ?_, moved.trans movedRest⟩
    · intro mi absent
      rw [List.mem_cons, not_or] at absent
      exact (kept mi absent.2).trans (others mi absent.1)
    · intro mi member
      rcases List.mem_cons.mp member with rfl | member
      · rw [kept mi notLater]
        exact stopped
      · exact emptied mi member

theorem mediaSeats_reset : mediaSeats MediaChannel.reset = fun _ => none := by
  funext mi
  exact seatOf_invalid rfl

theorem callStep_end {index : Fin maxCalls} {var : CallVar} (sound : AudioSound var) :
    CallStep index var (callEnd var index) where
  others := fun other different => Function.update_of_ne different _ _
  sound := by
    rw [callEnd_own]
    exact reset_sound
  free := by
    rw [callEnd_own]
    exact fun _ => rfl
  reseats := by
    have channelSound := sound.channel index
    have below : ∀ mi, mi ∈ linesBelow (var.calls index).channel.medCnt →
        LineSound ((mediaPlane var index).channel.media mi) ∧ mi < (mediaPlane var index).channel.medCnt :=
      fun mi member => ⟨channelSound.line mi, mem_linesBelow.mp member⟩
    obtain ⟨kept, emptied, moved⟩ := stopAll_reseats index (linesBelow (var.calls index).channel.medCnt)
      (nodup_linesBelow _) below (seats var.calls)
    have none : mediaSeats (stopMediaSession (mediaPlane var index)).channel = fun _ => none := by
      funext mi
      by_cases below : mi ∈ linesBelow (var.calls index).channel.medCnt
      · exact seatOf_invalid (emptied mi below)
      · have above : (var.calls index).channel.medCnt ≤ mi := by
          rw [mem_linesBelow] at below
          omega
        have same : (stopMediaSession (mediaPlane var index)).channel.media mi = (var.calls index).channel.media mi :=
          kept mi below
        show seatOf ((stopMediaSession (mediaPlane var index)).channel.media mi) = Option.none
        rw [same]
        exact seatOf_invalid (channelSound.above mi above).slot
    have start : placed (seats var.calls) index (mediaSeats (mediaPlane var index).channel) = seats var.calls :=
      seats_placed
    rw [start] at moved
    have last : seats (callEnd var index).calls =
        placed (seats var.calls) index (mediaSeats (stopMediaSession (mediaPlane var index)).channel) := by
      unfold callEnd setCall
      rw [seats_update, none]
      exact congrArg _ mediaSeats_reset
    rw [last]
    exact moved

end TiSIP.Audio
