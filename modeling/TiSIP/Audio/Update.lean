import TiSIP.Audio.Channel

namespace TiSIP.Audio

open Pjmedia Pjsua Switchboard

abbrev AudioLine := Fin maxCalls × Fin maxCallMedia

/-- The seats of all lines, with those of one call given by `view`. -/
def placed (seat : AudioLine → Option (Fin maxConfPorts)) (index : Fin maxCalls)
    (view : Fin maxCallMedia → Option (Fin maxConfPorts)) : AudioLine → Option (Fin maxConfPorts) :=
  fun line => if line.1 = index then view line.2 else seat line

theorem placed_own {seat : AudioLine → Option (Fin maxConfPorts)} {index : Fin maxCalls}
    {view : Fin maxCallMedia → Option (Fin maxConfPorts)} (mi : Fin maxCallMedia) :
    placed seat index view (index, mi) = view mi := by
  simp [placed]

theorem update_placed {seat : AudioLine → Option (Fin maxConfPorts)} {index : Fin maxCalls}
    {view : Fin maxCallMedia → Option (Fin maxConfPorts)} {mi : Fin maxCallMedia} {given : Option (Fin maxConfPorts)} :
    Function.update (placed seat index view) (index, mi) given = placed seat index (Function.update view mi given) := by
  funext line
  obtain ⟨call, other⟩ := line
  by_cases sameCall : call = index
  · subst sameCall
    by_cases sameLine : other = mi
    · subst sameLine
      simp [placed]
    · simp [placed, Function.update_of_ne, sameLine]
  · simp [placed, Function.update_of_ne, sameCall]

def provSeats (channel : MediaChannel) : Fin maxCallMedia → Option (Fin maxConfPorts) :=
  fun mi => seatOf (channel.mediaProv mi)

def mediaSeats (channel : MediaChannel) : Fin maxCallMedia → Option (Fin maxConfPorts) :=
  fun mi => seatOf (channel.media mi)

/-- Work on one line of a call: the other lines and the counts stay, and the call only leaves
    and takes seats. -/
structure Touches (index : Fin maxCalls) (mi : Fin maxCallMedia) (before after : MediaPlane) : Prop where
  medCnt : after.channel.medCnt = before.channel.medCnt
  medProvCnt : after.channel.medProvCnt = before.channel.medProvCnt
  media : ∀ other, other ≠ mi → after.channel.media other = before.channel.media other
  mediaProv : ∀ other, other ≠ mi → after.channel.mediaProv other = before.channel.mediaProv other
  reseats : ∀ seat, Reseats (fun line : AudioLine => line.1 = index) before.conf.board
    (placed seat index (provSeats before.channel)) after.conf.board (placed seat index (provSeats after.channel))

theorem Touches.refl (index : Fin maxCalls) (mi : Fin maxCallMedia) (plane : MediaPlane) :
    Touches index mi plane plane :=
  ⟨rfl, rfl, fun _ _ => rfl, fun _ _ => rfl, fun _ => .same⟩

theorem Touches.trans {index : Fin maxCalls} {mi : Fin maxCallMedia} {before middle after : MediaPlane}
    (first : Touches index mi before middle) (second : Touches index mi middle after) :
    Touches index mi before after where
  medCnt := second.medCnt.trans first.medCnt
  medProvCnt := second.medProvCnt.trans first.medProvCnt
  media := fun other different => (second.media other different).trans (first.media other different)
  mediaProv := fun other different => (second.mediaProv other different).trans (first.mediaProv other different)
  reseats := fun seat => (first.reseats seat).trans (second.reseats seat)

theorem touches_setProv (index : Fin maxCalls) {mi : Fin maxCallMedia} {plane : MediaPlane} {callMed : CallMedia}
    (slot : callMed.confSlot = (plane.channel.mediaProv mi).confSlot) :
    Touches index mi plane (setProv plane mi callMed) where
  medCnt := rfl
  medProvCnt := rfl
  media := fun _ _ => rfl
  mediaProv := fun _ different => Function.update_of_ne different _ _
  reseats := by
    intro seat
    have same : provSeats (setProv plane mi callMed).channel = provSeats plane.channel := by
      funext other
      by_cases here : other = mi
      · subst here
        simp [provSeats, setProv, seatOf, slot]
      · simp [provSeats, setProv, here]
    rw [same]
    exact .same

@[simp]
theorem setProv_conf (plane : MediaPlane) (mi : Fin maxCallMedia) (callMed : CallMedia) :
    (setProv plane mi callMed).conf = plane.conf := rfl

@[simp]
theorem setProv_own (plane : MediaPlane) (mi : Fin maxCallMedia) (callMed : CallMedia) :
    (setProv plane mi callMed).channel.mediaProv mi = callMed :=
  Function.update_self _ _ _

theorem touches_selectAudio (index : Fin maxCalls) {mi : Fin maxCallMedia} {plane : MediaPlane} (dir : MediaDir) :
    Touches index mi plane (selectAudio plane mi dir) := by
  unfold selectAudio
  split
  · exact ⟨rfl, rfl, fun _ _ => rfl, fun _ _ => rfl, fun _ => .same⟩
  · exact .refl _ _ _

@[simp]
theorem selectAudio_mediaProv (plane : MediaPlane) (mi : Fin maxCallMedia) (dir : MediaDir) :
    (selectAudio plane mi dir).channel.mediaProv = plane.channel.mediaProv := by
  unfold selectAudio
  split <;> rfl

structure Attached (channel : MediaChannel) (mi : Fin maxCallMedia) : Prop where
  slot : (channel.mediaProv mi).confSlot = (channel.media mi).confSlot
  held : (channel.media mi).confSlot ≠ invalidId →
    (∃ slot, seatOf (channel.media mi) = some slot) ∧ (channel.media mi).stream = true ∧
      (channel.mediaProv mi).tp = (channel.media mi).tp ∧ mi < channel.medCnt

structure Stopped (before after : MediaPlane) (mi : Fin maxCallMedia) : Prop where
  slot : (after.channel.mediaProv mi).confSlot = invalidId
  mediaSlot : (after.channel.media mi).confSlot = invalidId
  dir : (after.channel.mediaProv mi).dir = (before.channel.mediaProv mi).dir
  tp : (after.channel.mediaProv mi).tp = (before.channel.mediaProv mi).tp
  stream : (after.channel.mediaProv mi).stream = true →
    (before.channel.mediaProv mi).stream = true ∧ (before.channel.media mi).confSlot = invalidId
  audioIdx : after.channel.audioIdx = before.channel.audioIdx

theorem Stopped.attached {before after : MediaPlane} {mi : Fin maxCallMedia} (stopped : Stopped before after mi) :
    Attached after.channel mi :=
  ⟨stopped.slot.trans stopped.mediaSlot.symm, fun valid => absurd stopped.mediaSlot valid⟩

theorem audStopStream_slot {conf : Conf} {callMed : CallMedia}
    (held : callMed.confSlot ≠ invalidId → callMed.stream = true) :
    (audStopStream conf callMed).2.confSlot = invalidId := by
  unfold audStopStream
  split
  · split
    · rfl
    · rename_i invalid
      exact not_not.mp invalid
  · rename_i silent
    by_contra valid
    exact silent (held valid)

theorem audStopStream_idle {conf : Conf} {callMed : CallMedia} (invalid : callMed.confSlot = invalidId) :
    (audStopStream conf callMed).1 = conf := by
  unfold audStopStream
  split
  · simp [invalid]
  · rfl

theorem audStopStream_board {conf : Conf} {callMed : CallMedia} {slot : Fin maxConfPorts}
    (seated : seatOf callMed = some slot) (running : callMed.stream = true) :
    (audStopStream conf callMed).1.board = conf.board.unplug slot := by
  unfold audStopStream
  rw [if_pos running, if_pos (seat_valid seated), seatOf_eq_some.mp seated]
  exact Conference.board_removePort conf slot

theorem audStopStream_reseats (index : Fin maxCalls) (mi : Fin maxCallMedia) {conf : Conf} {callMed : CallMedia}
    {own : Fin maxCallMedia → Option (Fin maxConfPorts)} (seat : AudioLine → Option (Fin maxConfPorts))
    (sits : own mi = seatOf callMed)
    (held : callMed.confSlot ≠ invalidId → (∃ slot, seatOf callMed = some slot) ∧ callMed.stream = true) :
    Reseats (fun line : AudioLine => line.1 = index) conf.board (placed seat index own)
      (audStopStream conf callMed).1.board (placed seat index (Function.update own mi none)) := by
  rw [← update_placed]
  by_cases valid : callMed.confSlot = invalidId
  · have empty : own mi = none := sits.trans (seatOf_invalid valid)
    have unchanged : Function.update (placed seat index own) (index, mi) none = placed seat index own := by
      rw [update_placed, ← empty, Function.update_eq_self]
    rw [unchanged, audStopStream_idle valid]
    exact .same
  · obtain ⟨⟨slot, seated⟩, running⟩ := held valid
    have taken : placed seat index own (index, mi) = some slot := by
      rw [placed_own, sits]
      exact seated
    rw [audStopStream_board seated running]
    exact Reseats.same.leave rfl taken

theorem audStopStream_stream (conf : Conf) (callMed : CallMedia) : (audStopStream conf callMed).2.stream = false := by
  unfold audStopStream
  split
  · split <;> rfl
  · rename_i silent
    simpa using silent

theorem audStopStream_kept (conf : Conf) (callMed : CallMedia) :
    (audStopStream conf callMed).2.tp = callMed.tp ∧ (audStopStream conf callMed).2.dir = callMed.dir := by
  unfold audStopStream
  split
  · split <;> exact ⟨rfl, rfl⟩
  · exact ⟨rfl, rfl⟩

theorem stop_below {plane : MediaPlane} {mi : Fin maxCallMedia} (below : mi < plane.channel.medCnt) :
    stopMediaStream plane mi =
      { conf := (audStopStream plane.conf (plane.channel.media mi)).1
        channel := { plane.channel with
          media := Function.update plane.channel.media mi
            { (audStopStream plane.conf (plane.channel.media mi)).2 with state := .none }
          mediaProv := Function.update plane.channel.mediaProv mi
            (if mi < plane.channel.medProvCnt then
              syncProv { (audStopStream plane.conf (plane.channel.media mi)).2 with state := .none }
                (plane.channel.mediaProv mi)
            else plane.channel.mediaProv mi) } } := by
  have not_above : ¬ plane.channel.medCnt ≤ mi.val := by omega
  simp only [stopMediaStream, not_above, if_false]

theorem syncProv_kept (callMed provMed : CallMedia) :
    (syncProv callMed provMed).tp = provMed.tp ∧ (syncProv callMed provMed).dir = provMed.dir := by
  unfold syncProv
  split <;> exact ⟨rfl, rfl⟩

theorem syncProv_slot {callMed provMed : CallMedia} (invalid : callMed.confSlot = invalidId)
    (other : provMed.tp ≠ callMed.tp → provMed.confSlot = invalidId) :
    (syncProv callMed provMed).confSlot = invalidId := by
  unfold syncProv
  split
  · exact invalid
  · rename_i different
    exact other different

theorem syncProv_stream {callMed provMed : CallMedia} (silent : callMed.stream = false)
    (still : (syncProv callMed provMed).stream = true) : provMed.stream = true ∧ provMed.tp ≠ callMed.tp := by
  unfold syncProv at still
  split at still
  · rw [silent] at still
    cases still
  · rename_i different
    exact ⟨still, different⟩

theorem stopMediaStream_spec (index : Fin maxCalls) {plane : MediaPlane} {mi : Fin maxCallMedia}
    (attached : Attached plane.channel mi) (prov : mi < plane.channel.medProvCnt) :
    Touches index mi plane (stopMediaStream plane mi) ∧ Stopped plane (stopMediaStream plane mi) mi := by
  by_cases below : mi < plane.channel.medCnt
  · rw [stop_below below, if_pos prov]
    generalize stoppedEq : audStopStream plane.conf (plane.channel.media mi) = stopped
    have stoppedSlot : stopped.2.confSlot = invalidId := by
      rw [← stoppedEq]
      exact audStopStream_slot fun valid => (attached.held valid).2.1
    have stoppedStream : stopped.2.stream = false := by
      rw [← stoppedEq]
      exact audStopStream_stream _ _
    have stoppedKept := audStopStream_kept plane.conf (plane.channel.media mi)
    rw [stoppedEq] at stoppedKept
    have otherTransport : (plane.channel.mediaProv mi).tp ≠ stopped.2.tp →
        (plane.channel.media mi).confSlot = invalidId := by
      intro different
      by_contra valid
      exact different ((attached.held valid).2.2.1.trans stoppedKept.1.symm)
    have provSlot : (syncProv { stopped.2 with state := .none } (plane.channel.mediaProv mi)).confSlot = invalidId :=
      syncProv_slot stoppedSlot fun different => attached.slot.trans (otherTransport different)
    refine ⟨⟨rfl, rfl, fun other different => Function.update_of_ne different _ _,
      fun other different => Function.update_of_ne different _ _, ?_⟩, ?_⟩
    · intro seat
      have left : provSeats { plane.channel with
          media := Function.update plane.channel.media mi { stopped.2 with state := .none }
          mediaProv := Function.update plane.channel.mediaProv mi
            (syncProv { stopped.2 with state := .none } (plane.channel.mediaProv mi)) } =
          Function.update (provSeats plane.channel) mi none := by
        funext other
        by_cases here : other = mi
        · subst here
          simp [provSeats, seatOf_invalid provSlot]
        · simp [provSeats, here]
      rw [left, ← stoppedEq]
      refine audStopStream_reseats index mi seat ?_ fun valid => ?_
      · show seatOf (plane.channel.mediaProv mi) = seatOf (plane.channel.media mi)
        unfold seatOf
        rw [attached.slot]
      · obtain ⟨seated, running, _⟩ := attached.held valid
        exact ⟨seated, running⟩
    · refine ⟨?_, ?_, ?_, ?_, ?_, rfl⟩
      · simpa using provSlot
      · simpa using stoppedSlot
      · simpa using (syncProv_kept { stopped.2 with state := .none } (plane.channel.mediaProv mi)).2
      · simpa using (syncProv_kept { stopped.2 with state := .none } (plane.channel.mediaProv mi)).1
      · intro still
        simp only [Function.update_self] at still
        obtain ⟨running, different⟩ := syncProv_stream (by exact stoppedStream) still
        exact ⟨running, otherTransport different⟩
  · have invalid : (plane.channel.media mi).confSlot = invalidId := by
      by_contra valid
      exact below (attached.held valid).2.2.2
    have unchanged : stopMediaStream plane mi = plane := by
      have above : plane.channel.medCnt ≤ mi.val := by omega
      simp only [stopMediaStream, above, if_true]
    rw [unchanged]
    exact ⟨.refl _ _ _, attached.slot.trans invalid, invalid, rfl, rfl, fun still => ⟨still, invalid⟩, rfl⟩

theorem failLine_spec (index : Fin maxCalls) {plane : MediaPlane} {mi : Fin maxCallMedia}
    (attached : Attached plane.channel mi) (prov : mi < plane.channel.medProvCnt) :
    Touches index mi plane (failLine plane mi) ∧ LineSound ((failLine plane mi).channel.mediaProv mi) ∧
      (failLine plane mi).channel.audioIdx = plane.channel.audioIdx := by
  obtain ⟨touched, stopped⟩ := stopMediaStream_spec index attached prov
  unfold failLine closeTransport
  refine ⟨?_, ?_, ?_⟩
  · apply touched.trans
    refine (touches_setProv index ?_).trans (touches_setProv index ?_)
    · rfl
    · rfl
  · rw [setProv_own]
    constructor
    · rw [setProv_own]
      exact .inl stopped.slot
    · intro _ impossible
      cases impossible rfl
  · exact stopped.audioIdx

theorem Mirrored.attached {channel : MediaChannel} {mi : Fin maxCallMedia} (sound : LineSound (channel.media mi))
    (mirrored : Mirrored (channel.media mi) (channel.mediaProv mi))
    (above : channel.medCnt ≤ mi → LineIdle (channel.media mi)) : Attached channel mi where
  slot := mirrored.slot
  held := by
    intro valid
    obtain ⟨seated, running, _⟩ := sound.seated valid
    refine ⟨seated, running, mirrored.tp valid, ?_⟩
    by_contra notBelow
    exact valid (above (by omega)).slot

structure Waiting (channel : MediaChannel) (mi : Fin maxCallMedia) : Prop where
  sound : LineSound (channel.media mi)
  mirrored : Mirrored (channel.media mi) (channel.mediaProv mi)
  above : channel.medCnt ≤ mi → LineIdle (channel.media mi)

structure Updated (index : Fin maxCalls) (mi : Fin maxCallMedia) (before : MediaPlane) (result : MediaPlane × Bool) :
    Prop where
  touched : Touches index mi before result.1
  sound : LineSound (result.1.channel.mediaProv mi)
  selected : result.1.channel.audioIdx = before.channel.audioIdx ∨
    result.1.channel.audioIdx = some mi ∧ result.2 = true ∧
      ∃ slot, seatOf (result.1.channel.mediaProv mi) = some slot

theorem failLine_updated {index : Fin maxCalls} {before plane : MediaPlane} {mi : Fin maxCallMedia}
    (attached : Attached plane.channel mi) (prov : mi < plane.channel.medProvCnt)
    (touched : Touches index mi before plane) (same : plane.channel.audioIdx = before.channel.audioIdx) :
    Updated index mi before (failLine plane mi, false) := by
  obtain ⟨failed, sound, audioIdx⟩ := failLine_spec index attached prov
  exact ⟨touched.trans failed, sound, .inl (audioIdx.trans same)⟩

theorem restarted_spec (index : Fin maxCalls) {plane : MediaPlane} {mi : Fin maxCallMedia}
    (waiting : Waiting plane.channel mi) (prov : mi < plane.channel.medProvCnt) (si : StreamInfo) :
    Touches index mi plane (restarted plane mi si) ∧ Attached (restarted plane mi si).channel mi ∧
      (restarted plane mi si).channel.audioIdx = plane.channel.audioIdx ∧
      ((restarted plane mi si).channel.mediaProv mi).tp = (plane.channel.mediaProv mi).tp := by
  have attached := waiting.mirrored.attached waiting.sound waiting.above
  unfold restarted
  split
  · obtain ⟨touched, stopped⟩ := stopMediaStream_spec index attached prov
    exact ⟨touched, stopped.attached, stopped.audioIdx, stopped.tp⟩
  · exact ⟨.refl _ _ _, attached, rfl, rfl⟩

theorem restarted_slot {plane : MediaPlane} {mi : Fin maxCallMedia} {si : StreamInfo}
    (waiting : Waiting plane.channel mi) (prov : mi < plane.channel.medProvCnt)
    (changed : isMediaChanged plane.channel mi si = true) :
    ((restarted plane mi si).channel.mediaProv mi).confSlot = invalidId := by
  have attached := waiting.mirrored.attached waiting.sound waiting.above
  rw [restarted, if_pos changed]
  exact (stopMediaStream_spec 0 attached prov).2.slot

theorem unchanged_seat {channel : MediaChannel} {mi : Fin maxCallMedia} {si : StreamInfo}
    (waiting : Waiting channel mi) (unchanged : isMediaChanged channel mi si = false) (running : si.dir ≠ .none) :
    ∃ slot, seatOf (channel.mediaProv mi) = some slot := by
  unfold isMediaChanged at unchanged
  dsimp only at unchanged
  split at unchanged
  · cases unchanged
  · split at unchanged
    · cases unchanged
    · rename_i sameDir
      split at unchanged
      · rename_i stream
        have sameDir' := not_not.mp sameDir
        have valid := waiting.sound.running stream (by rw [sameDir']; exact running)
        obtain ⟨⟨slot, seated⟩, _⟩ := waiting.sound.seated valid
        exact ⟨slot, seatOf_eq_some.mpr (waiting.mirrored.slot.trans (seatOf_eq_some.mp seated))⟩
      · simp [running] at unchanged

/-- An unchanged rejected line has no slot: without a codec it differs from every stream. -/
theorem rejected_slot {channel : MediaChannel} {mi : Fin maxCallMedia} {si : StreamInfo}
    (waiting : Waiting channel mi) (unchanged : isMediaChanged channel mi si = false) (differs : si.differs = true) :
    (channel.mediaProv mi).confSlot = invalidId := by
  unfold isMediaChanged at unchanged
  dsimp only at unchanged
  split at unchanged
  · cases unchanged
  · split at unchanged
    · cases unchanged
    · split at unchanged
      · rw [differs] at unchanged
        cases unchanged
      · rename_i silent
        rw [waiting.mirrored.slot]
        by_contra valid
        exact silent (waiting.sound.seated valid).2.1

theorem selectAudio_selected (plane : MediaPlane) (mi : Fin maxCallMedia) (dir : MediaDir) :
    (selectAudio plane mi dir).channel.audioIdx = plane.channel.audioIdx ∨
      (selectAudio plane mi dir).channel.audioIdx = some mi ∧ dir ≠ .none := by
  unfold selectAudio
  split
  · rename_i chosen
    exact .inr ⟨rfl, chosen.2⟩
  · exact .inl rfl

theorem audChannelUpdate_failed (index : Fin maxCalls) {plane after : MediaPlane} {mi : Fin maxCallMedia}
    {si : StreamInfo} (attached : Attached plane.channel mi)
    (invalid : (plane.channel.mediaProv mi).confSlot = invalidId)
    (ran : audChannelUpdate plane mi si = (after, false)) :
    Touches index mi plane after ∧ Attached after.channel mi ∧
      after.channel.audioIdx = plane.channel.audioIdx := by
  have mediaInvalid : (plane.channel.media mi).confSlot = invalidId := attached.slot.symm.trans invalid
  have started : Touches index mi plane (setProv plane mi { plane.channel.mediaProv mi with stream := true }) ∧
      Attached (setProv plane mi { plane.channel.mediaProv mi with stream := true }).channel mi := by
    refine ⟨touches_setProv index rfl, ⟨?_, fun valid => absurd mediaInvalid valid⟩⟩
    rw [setProv_own]
    exact attached.slot
  unfold audChannelUpdate at ran
  dsimp only at ran
  split at ran
  · cases ran
    exact ⟨.refl _ _ _, attached, rfl⟩
  · cases ran
    exact ⟨started.1, started.2, rfl⟩
  · split at ran
    · cases ran
      exact ⟨started.1, started.2, rfl⟩
    · cases ran

theorem audChannelUpdate_started (index : Fin maxCalls) {plane after : MediaPlane} {mi : Fin maxCallMedia}
    {si : StreamInfo} (invalid : (plane.channel.mediaProv mi).confSlot = invalidId)
    (ran : audChannelUpdate plane mi si = (after, true)) :
    Touches index mi plane after ∧ (∃ slot, seatOf (after.channel.mediaProv mi) = some slot) ∧
      (after.channel.mediaProv mi).stream = true ∧
      (after.channel.mediaProv mi).tp = (plane.channel.mediaProv mi).tp ∧
      after.channel.audioIdx = plane.channel.audioIdx := by
  unfold audChannelUpdate at ran
  dsimp only at ran
  split at ran
  · cases ran
  · cases ran
  · split at ran
    · cases ran
    · rename_i conf slot added
      cases ran
      obtain ⟨free, plugged⟩ := Conference.board_addPort added
      refine ⟨⟨rfl, rfl, fun _ _ => rfl, fun _ different => Function.update_of_ne different _ _, ?_⟩,
        ⟨slot, ?_⟩, ?_, ?_, rfl⟩
      · intro seat
        have taken : provSeats (setProv { plane with conf } mi
            { plane.channel.mediaProv mi with stream := true, confSlot := slot.val }).channel =
            Function.update (provSeats plane.channel) mi (some slot) := by
          funext other
          by_cases here : other = mi
          · subst here
            simp [provSeats, seatOf]
          · simp [provSeats, setProv, here]
        have empty : placed seat index (provSeats plane.channel) (index, mi) = none := by
          rw [placed_own]
          exact seatOf_invalid invalid
        rw [taken, ← update_placed, setProv_conf, plugged]
        exact Reseats.same.take rfl empty free
      · rw [setProv_own]
        exact seatOf_eq_some.mpr rfl
      · rw [setProv_own]
      · rw [setProv_own]

theorem running_updated {index : Fin maxCalls} {before plane : MediaPlane} {mi : Fin maxCallMedia} {dir : MediaDir}
    (touched : Touches index mi before plane) (same : plane.channel.audioIdx = before.channel.audioIdx)
    (held : (plane.channel.mediaProv mi).confSlot = invalidId ∨
      (∃ slot, seatOf (plane.channel.mediaProv mi) = some slot) ∧
        (plane.channel.mediaProv mi).stream = true ∧ (plane.channel.mediaProv mi).tp.isSome)
    (seated : dir ≠ .none → ∃ slot, seatOf (plane.channel.mediaProv mi) = some slot) :
    Updated index mi before (selectAudio (setProv plane mi
      { plane.channel.mediaProv mi with dir := dir, state := runningState dir }) mi dir, true) where
  touched := by
    refine touched.trans ((touches_setProv index ?_).trans (touches_selectAudio index dir))
    rfl
  sound := by
    rw [selectAudio_mediaProv, setProv_own]
    refine ⟨held, ?_⟩
    intro _ running
    obtain ⟨slot, seat⟩ := seated running
    exact seat_valid seat
  selected := by
    rw [selectAudio_mediaProv, setProv_own]
    rcases selectAudio_selected (setProv plane mi
      { plane.channel.mediaProv mi with dir := dir, state := runningState dir }) mi dir with kept | ⟨chosen, running⟩
    · exact .inl (kept.trans same)
    · exact .inr ⟨chosen, rfl, seated running⟩

theorem updateLine_updated {index : Fin maxCalls} {sdp : SdpPair} {plane : MediaPlane} {mi : Fin maxCallMedia}
    (waiting : Waiting plane.channel mi) (prov : mi < plane.channel.medProvCnt)
    (transport : sdp.audio = some mi → (plane.channel.mediaProv mi).tp.isSome) :
    Updated index mi plane (updateLine sdp plane mi) := by
  have attached := waiting.mirrored.attached waiting.sound waiting.above
  unfold updateLine
  split
  · obtain ⟨touched, stopped⟩ := stopMediaStream_spec index attached prov
    refine ⟨touched.trans (touches_setProv index rfl), ?_, .inl stopped.audioIdx⟩
    unfold closeTransport
    rw [setProv_own]
    refine ⟨.inl stopped.slot, ?_⟩
    intro stream running
    obtain ⟨copied, invalid⟩ := stopped.stream stream
    have sameDir : (plane.channel.media mi).dir ≠ .none := by
      rw [← waiting.mirrored.dir, ← stopped.dir]
      exact running
    exact absurd invalid (waiting.sound.running (waiting.mirrored.stream ▸ copied) sameDir)
  · split
    · exact failLine_updated attached prov (.refl _ _ _) rfl
    · rename_i si given
      obtain ⟨touched, still, audioIdx, tp⟩ := restarted_spec index waiting prov si
      have restartedProv : mi < (restarted plane mi si).channel.medProvCnt := by
        rw [touched.medProvCnt]
        exact prov
      dsimp only
      split
      · rename_i rejected
        have differs : si.differs = true ∧ si.dir = .none := by
          unfold SdpPair.streamInfo at given
          simp only [Option.map_eq_some_iff, rejected, if_false] at given
          obtain ⟨_, _, rfl⟩ := given
          exact ⟨rfl, rfl⟩
        have invalid : ((restarted plane mi si).channel.mediaProv mi).confSlot = invalidId := by
          by_cases changed : isMediaChanged plane.channel mi si = true
          · exact restarted_slot waiting prov changed
          · have unchanged := Bool.eq_false_iff.mpr changed
            rw [restarted, if_neg changed]
            exact rejected_slot waiting unchanged differs.1
        have unselected : ∀ plane, selectAudio plane mi si.dir = plane := by
          intro plane
          simp [selectAudio, differs.2]
        rw [unselected]
        unfold closeTransport
        refine ⟨touched.trans ((touches_setProv index ?_).trans (touches_setProv index ?_)), ?_, .inl audioIdx⟩
        · rfl
        · rfl
        · rw [setProv_own, setProv_own]
          refine ⟨.inl invalid, ?_⟩
          intro _ impossible
          cases impossible rfl
      · rename_i accepted
        have hasTransport := transport (not_not.mp accepted)
        split
        · exact failLine_updated still restartedProv touched audioIdx
        · by_cases changed : isMediaChanged plane.channel mi si = true
          · have invalid := restarted_slot waiting prov changed
            simp only [changed, if_true]
            generalize ran : audChannelUpdate (restarted plane mi si) mi si = result
            obtain ⟨after, streaming⟩ := result
            cases streaming with
            | false =>
              obtain ⟨started, attachedAfter, same⟩ := audChannelUpdate_failed index still invalid ran
              have afterProv : mi < after.channel.medProvCnt := by
                rw [started.medProvCnt]
                exact restartedProv
              exact failLine_updated attachedAfter afterProv (touched.trans started) (same.trans audioIdx)
            | true =>
              obtain ⟨started, seated, stream, sameTp, same⟩ := audChannelUpdate_started index invalid ran
              refine running_updated (touched.trans started) (same.trans audioIdx) (.inr ⟨seated, stream, ?_⟩)
                fun _ => seated
              rw [sameTp, tp]
              exact hasTransport
          · have unchanged := Bool.eq_false_iff.mpr changed
            have same : restarted plane mi si = plane := if_neg changed
            simp only [unchanged, same]
            refine running_updated (.refl _ _ _) rfl ?_ fun running => unchanged_seat waiting unchanged running
            rcases waiting.sound.slot with invalid | ⟨⟨slot, seated⟩, stream, _⟩
            · exact .inl (waiting.mirrored.slot.trans invalid)
            · refine .inr ⟨⟨slot, ?_⟩, waiting.mirrored.stream.trans stream, hasTransport⟩
              exact seatOf_eq_some.mpr (waiting.mirrored.slot.trans (seatOf_eq_some.mp seated))

structure AllUpdated (index : Fin maxCalls) (lines : List (Fin maxCallMedia)) (before after : MediaPlane)
    (gotMedia : Bool) : Prop where
  medCnt : after.channel.medCnt = before.channel.medCnt
  medProvCnt : after.channel.medProvCnt = before.channel.medProvCnt
  media : ∀ other, other ∉ lines → after.channel.media other = before.channel.media other
  mediaProv : ∀ other, other ∉ lines → after.channel.mediaProv other = before.channel.mediaProv other
  sound : ∀ mi, mi ∈ lines → LineSound (after.channel.mediaProv mi)
  selected : after.channel.audioIdx = before.channel.audioIdx ∨
    ∃ mi, mi ∈ lines ∧ after.channel.audioIdx = some mi ∧ gotMedia = true ∧
      ∃ slot, seatOf (after.channel.mediaProv mi) = some slot
  reseats : ∀ seat, Reseats (fun line : AudioLine => line.1 = index) before.conf.board
    (placed seat index (provSeats before.channel)) after.conf.board (placed seat index (provSeats after.channel))

theorem updateLines_updated {index : Fin maxCalls} {sdp : SdpPair} (lines : List (Fin maxCallMedia))
    (nodup : lines.Nodup) {plane : MediaPlane}
    (waiting : ∀ mi, mi ∈ lines → Waiting plane.channel mi ∧ mi < plane.channel.medProvCnt)
    (transport : ∀ mi, mi ∈ lines → sdp.audio = some mi → (plane.channel.mediaProv mi).tp.isSome) :
    AllUpdated index lines plane (updateLines sdp lines plane).1 (updateLines sdp lines plane).2 := by
  induction lines generalizing plane with
  | nil =>
    refine ⟨rfl, rfl, fun _ _ => rfl, fun _ _ => rfl, ?_, .inl rfl, fun _ => .same⟩
    intro mi member
    cases member
  | cons line rest ih =>
    obtain ⟨notLater, restNodup⟩ := List.nodup_cons.mp nodup
    have here := waiting line (by simp)
    have first : Updated index line plane (updateLine sdp plane line) :=
      updateLine_updated here.1 here.2 (transport line (by simp))
    have touched := first.touched
    generalize middleEq : updateLine sdp plane line = middle at first touched
    have later : ∀ mi, mi ∈ rest → mi ≠ line := by
      intro mi member same
      exact notLater (same ▸ member)
    have restWaiting : ∀ mi, mi ∈ rest → Waiting middle.1.channel mi ∧ mi < middle.1.channel.medProvCnt := by
      intro mi member
      obtain ⟨⟨sound, mirrored, above⟩, below⟩ := waiting mi (by simp [member])
      have media := touched.media mi (later mi member)
      have prov := touched.mediaProv mi (later mi member)
      refine ⟨⟨?_, ?_, ?_⟩, ?_⟩
      · rw [media]
        exact sound
      · rw [media, prov]
        exact mirrored
      · rw [media, touched.medCnt]
        exact above
      · rw [touched.medProvCnt]
        exact below
    have restTransport : ∀ mi, mi ∈ rest → sdp.audio = some mi → (middle.1.channel.mediaProv mi).tp.isSome := by
      intro mi member chosen
      rw [touched.mediaProv mi (later mi member)]
      exact transport mi (by simp [member]) chosen
    have others := ih restNodup restWaiting restTransport
    have ran : updateLines sdp (line :: rest) plane =
        ((updateLines sdp rest middle.1).1, middle.2 || (updateLines sdp rest middle.1).2) := by
      rw [← middleEq]
      rfl
    rw [ran]
    generalize updateLines sdp rest middle.1 = after at others
    refine ⟨others.medCnt.trans touched.medCnt, others.medProvCnt.trans touched.medProvCnt, ?_, ?_, ?_, ?_, ?_⟩
    · intro other absent
      rw [List.mem_cons, not_or] at absent
      exact (others.media other absent.2).trans (touched.media other absent.1)
    · intro other absent
      rw [List.mem_cons, not_or] at absent
      exact (others.mediaProv other absent.2).trans (touched.mediaProv other absent.1)
    · intro mi member
      rcases List.mem_cons.mp member with rfl | member
      · rw [others.mediaProv mi notLater]
        exact first.sound
      · exact others.sound mi member
    · rcases others.selected with same | ⟨mi, member, chosen, got, seated⟩
      · rcases first.selected with kept | ⟨chosen, got, seated⟩
        · exact .inl (same.trans kept)
        · refine .inr ⟨line, by simp, same.trans chosen, by simp [got], ?_⟩
          rw [others.mediaProv line notLater]
          exact seated
      · exact .inr ⟨mi, by simp [member], chosen, by simp [got], seated⟩
    · intro seat
      exact (touched.reseats seat).trans (others.reseats seat)

theorem mem_linesBelow {count : Nat} {mi : Fin maxCallMedia} : mi ∈ linesBelow count ↔ mi < count := by
  simp [linesBelow]

theorem nodup_linesBelow (count : Nat) : (linesBelow count).Nodup :=
  (List.nodup_finRange _).filter _

theorem provSeats_eq {channel : MediaChannel} (sound : ChannelSound channel) (used : 0 < channel.medProvCnt) :
    provSeats channel = mediaSeats channel := by
  funext mi
  by_cases below : mi.val < channel.medProvCnt
  · exact congrArg (SlotTable.slotOf maxConfPorts) (sound.mirrored mi below).slot
  · have above : channel.medCnt ≤ mi := by
      rcases sound.counted with none | counted
      · omega
      · omega
    exact (seatOf_invalid (sound.fresh (.inr used) mi above).slot).trans
      (seatOf_invalid (sound.above mi above).slot).symm

structure Committable (channel : MediaChannel) : Prop where
  sound : ∀ mi : Fin maxCallMedia, mi < channel.medProvCnt → LineSound (channel.mediaProv mi)
  idle : ∀ mi : Fin maxCallMedia, channel.medProvCnt ≤ mi → LineIdle (channel.media mi) ∧ LineIdle (channel.mediaProv mi)

theorem commitMedia_below {channel : MediaChannel} {mi : Fin maxCallMedia} (below : mi < channel.medProvCnt) :
    (commitMedia channel).media mi = channel.mediaProv mi :=
  if_pos below

theorem commitMedia_above {channel : MediaChannel} {mi : Fin maxCallMedia} (above : channel.medProvCnt ≤ mi) :
    (commitMedia channel).media mi = channel.media mi :=
  if_neg (Nat.not_lt.mpr above)

theorem Committable.commitMedia_sound {channel : MediaChannel} (committable : Committable channel) :
    ChannelSound (commitMedia channel) where
  line := by
    intro mi
    by_cases below : mi < channel.medProvCnt
    · rw [commitMedia_below below]
      exact committable.sound mi below
    · have above : channel.medProvCnt ≤ mi := Nat.not_lt.mp below
      rw [commitMedia_above above]
      exact (committable.idle mi above).1.sound
  above := by
    intro mi above
    have above : channel.medProvCnt ≤ mi := above
    rw [commitMedia_above above]
    exact (committable.idle mi above).1
  mirrored := by
    intro mi below
    have below : mi < channel.medProvCnt := below
    rw [commitMedia_below below]
    exact ⟨rfl, rfl, rfl, fun _ => rfl⟩
  fresh := fun _ mi above => (committable.idle mi above).2
  counted := .inr le_rfl

theorem Committable.mediaSeats_commitMedia {channel : MediaChannel} (committable : Committable channel) :
    mediaSeats (commitMedia channel) = provSeats channel := by
  funext mi
  by_cases below : mi < channel.medProvCnt
  · exact congrArg seatOf (commitMedia_below below)
  · have above : channel.medProvCnt ≤ mi := Nat.not_lt.mp below
    obtain ⟨media, mediaProv⟩ := committable.idle mi above
    have line := congrArg seatOf (commitMedia_above above)
    exact line.trans ((seatOf_invalid media.slot).trans (seatOf_invalid mediaProv.slot).symm)

theorem updateLines_sound (index : Fin maxCalls) {sdp : SdpPair} {start : MediaPlane}
    (sound : ChannelSound start.channel) (transport : ∀ mi, sdp.audio = some mi → (start.channel.mediaProv mi).tp.isSome) :
    AllUpdated index (linesBelow start.channel.medProvCnt) start
      (updateLines sdp (linesBelow start.channel.medProvCnt) start).1
      (updateLines sdp (linesBelow start.channel.medProvCnt) start).2 := by
  refine updateLines_updated _ (nodup_linesBelow _) ?_ fun mi _ chosen => transport mi chosen
  intro mi member
  have below := mem_linesBelow.mp member
  exact ⟨⟨sound.line mi, sound.mirrored mi below, sound.above mi⟩, below⟩

theorem AllUpdated.committable {index : Fin maxCalls} {start after : MediaPlane} {gotMedia : Bool}
    (all : AllUpdated index (linesBelow start.channel.medProvCnt) start after gotMedia)
    (sound : ChannelSound start.channel) (used : 0 < start.channel.medProvCnt) : Committable after.channel where
  sound := by
    intro mi below
    rw [all.medProvCnt] at below
    exact all.sound mi (mem_linesBelow.mpr below)
  idle := by
    intro mi above
    rw [all.medProvCnt] at above
    have outside : mi ∉ linesBelow start.channel.medProvCnt := by
      intro member
      have below := mem_linesBelow.mp member
      omega
    have counted : start.channel.medCnt ≤ mi := by
      rcases sound.counted with none | counted
      · omega
      · omega
    rw [all.media mi outside, all.mediaProv mi outside]
    exact ⟨sound.above mi counted, sound.fresh (.inr used) mi counted⟩

/-- What an update leaves: sound lines, reached by leaving and taking seats, and a selected
    line, if some line got media, that has a slot. -/
structure ChannelUpdated (index : Fin maxCalls) (before after : MediaPlane) (status : UpdateStatus) : Prop where
  sound : ChannelSound after.channel
  selected : ∀ mi, after.channel.audioIdx = some mi →
    status ≠ .noMedia ∧ ∃ slot, seatOf (after.channel.media mi) = some slot
  reseats : ∀ seat, Reseats (fun line : AudioLine => line.1 = index) before.conf.board
    (placed seat index (mediaSeats before.channel)) after.conf.board (placed seat index (mediaSeats after.channel))

theorem mediaChannelUpdate_updated (index : Fin maxCalls) {sdp : SdpPair} {plane : MediaPlane}
    (sound : ChannelSound plane.channel) (used : 0 < plane.channel.medProvCnt)
    (transport : ∀ mi, sdp.audio = some mi → (plane.channel.mediaProv mi).tp.isSome) :
    ChannelUpdated index plane (mediaChannelUpdate plane sdp).1 (mediaChannelUpdate plane sdp).2 := by
  have startSound : ChannelSound ({ plane with channel := { plane.channel with audioIdx := none } } : MediaPlane).channel :=
    ⟨sound.line, sound.above, sound.mirrored, sound.fresh, sound.counted⟩
  have seats : provSeats plane.channel = mediaSeats plane.channel := provSeats_eq sound used
  unfold mediaChannelUpdate
  generalize startEq : ({ plane with channel := { plane.channel with audioIdx := none } } : MediaPlane) = start
  have all : AllUpdated index (linesBelow plane.channel.medProvCnt) start
      (updateLines sdp (linesBelow plane.channel.medProvCnt) start).1
      (updateLines sdp (linesBelow plane.channel.medProvCnt) start).2 := by
    subst startEq
    have loop := updateLines_sound index startSound transport
    exact loop
  have committable : Committable (updateLines sdp (linesBelow plane.channel.medProvCnt) start).1.channel := by
    subst startEq
    have committable := AllUpdated.committable all startSound used
    exact committable
  have startIdx : start.channel.audioIdx = none := by rw [← startEq]
  have startSeats : start.conf = plane.conf ∧ provSeats start.channel = mediaSeats plane.channel := by
    subst startEq
    exact ⟨rfl, seats⟩
  dsimp only
  generalize updateLines sdp (linesBelow plane.channel.medProvCnt) start = result at all committable ⊢
  obtain ⟨looped, gotMedia⟩ := result
  have updated : ∀ status, (gotMedia = true → status ≠ .noMedia) →
      ChannelUpdated index plane { looped with channel := commitMedia looped.channel } status := by
    intro status told
    refine ⟨committable.commitMedia_sound, ?_, ?_⟩
    · intro mi chosen
      have chosen : looped.channel.audioIdx = some mi := chosen
      rcases all.selected with same | ⟨other, member, chosenOther, got, seated⟩
      · rw [same, startIdx] at chosen
        cases chosen
      · obtain rfl : other = mi := Option.some.inj (chosenOther.symm.trans chosen)
        have below : other < looped.channel.medProvCnt := by
          rw [all.medProvCnt, ← startEq]
          exact mem_linesBelow.mp member
        dsimp only
        rw [commitMedia_below below]
        exact ⟨told got, seated⟩
    · intro seat
      have moved := all.reseats seat
      rw [startSeats.1, startSeats.2] at moved
      dsimp only
      rw [committable.mediaSeats_commitMedia]
      exact moved
  cases gotMedia with
  | true =>
    apply updated _
    intro _
    cases sdp.renegotiated <;> exact nofun
  | false => exact updated _ nofun

end TiSIP.Audio
