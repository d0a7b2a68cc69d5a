import TiSIP.Lib.Seating
import TiSIP.Pjsua.Call

namespace TiSIP.Audio

open Pjmedia Pjsua Switchboard

def seatOf (callMed : CallMedia) : Option (Fin maxConfPorts) := SlotTable.slotOf maxConfPorts callMed.confSlot

theorem seatOf_eq_some {callMed : CallMedia} {slot : Fin maxConfPorts} :
    seatOf callMed = some slot ↔ callMed.confSlot = slot.val :=
  SlotTable.slotOf_eq_some

theorem seatOf_invalid {callMed : CallMedia} (invalid : callMed.confSlot = invalidId) : seatOf callMed = none := by
  rw [Option.eq_none_iff_forall_ne_some]
  intro slot seated
  have same := seatOf_eq_some.mp seated
  rw [invalid] at same
  unfold invalidId at same
  omega

structure LineSound (callMed : CallMedia) : Prop where
  slot : callMed.confSlot = invalidId ∨
    (∃ slot, seatOf callMed = some slot) ∧ callMed.stream = true ∧ callMed.tp.isSome
  running : callMed.stream = true → callMed.dir ≠ .none → callMed.confSlot ≠ invalidId

structure LineIdle (callMed : CallMedia) : Prop where
  slot : callMed.confSlot = invalidId
  stream : callMed.stream = false
  dir : callMed.dir = .none

theorem LineIdle.sound {callMed : CallMedia} (idle : LineIdle callMed) : LineSound callMed where
  slot := .inl idle.slot
  running := by
    intro running
    rw [idle.stream] at running
    cases running

theorem LineSound.seated {callMed : CallMedia} (sound : LineSound callMed) (valid : callMed.confSlot ≠ invalidId) :
    (∃ slot, seatOf callMed = some slot) ∧ callMed.stream = true ∧ callMed.tp.isSome :=
  sound.slot.resolve_left valid

theorem seat_valid {callMed : CallMedia} {slot : Fin maxConfPorts} (seated : seatOf callMed = some slot) :
    callMed.confSlot ≠ invalidId := by
  intro invalid
  rw [seatOf_invalid invalid] at seated
  cases seated

structure Mirrored (callMed provMed : CallMedia) : Prop where
  slot : provMed.confSlot = callMed.confSlot
  dir : provMed.dir = callMed.dir
  stream : provMed.stream = callMed.stream
  tp : callMed.confSlot ≠ invalidId → provMed.tp = callMed.tp

structure ChannelSound (channel : MediaChannel) : Prop where
  line : ∀ mi, LineSound (channel.media mi)
  above : ∀ mi : Fin maxCallMedia, channel.medCnt ≤ mi → LineIdle (channel.media mi)
  mirrored : ∀ mi : Fin maxCallMedia, mi < channel.medProvCnt → Mirrored (channel.media mi) (channel.mediaProv mi)
  fresh : 0 < channel.medCnt ∨ 0 < channel.medProvCnt →
    ∀ mi : Fin maxCallMedia, channel.medCnt ≤ mi → LineIdle (channel.mediaProv mi)
  counted : channel.medProvCnt = 0 ∨ channel.medCnt ≤ channel.medProvCnt

theorem reset_sound : ChannelSound .reset where
  line := fun _ => ⟨.inl rfl, fun impossible => by cases impossible⟩
  above := fun _ _ => ⟨rfl, rfl, rfl⟩
  mirrored := by
    intro mi below
    cases below
  fresh := by
    intro used
    rcases used with used | used <;> cases used
  counted := .inl rfl

theorem cleanUp_sound {channel : MediaChannel} (sound : ChannelSound channel) :
    ChannelSound (mediaProvCleanUp channel) where
  line := sound.line
  above := sound.above
  mirrored := by
    intro mi below
    cases below
  fresh := by
    intro used mi above
    have before : LineIdle (channel.mediaProv mi) := by
      refine sound.fresh ?_ mi above
      rcases used with used | used
      · exact .inl used
      · cases used
    simp only [mediaProvCleanUp]
    split
    · exact ⟨before.slot, before.stream, before.dir⟩
    · exact before
  counted := .inl rfl

theorem provisional_mirrored {channel : MediaChannel} (sound : ChannelSound channel) (mi : Fin maxCallMedia) :
    Mirrored (channel.media mi) (provisional channel mi) := by
  unfold provisional
  split
  · exact ⟨rfl, rfl, rfl, fun _ => rfl⟩
  · rename_i used
    dsimp only
    split
    · exact ⟨rfl, rfl, rfl, fun _ => rfl⟩
    · rename_i above
      have media := sound.above mi (by omega)
      have prov := (cleanUp_sound sound).fresh (.inl (Nat.pos_of_ne_zero used)) mi (by
        show channel.medCnt ≤ mi.val
        omega)
      exact ⟨prov.slot.trans media.slot.symm, prov.dir.trans media.dir.symm, prov.stream.trans media.stream.symm,
        fun valid => absurd media.slot valid⟩

theorem callMediaInit_mirrored (setup : MediaSetup) {media mediaProv : Fin maxCallMedia → CallMedia}
    (lines : List (Fin maxCallMedia)) (sound : ∀ mi, LineSound (media mi))
    (mirrored : ∀ mi, Mirrored (media mi) (mediaProv mi)) :
    ∀ mi, Mirrored (media mi) ((callMediaInit setup lines mediaProv).1 mi) := by
  induction lines generalizing mediaProv with
  | nil => exact mirrored
  | cons line rest ih =>
    unfold callMediaInit
    split
    · rename_i missing
      split
      · exact mirrored
      · apply ih
        intro mi
        by_cases same : mi = line
        · subst same
          rw [Function.update_self]
          refine ⟨(mirrored mi).slot, (mirrored mi).dir, (mirrored mi).stream, ?_⟩
          intro valid
          have held := ((sound mi).seated valid).2.2
          rw [← (mirrored mi).tp valid] at held
          simp_all
        · rw [Function.update_of_ne same]
          exact mirrored mi
    · exact ih mirrored

theorem provisional_sound {channel : MediaChannel} {mediaProv : Fin maxCallMedia → CallMedia} {medProvCnt : Nat}
    {audioIdx : Option (Fin maxCallMedia)} (sound : ChannelSound channel)
    (mirrored : ∀ mi, Mirrored (channel.media mi) (mediaProv mi)) (counted : channel.medCnt ≤ medProvCnt) :
    ChannelSound { channel with mediaProv, medProvCnt, audioIdx } where
  line := sound.line
  above := sound.above
  mirrored := fun mi _ => mirrored mi
  fresh := by
    intro _ mi above
    have idle := sound.above mi above
    exact ⟨(mirrored mi).slot.trans idle.slot, (mirrored mi).stream.trans idle.stream,
      (mirrored mi).dir.trans idle.dir⟩
  counted := .inr counted

theorem mediaChannelInit_sound {channel : MediaChannel} (setup : MediaSetup) (sound : ChannelSound channel) :
    ChannelSound (mediaChannelInit channel setup).1 := by
  have copied := provisional_mirrored sound
  unfold mediaChannelInit
  split
  · exact provisional_sound sound copied le_rfl
  · dsimp only
    split
    · exact provisional_sound sound copied (le_max_left _ _)
    · have mirrored := callMediaInit_mirrored setup (linesBelow (max channel.medCnt (min setup.lineCount maxCallMedia)))
        sound.line copied
      have counted : channel.medCnt ≤ max channel.medCnt (min setup.lineCount maxCallMedia) := le_max_left _ _
      split
      · split
        · exact provisional_sound sound mirrored counted
        · exact cleanUp_sound (provisional_sound sound mirrored counted)
      · exact cleanUp_sound (provisional_sound sound mirrored counted)

theorem mediaChannelInit_media (channel : MediaChannel) (setup : MediaSetup) :
    (mediaChannelInit channel setup).1.media = channel.media := by
  unfold mediaChannelInit
  split
  · rfl
  · dsimp only
    split
    · rfl
    · split
      · split <;> rfl
      · rfl

end TiSIP.Audio
