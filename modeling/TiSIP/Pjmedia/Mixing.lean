import Mathlib.Algebra.BigOperators.Group.Finset.Basic
import Mathlib.Algebra.BigOperators.Fin
import Mathlib.Algebra.Order.BigOperators.Group.Finset
import Mathlib.Tactic.Linarith
import Mathlib.Tactic.Ring
import TiSIP.Pjmedia.Bridge

namespace TiSIP.Pjmedia.Bridge

open Pjsua

abbrev Frame (samples : Nat) := Fin samples → Int16

abbrev maxLevel : Int32 := 32767

abbrev minLevel : Int32 := -32768

def isOverflow (s : Int32) : Bool := s > maxLevel || s < minLevel

def clip (itemp : Int32) : Int16 :=
  if itemp > maxLevel then maxLevel.toInt16
  else if itemp < minLevel then minLevel.toInt16
  else itemp.toInt16

def lowered (mixAdj mix : Int32) : Int32 :=
  if isOverflow mix then
    let tmpAdj := (maxLevel <<< 7) / mix
    let tmpAdj := if tmpAdj < 0 then -tmpAdj else tmpAdj
    if tmpAdj < mixAdj then tmpAdj else mixAdj
  else mixAdj

def bias : Int := 0x84

def segEnd : List Nat := [0xFF, 0x1FF, 0x3FF, 0x7FF, 0xFFF, 0x1FFF, 0x3FFF, 0x7FFF]

/-- `pjmedia_linear2ulaw`; the table that is compiled by default agrees on levels from 0 to 32767. -/
def linear2ulaw (pcmVal : Int) : Nat :=
  let mask := if pcmVal < 0 then 0x7F else 0xFF
  let pcmVal := (if pcmVal < 0 then bias - pcmVal else pcmVal + bias).toNat
  let seg := segEnd.findIdx fun last => pcmVal ≤ last
  if seg ≥ 8 then 0x7F ^^^ mask else (seg <<< 4 ||| (pcmVal >>> (seg + 3) &&& 0xF)) ^^^ mask

/-- `SIMPLE_AGC`: `ATTACK_A` is unsigned and so is the arithmetic; `DECAY_A` is zero. -/
def simpleAgc (attack : UInt32) (last target : Int32) : Int32 :=
  if target ≥ last then ((attack * (last + 1).toUInt32 + 1 * target.toUInt32) / (attack + 1)).toInt32
  else (0 * last + 1 * target) / (0 + 1)

section Ports

variable {maxPorts samples : Nat}

def ConfPort.resetMix (port : ConfPort maxPorts samples) : ConfPort maxPorts samples :=
  { port with mixAdj := normalLevel, mixBuf := if port.transmitterCnt ≠ 0 then fun _ => 0 else port.mixBuf }

def ConfPort.adjustRx (port : ConfPort maxPorts samples) (frame : Frame samples) : Frame samples :=
  if port.rxAdjLevel ≠ normalLevel then fun j => clip (((frame j).toInt32 * port.rxAdjLevel) >>> 7) else frame

def ConfPort.mixIn (frame : Frame samples) (listener : ConfPort maxPorts samples) : ConfPort maxPorts samples :=
  if listener.txSetting ≠ .enable then listener
  else if listener.transmitterCnt > 1 then
    let mixBuf := fun k => listener.mixBuf k + (frame k).toInt32
    { listener with
      mixBuf
      mixAdj := (List.finRange samples).foldl (fun mixAdj k => lowered mixAdj (mixBuf k)) listener.mixAdj }
  else { listener with mixBuf := fun k => (frame k).toInt32 }

inductive Put (samples : Nat)
  | nothing
  | heartBeat
  | audio (frame : Frame samples)

def ConfPort.writePort (attack : UInt32) (port : ConfPort maxPorts samples) : ConfPort maxPorts samples × Put samples :=
  if port.txSetting = .mute ∨ port.transmitterCnt = 0 then (port, .heartBeat)
  else if port.txSetting ≠ .enable then (port, .nothing)
  else
    let mixAdj := simpleAgc attack port.lastMixAdj port.mixAdj
    let adjLevel := (port.txAdjLevel * mixAdj) >>> 7
    let frame : Frame samples :=
      if adjLevel ≠ normalLevel then fun j => clip ((port.mixBuf j * adjLevel) >>> 7)
      else fun j => (port.mixBuf j).toInt16
    -- The frame is built in `mix_buf` itself, which the next tick clears or no one reads.
    ({ port with mixAdj, lastMixAdj := mixAdj }, .audio frame)

end Ports

section Tick

variable {maxPorts samples : Nat}

def txLevel (frame : Frame samples) : Nat :=
  let txLevel : Int32 := (List.finRange samples).foldl
    (fun txLevel j => txLevel + if frame j ≥ 0 then (frame j).toInt32 else -(frame j).toInt32) 0
  let txLevel := (txLevel.toUInt32 / .ofNat samples).toInt32
  linear2ulaw txLevel.toInt ^^^ 0xff

/-- What goes to the port in a slot. The frame of port 0 returns to the sound device instead, as no
    frame where `tx_level` is zero. -/
def Put.handed (slot : Fin maxPorts) (put : Put samples) : Put samples :=
  if slot.val = 0 then
    match put with
    | .audio frame => if txLevel frame = 0 then .heartBeat else .audio frame
    | _ => .heartBeat
  else put

/-- What each port's delay buffer or `read_port` has for the bridge, when that is audio. -/
abbrev Received (maxPorts samples : Nat) := Fin maxPorts → Option (Frame samples)

def Conf.visited (conf : Conf maxPorts samples) : List (Fin maxPorts) :=
  ((List.finRange maxPorts).filter fun slot => conf.ports.Live slot).take conf.portCnt.toNat

def Conf.attack (conf : Conf maxPorts samples) : UInt32 := .ofNat (conf.clockRate / samples)

def Conf.offer (conf : Conf maxPorts samples) (received : Received maxPorts samples) (source : Fin maxPorts) :
    Option (Frame samples) :=
  (conf.ports source).bind fun port =>
    if port.rxSetting = .disable then none
    else if port.listenerSlots = [] then none
    else (received source).map port.adjustRx

def Conf.mixSource (received : Received maxPorts samples) (conf : Conf maxPorts samples) (source : Fin maxPorts) :
    Conf maxPorts samples :=
  match conf.offer received source with
  | none => conf
  | some frame => { conf with
      ports := (conf.listenersOf source).foldl (fun ports listener => ports.modify listener (ConfPort.mixIn frame))
        conf.ports }

def Conf.reset (conf : Conf maxPorts samples) : Conf maxPorts samples :=
  { conf with ports := conf.visited.foldl (fun ports slot => ports.modify slot ConfPort.resetMix) conf.ports }

def Conf.mixed (conf : Conf maxPorts samples) (received : Received maxPorts samples) : Conf maxPorts samples :=
  conf.visited.foldl (mixSource received) conf.reset

def Conf.put (conf : Conf maxPorts samples) (slot : Fin maxPorts) : Put samples :=
  match conf.ports slot with
  | none => .nothing
  | some port => if slot ∈ conf.visited then (port.writePort conf.attack).2.handed slot else .nothing

def Conf.getFrame (conf : Conf maxPorts samples) (received : Received maxPorts samples) :
    Conf maxPorts samples × (Fin maxPorts → Put samples) :=
  let mixed := conf.mixed received
  let written := mixed.visited.foldl
    (fun ports slot => ports.modify slot fun port => (port.writePort mixed.attack).1) mixed.ports
  ({ mixed with ports := written }, mixed.put)

/-- A tick: `get_frame` reads `tx_level` of port 0 at its end, and crashes once that port is removed. -/
def Conf.tick (conf : Conf maxPorts samples) (received : Received maxPorts samples) :
    Option (Conf maxPorts samples × (Fin maxPorts → Put samples)) :=
  (conf.livePort 0).map fun _ => conf.getFrame received

end Tick

section Levels

@[simp]
theorem toInt_shiftRight_seven (a : Int32) : (a >>> 7).toInt = a.toInt / 128 := by
  have seven : ((7 : Int32).toBitVec.smod 32).toNat = 7 := by decide
  rw [← Int32.toInt_toBitVec, Int32.toBitVec_shiftRight, BitVec.toInt_sshiftRight', Int32.toInt_toBitVec, seven,
    Int.shiftRight_eq_div_pow]
  rfl

theorem toInt_add_of_range {a b : Int32} (low : -2 ^ 31 ≤ a.toInt + b.toInt) (high : a.toInt + b.toInt < 2 ^ 31) :
    (a + b).toInt = a.toInt + b.toInt := by
  rw [Int32.toInt_add]
  exact Int.bmod_eq_of_le (by omega) (by omega)

theorem toInt_mul_of_range {a b : Int32} (low : -2 ^ 31 ≤ a.toInt * b.toInt) (high : a.toInt * b.toInt < 2 ^ 31) :
    (a * b).toInt = a.toInt * b.toInt := by
  rw [Int32.toInt_mul]
  exact Int.bmod_eq_of_le (by omega) (by omega)

theorem toInt_toInt16_of_range {a : Int32} (low : -32768 ≤ a.toInt) (high : a.toInt ≤ 32767) :
    a.toInt16.toInt = a.toInt := by
  rw [Int32.toInt_toInt16]
  exact Int.bmod_eq_of_le (by omega) (by omega)

theorem clip_of_range {a : Int32} (low : -32768 ≤ a.toInt) (high : a.toInt ≤ 32767) : (clip a).toInt = a.toInt := by
  have notAbove : ¬ a > maxLevel := by
    rw [gt_iff_lt, Int32.lt_iff_toInt_lt]
    have top : maxLevel.toInt = 32767 := by decide
    omega
  have notBelow : ¬ a < minLevel := by
    rw [Int32.lt_iff_toInt_lt]
    have bottom : minLevel.toInt = -32768 := by decide
    omega
  rw [clip, if_neg notAbove, if_neg notBelow]
  exact toInt_toInt16_of_range low high

theorem isOverflow_iff {s : Int32} : isOverflow s = true ↔ 32767 < s.toInt ∨ s.toInt < -32768 := by
  have top : maxLevel.toInt = 32767 := by decide
  have bottom : minLevel.toInt = -32768 := by decide
  rw [isOverflow, Bool.or_eq_true, decide_eq_true_eq, decide_eq_true_eq, gt_iff_lt, Int32.lt_iff_toInt_lt,
    Int32.lt_iff_toInt_lt, top, bottom]

def Fits (mix mixAdj : Int) : Prop := -32768 * 128 ≤ mix * mixAdj ∧ mix * mixAdj ≤ 32767 * 128

def Level (mixAdj : Int32) : Prop := 0 ≤ mixAdj.toInt ∧ mixAdj.toInt ≤ 128

theorem fits_of_le {mix mixAdj : Int} (nonneg : 0 ≤ mixAdj) (bounded : mix.natAbs * mixAdj ≤ 32767 * 128) :
    Fits mix mixAdj := by
  rcases Int.natAbs_eq mix with positive | negative
  · rw [← positive] at bounded
    have product : 0 ≤ mix * mixAdj := Int.mul_nonneg (by omega) nonneg
    constructor <;> omega
  · have same : mix * mixAdj = -(mix.natAbs * mixAdj) := by
      rw [← Int.neg_mul, ← negative]
    have product : 0 ≤ (mix.natAbs : Int) * mixAdj := Int.mul_nonneg (by omega) nonneg
    rw [Fits, same]
    constructor <;> omega

theorem overflow_quotient {mix : Int32} (overflow : isOverflow mix = true) (wide : mix.toInt ≠ -2 ^ 31) :
    ∃ tmpAdj : Int32, (∀ mixAdj, lowered mixAdj mix = if tmpAdj < mixAdj then tmpAdj else mixAdj) ∧
      tmpAdj.toInt = 32767 * 128 / (mix.toInt.natAbs : Int) := by
  have beyond := isOverflow_iff.mp overflow
  have top : ((maxLevel <<< 7 : Int32)).toInt = 32767 * 128 := by decide
  have notMinusOne : mix ≠ -1 := by
    rintro rfl
    rcases beyond with above | below
    · exact absurd above (by decide)
    · exact absurd below (by decide)
  have quotient : ((maxLevel <<< 7 : Int32) / mix).toInt = 32767 * 128 / mix.toInt := by
    rw [Int32.toInt_div_of_ne_right _ _ notMinusOne, top]
    exact Int.tdiv_eq_ediv_of_nonneg (by decide)
  have small : 32767 * 128 / (mix.toInt.natAbs : Int) ≤ 32767 * 128 :=
    Int.ediv_le_self _ (by decide)
  have nonneg : 0 ≤ 32767 * 128 / (mix.toInt.natAbs : Int) := Int.ediv_nonneg (by decide) (by omega)
  refine ⟨if (maxLevel <<< 7 : Int32) / mix < 0 then -((maxLevel <<< 7 : Int32) / mix) else (maxLevel <<< 7 : Int32) / mix,
    ?_, ?_⟩
  · intro mixAdj
    rw [lowered, if_pos overflow]
  · have zero : (0 : Int32).toInt = 0 := Int32.toInt_zero
    rcases Int.natAbs_eq mix.toInt with positive | negative
    · rw [← positive] at small nonneg ⊢
      have notNegative : ¬ (maxLevel <<< 7 : Int32) / mix < 0 := by
        rw [Int32.lt_iff_toInt_lt, quotient]
        omega
      rw [if_neg notNegative, quotient]
    · rw [negative, Int.ediv_neg] at quotient
      by_cases isNegative : (maxLevel <<< 7 : Int32) / mix < 0
      · rw [if_pos isNegative, Int32.toInt_neg, quotient, Int.neg_neg]
        exact Int.bmod_eq_of_le (by omega) (by omega)
      · rw [if_neg isNegative, quotient]
        rw [Int32.lt_iff_toInt_lt, quotient] at isNegative
        omega

structure Lowered (mixAdj mix after : Int32) : Prop where
  level : Level after
  fits : Fits mix.toInt after.toInt
  le : after.toInt ≤ mixAdj.toInt
  quiet : isOverflow mix = false → after = mixAdj

theorem lowered_spec {mixAdj mix : Int32} (level : Level mixAdj) (wide : mix.toInt ≠ -2 ^ 31) :
    Lowered mixAdj mix (lowered mixAdj mix) := by
  obtain ⟨nonneg, normal⟩ := level
  cases overflow : isOverflow mix with
  | false =>
    have inside : ¬ (32767 < mix.toInt ∨ mix.toInt < -32768) := by
      rw [← isOverflow_iff, overflow]
      exact Bool.false_ne_true
    have kept : lowered mixAdj mix = mixAdj := by
      rw [lowered, overflow]
      rfl
    rw [kept]
    have low : -32768 ≤ mix.toInt := by omega
    have high : mix.toInt ≤ 32767 := by omega
    refine ⟨⟨nonneg, normal⟩, ?_, Int.le_refl _, fun _ => rfl⟩
    constructor
    · nlinarith
    · nlinarith
  | true =>
    obtain ⟨tmpAdj, chosen, quotient⟩ := overflow_quotient overflow wide
    have beyond := isOverflow_iff.mp overflow
    have positive : 0 < (mix.toInt.natAbs : Int) := by omega
    have tmpNonneg : 0 ≤ tmpAdj.toInt := by
      rw [quotient]
      exact Int.ediv_nonneg (by decide) (by omega)
    have tmpFits : (mix.toInt.natAbs : Int) * tmpAdj.toInt ≤ 32767 * 128 := by
      rw [quotient]
      exact Int.mul_ediv_self_le (by omega)
    rw [chosen]
    by_cases less : tmpAdj < mixAdj
    · rw [if_pos less]
      rw [Int32.lt_iff_toInt_lt] at less
      refine ⟨⟨tmpNonneg, by omega⟩, fits_of_le tmpNonneg tmpFits, by omega, ?_⟩
      exact fun quiet => absurd (overflow.symm.trans quiet) (by decide)
    · rw [if_neg less]
      rw [Int32.lt_iff_toInt_lt] at less
      refine ⟨⟨nonneg, normal⟩, fits_of_le nonneg ?_, Int.le_refl _, fun _ => rfl⟩
      calc (mix.toInt.natAbs : Int) * mixAdj.toInt ≤ mix.toInt.natAbs * tmpAdj.toInt :=
            Int.mul_le_mul_of_nonneg_left (by omega) (by omega)
        _ ≤ 32767 * 128 := tmpFits

structure Smoothed (last target after : Int32) : Prop where
  level : Level after
  le : after.toInt ≤ target.toInt
  rises : after = target ∨ last.toInt < after.toInt

/-- A level read as the unsigned number that the macro computes with. -/
theorem toNat_toUInt32_of_level {a : Int32} (level : 0 ≤ a.toInt) : (a.toUInt32.toNat : Int) = a.toInt := by
  have nonneg : 0 ≤ a := by
    rw [Int32.le_iff_toInt_le]
    exact level
  rw [Int32.toNat_toUInt32_of_le nonneg, Int32.toInt_eq_toNatClampNeg nonneg]

theorem attack_quotient (attack : Nat) {last target : Nat} (up : last ≤ target) :
    (attack * (last + 1) + target) / (attack + 1) ≤ target ∧
      ((attack * (last + 1) + target) / (attack + 1) = target ∨ last < (attack * (last + 1) + target) / (attack + 1)) := by
  have positive : 0 < attack + 1 := Nat.succ_pos attack
  rcases Nat.eq_or_lt_of_le up with same | below
  · subst same
    have quotient : (attack * (last + 1) + last) / (attack + 1) = last := by
      have split : attack * (last + 1) + last = attack + (attack + 1) * last := by ring
      rw [split, Nat.add_mul_div_left _ _ positive, Nat.div_eq_of_lt (Nat.lt_succ_self attack), Nat.zero_add]
    exact ⟨Nat.le_of_eq quotient, .inl quotient⟩
  · constructor
    · have bound : attack * (last + 1) + target ≤ (attack + 1) * target := by nlinarith
      exact Nat.div_le_of_le_mul bound
    · right
      rw [Nat.lt_iff_add_one_le, Nat.le_div_iff_mul_le positive]
      nlinarith

theorem simpleAgc_spec {attack : UInt32} {last target : Int32} (slow : attack.toNat < 2 ^ 24) (lastLevel : Level last)
    (targetLevel : Level target) : Smoothed last target (simpleAgc attack last target) := by
  obtain ⟨lastNonneg, lastTop⟩ := lastLevel
  obtain ⟨targetNonneg, targetTop⟩ := targetLevel
  by_cases up : target ≥ last
  · have order : last.toInt ≤ target.toInt := Int32.le_iff_toInt_le.mp up
    have next : (last + 1).toInt = last.toInt + 1 := by
      apply toInt_add_of_range
      · rw [Int32.toInt_one]
        omega
      · rw [Int32.toInt_one]
        omega
    have nextNat : ((last + 1).toUInt32.toNat : Int) = last.toInt + 1 := by
      rw [toNat_toUInt32_of_level (by omega), next]
    have targetNat := toNat_toUInt32_of_level targetNonneg
    obtain ⟨lastNat, lastIs⟩ := Int.eq_ofNat_of_zero_le lastNonneg
    obtain ⟨targetNat', targetIs⟩ := Int.eq_ofNat_of_zero_le targetNonneg
    have nextEq : (last + 1).toUInt32.toNat = lastNat + 1 := by omega
    have targetEq : target.toUInt32.toNat = targetNat' := by omega
    have product : attack.toNat * (lastNat + 1) ≤ 2 ^ 24 * 129 :=
      Nat.mul_le_mul (by omega) (by omega)
    have exactSum : (attack * (last + 1).toUInt32 + 1 * target.toUInt32).toNat =
        attack.toNat * (lastNat + 1) + targetNat' := by
      rw [UInt32.toNat_add, UInt32.toNat_mul, UInt32.toNat_mul, nextEq, targetEq, UInt32.toNat_one, Nat.one_mul]
      omega
    have divisor : (attack + 1).toNat = attack.toNat + 1 := by
      rw [UInt32.toNat_add, UInt32.toNat_one]
      omega
    obtain ⟨quotientLe, quotientRises⟩ :=
      attack_quotient attack.toNat (show lastNat ≤ targetNat' by omega)
    have result : (simpleAgc attack last target).toInt =
        ((attack.toNat * (lastNat + 1) + targetNat') / (attack.toNat + 1) : Nat) := by
      rw [simpleAgc, if_pos up, ← Int32.toInt_toBitVec, UInt32.toBitVec_toInt32, BitVec.toInt_eq_toNat_of_lt]
      · rw [UInt32.toNat_toBitVec, UInt32.toNat_div, exactSum, divisor]
      · rw [UInt32.toNat_toBitVec, UInt32.toNat_div, exactSum, divisor]
        omega
    refine ⟨⟨by omega, by omega⟩, by omega, ?_⟩
    rcases quotientRises with same | rises
    · left
      apply Int32.toInt_inj.mp
      omega
    · right
      omega
  · have same : simpleAgc attack last target = target := by
      rw [simpleAgc, if_neg up]
      apply Int32.toInt_inj.mp
      have one : (0 + 1 : Int32) = 1 := by decide
      rw [one, Int32.div_one, Int32.zero_mul, Int32.one_mul, Int32.zero_add]
    rw [same]
    exact ⟨⟨targetNonneg, targetTop⟩, Int.le_refl _, .inl rfl⟩

end Levels

section Faint

variable {samples : Nat}

/-- The samples of the frame are below 4 on average. -/
def Faint (frame : Frame samples) : Prop := (∑ k, (frame k).toInt.natAbs) / samples < 4

instance (frame : Frame samples) : Decidable (Faint frame) := inferInstanceAs (Decidable (_ < _))

theorem linear2ulaw_softest (level : Nat) : linear2ulaw level ^^^ 0xff = 0 ↔ level < 4 := by
  have notNegative : ¬ (level : Int) < 0 := by omega
  have biased : ((level : Int) + bias).toNat = level + 132 := by
    rw [bias]
    omega
  unfold linear2ulaw
  simp only [if_neg notNegative, biased]
  by_cases low : level + 132 ≤ 0xFF
  · have seg : (segEnd.findIdx fun last => level + 132 ≤ last) = 0 := by
      rw [segEnd, List.findIdx_cons, decide_eq_true low]
      rfl
    rw [seg, if_neg (by decide), Nat.xor_assoc, Nat.xor_self, Nat.xor_zero]
    have every : ∀ soft : Fin 124, 0 <<< 4 ||| (soft.val + 132) >>> (0 + 3) &&& 0xF = 0 ↔ soft.val < 4 := by decide
    exact every ⟨level, by omega⟩
  · have seg : (segEnd.findIdx fun last => level + 132 ≤ last) ≠ 0 := by
      rw [segEnd, List.findIdx_cons, decide_eq_false low]
      exact Nat.succ_ne_zero _
    split
    · constructor
      · exact fun impossible => absurd impossible (by decide)
      · omega
    · rw [Nat.xor_assoc, Nat.xor_self, Nat.xor_zero, Nat.or_eq_zero_iff]
      have loud : (segEnd.findIdx fun last => level + 132 ≤ last) <<< 4 ≠ 0 := by
        rw [Nat.shiftLeft_eq]
        omega
      constructor
      · exact fun both => absurd both.1 loud
      · omega

theorem magnitude (sample : Int16) :
    (if sample ≥ 0 then sample.toInt32 else -sample.toInt32).toInt = sample.toInt.natAbs := by
  have wide : sample.toInt32.toInt = sample.toInt := Int16.toInt_toInt32 _
  have low := sample.le_toInt
  have high := sample.toInt_lt
  have zero : (0 : Int16).toInt = 0 := by decide
  split
  · rename_i positive
    rw [ge_iff_le, Int16.le_iff_toInt_le, zero] at positive
    omega
  · rename_i negative
    rw [ge_iff_le, Int16.le_iff_toInt_le, zero] at negative
    rw [Int32.toInt_neg, wide, Int.bmod_eq_of_le (by omega) (by omega)]
    omega

theorem magnitudes_sum (frame : Frame samples) (ks : List (Fin samples)) (level : Int32) (seen : Nat)
    (nonneg : 0 ≤ level.toInt) (bounded : level.toInt ≤ 32768 * seen) (brief : seen + ks.length < 2 ^ 16) :
    (ks.foldl (fun level k => level + if frame k ≥ 0 then (frame k).toInt32 else -(frame k).toInt32) level).toInt =
      level.toInt + (ks.map fun k => (frame k).toInt.natAbs).sum := by
  induction ks generalizing level seen with
  | nil => simp
  | cons first rest ih =>
    rw [List.length_cons] at brief
    have low := (frame first).le_toInt
    have high := (frame first).toInt_lt
    have added : (level + if frame first ≥ 0 then (frame first).toInt32 else -(frame first).toInt32).toInt =
        level.toInt + (frame first).toInt.natAbs := by
      rw [toInt_add_of_range, magnitude]
      · rw [magnitude]
        omega
      · rw [magnitude]
        omega
    rw [List.foldl_cons, ih _ (seen + 1), added, List.map_cons, List.sum_cons]
    · push_cast
      omega
    · omega
    · push_cast
      omega
    · omega

theorem txLevel_eq_zero (frame : Frame samples) (brief : samples < 2 ^ 16) : txLevel frame = 0 ↔ Faint frame := by
  have zero : (0 : Int32).toInt = 0 := Int32.toInt_zero
  have counted : 0 + (List.finRange samples).length < 2 ^ 16 := by
    rw [List.length_finRange]
    omega
  have sum := magnitudes_sum frame (List.finRange samples) 0 0 (by omega) (by omega) counted
  rw [zero, Int.zero_add, ← Fin.sum_univ_def] at sum
  have most : ∑ k, (frame k).toInt.natAbs ≤ samples * 32768 := by
    have each : ∀ k ∈ Finset.univ, (frame k).toInt.natAbs ≤ 32768 := by
      intro k _
      have low := (frame k).le_toInt
      have high := (frame k).toInt_lt
      omega
    have total := Finset.sum_le_card_nsmul Finset.univ _ 32768 each
    rwa [Finset.card_univ, Fintype.card_fin, smul_eq_mul] at total
  unfold txLevel Faint
  dsimp only
  generalize (List.finRange samples).foldl
    (fun level k => level + if frame k ≥ 0 then (frame k).toInt32 else -(frame k).toInt32) 0 = level at sum ⊢
  generalize ∑ k, (frame k).toInt.natAbs = loud at sum most ⊢
  have summed : level.toUInt32.toNat = loud := by
    have same := toNat_toUInt32_of_level (a := level) (by omega)
    omega
  have divisor : (UInt32.ofNat samples).toNat = samples := UInt32.toNat_ofNat_of_lt' (brief.trans (by decide))
  have small : loud / samples < 2 ^ 31 := by
    have quotient : loud / samples ≤ loud := Nat.div_le_self _ _
    omega
  have average : (level.toUInt32 / .ofNat samples).toInt32.toInt = ((loud / samples : Nat) : Int) := by
    rw [← Int32.toInt_toBitVec, UInt32.toBitVec_toInt32, BitVec.toInt_eq_toNat_of_lt]
    · rw [UInt32.toNat_toBitVec, UInt32.toNat_div, summed, divisor]
    · rw [UInt32.toNat_toBitVec, UInt32.toNat_div, summed, divisor]
      omega
  rw [average]
  exact linear2ulaw_softest _

end Faint

section Settings

variable {maxPorts samples : Nat}

/-- A port without what a tick leaves in it. -/
def ConfPort.settings (port : ConfPort maxPorts samples) : ConfPort maxPorts samples :=
  { port with mixAdj := 0, lastMixAdj := normalLevel, mixBuf := fun _ => 0 }

def ConfPort.mixing (port : ConfPort maxPorts samples) : Int32 × Int32 × (Fin samples → Int32) :=
  (port.mixAdj, port.lastMixAdj, port.mixBuf)

def Conf.settings (conf : Conf maxPorts samples) : Conf maxPorts samples :=
  { conf with ports := conf.ports.map ConfPort.settings }

variable {conf : Conf maxPorts samples}

theorem port_ext {first second : ConfPort maxPorts samples} (settings : first.settings = second.settings)
    (mixing : first.mixing = second.mixing) : first = second := by
  have rebuilt : ∀ port : ConfPort maxPorts samples, port =
      { port.settings with mixAdj := port.mixing.1, lastMixAdj := port.mixing.2.1, mixBuf := port.mixing.2.2 } :=
    fun _ => rfl
  rw [rebuilt first, rebuilt second, settings, mixing]

theorem live_settings (slot : Fin maxPorts) : conf.settings.ports.Live slot ↔ conf.ports.Live slot := by
  simp [SlotTable.Live, Conf.settings, SlotTable.map_apply]

theorem visited_settings : conf.settings.visited = conf.visited := by
  unfold Conf.visited
  congr 1
  apply List.filter_congr
  intro slot _
  exact decide_eq_decide.mpr (live_settings slot)

theorem listenersOf_settings (slot : Fin maxPorts) : conf.settings.listenersOf slot = conf.listenersOf slot := by
  unfold Conf.listenersOf Conf.settings
  dsimp only
  rw [SlotTable.map_apply]
  cases conf.ports slot <;> rfl

theorem offer_settings (received : Received maxPorts samples) (source : Fin maxPorts) :
    conf.settings.offer received source = conf.offer received source := by
  unfold Conf.offer Conf.settings
  dsimp only
  rw [SlotTable.map_apply]
  cases conf.ports source <;> rfl

theorem settings_mixIn (frame : Frame samples) (port : ConfPort maxPorts samples) :
    (port.mixIn frame).settings = port.settings := by
  unfold ConfPort.mixIn
  split
  · rfl
  · split <;> rfl

theorem mixFrames_settings (frames : List (Frame samples)) (port : ConfPort maxPorts samples) :
    (frames.foldl (fun port frame => port.mixIn frame) port).settings = port.settings := by
  induction frames generalizing port with
  | nil => rfl
  | cons frame rest ih => exact (ih _).trans (settings_mixIn frame port)

theorem settings_writePort (attack : UInt32) (port : ConfPort maxPorts samples) :
    (port.writePort attack).1.settings = port.settings := by
  unfold ConfPort.writePort
  split
  · rfl
  · split <;> rfl

theorem settings_eq {first second : Conf maxPorts samples} (same : first.settings = second.settings) :
    first.visited = second.visited ∧ (∀ slot, first.listenersOf slot = second.listenersOf slot) ∧
      ∀ received source, first.offer received source = second.offer received source := by
  refine ⟨?_, ?_, ?_⟩
  · rw [← visited_settings, same, visited_settings]
  · intro slot
    rw [← listenersOf_settings, same, listenersOf_settings]
  · intro received source
    rw [← offer_settings, same, offer_settings]

theorem settings_ports {ports : SlotTable maxPorts (ConfPort maxPorts samples)}
    (same : ∀ slot, (ports slot).map ConfPort.settings = (conf.ports slot).map ConfPort.settings) :
    ({ conf with ports } : Conf maxPorts samples).settings = conf.settings := by
  unfold Conf.settings
  congr 1
  funext slot
  exact same slot

end Settings

section Sinks

variable {maxPorts samples : Nat} {conf : Conf maxPorts samples} {received : Received maxPorts samples}

def Conf.contribution (conf : Conf maxPorts samples) (received : Received maxPorts samples) (sink source : Fin maxPorts) :
    Option (Frame samples) :=
  if sink ∈ conf.listenersOf source then conf.offer received source else none

theorem mixSource_port (distinct : ∀ slot, (conf.listenersOf slot).Nodup) (source sink : Fin maxPorts) :
    (conf.mixSource received source).ports sink = (conf.ports sink).map fun port =>
      (conf.contribution received sink source).elim port fun frame => port.mixIn frame := by
  unfold Conf.mixSource Conf.contribution
  cases offered : conf.offer received source with
  | none => simp
  | some frame =>
    dsimp only
    rw [SlotTable.foldl_modify _ (distinct source)]
    split
    · simp
    · simp

theorem mixSource_settings (received : Received maxPorts samples) (distinct : ∀ slot, (conf.listenersOf slot).Nodup) (source : Fin maxPorts) :
    (conf.mixSource received source).settings = conf.settings := by
  have ports : ∀ slot, ((conf.mixSource received source).ports slot).map ConfPort.settings =
      (conf.ports slot).map ConfPort.settings := by
    intro slot
    rw [mixSource_port distinct, Option.map_map]
    congr 1
    funext port
    cases conf.contribution received slot source with
    | none => rfl
    | some frame => exact settings_mixIn frame port
  unfold Conf.mixSource at ports ⊢
  split
  · rfl
  · rename_i offered
    rw [offered] at ports
    exact settings_ports ports

theorem settings_contribution {first second : Conf maxPorts samples} (same : first.settings = second.settings)
    (sink : Fin maxPorts) : first.contribution received sink = second.contribution received sink := by
  obtain ⟨_, listeners, offers⟩ := settings_eq same
  funext source
  rw [Conf.contribution, Conf.contribution, listeners, offers]

/-- The loops over sources and listeners, seen from one sink: it gets the frames of its own
    sources, in slot order. -/
theorem mixSources_port (distinct : ∀ slot, (conf.listenersOf slot).Nodup) (sources : List (Fin maxPorts))
    (sink : Fin maxPorts) :
    (sources.foldl (Conf.mixSource received) conf).ports sink = (conf.ports sink).map fun port =>
      (sources.filterMap (conf.contribution received sink)).foldl (fun port frame => port.mixIn frame) port := by
  induction sources generalizing conf with
  | nil => simp
  | cons source rest ih =>
    have kept := mixSource_settings received distinct source
    obtain ⟨_, listeners, _⟩ := settings_eq kept
    rw [List.foldl_cons, ih fun slot => (listeners slot).symm ▸ distinct slot, settings_contribution kept,
      mixSource_port distinct, Option.map_map]
    congr 1
    funext port
    cases contributed : conf.contribution received sink source with
    | none => simp [contributed]
    | some frame => simp [contributed]

theorem mixSources_settings (distinct : ∀ slot, (conf.listenersOf slot).Nodup) (sources : List (Fin maxPorts)) :
    (sources.foldl (Conf.mixSource received) conf).settings = conf.settings := by
  induction sources generalizing conf with
  | nil => rfl
  | cons source rest ih =>
    have kept := mixSource_settings received distinct source
    obtain ⟨_, listeners, _⟩ := settings_eq kept
    rw [List.foldl_cons, ih fun slot => (listeners slot).symm ▸ distinct slot, kept]

def Conf.frames (conf : Conf maxPorts samples) (received : Received maxPorts samples) (sink : Fin maxPorts) :
    List (Frame samples) :=
  conf.visited.filterMap (conf.contribution received sink)

theorem visited_nodup (conf : Conf maxPorts samples) : conf.visited.Nodup :=
  ((List.nodup_finRange maxPorts).filter _).sublist (List.take_sublist _ _)

theorem Carries.visited {topology : Conference maxPorts} (carries : Carries conf topology) :
    conf.visited = (List.finRange maxPorts).filter fun slot => conf.ports.Live slot := by
  have nodup : ((List.finRange maxPorts).filter fun slot => conf.ports.Live slot).Nodup :=
    (List.nodup_finRange maxPorts).filter _
  have plugged : topology.board.plugged =
      ((List.finRange maxPorts).filter fun slot => conf.ports.Live slot).toFinset := by
    ext slot
    simp only [List.coe_toFinset, List.mem_filter, List.mem_finRange, true_and, decide_eq_true_eq]
    exact (carries.live slot).symm
  have counted := carries.filled
  rw [plugged, Set.ncard_coe_finset, List.toFinset_card_of_nodup nodup] at counted
  unfold Conf.visited
  apply List.take_of_length_le
  omega

theorem Carries.mem_visited {topology : Conference maxPorts} (carries : Carries conf topology) (slot : Fin maxPorts) :
    slot ∈ conf.visited ↔ conf.ports.Live slot := by
  rw [carries.visited, List.mem_filter, decide_eq_true_eq]
  exact and_iff_right (List.mem_finRange slot)

theorem Carries.reset_port {topology : Conference maxPorts} (carries : Carries conf topology) (slot : Fin maxPorts) :
    conf.reset.ports slot = (conf.ports slot).map ConfPort.resetMix := by
  apply (SlotTable.foldl_modify ConfPort.resetMix (visited_nodup conf) conf.ports slot).trans
  split
  · rfl
  · rename_i unvisited
    rw [carries.mem_visited, SlotTable.Live, Option.not_isSome_iff_eq_none] at unvisited
    rw [unvisited]
    rfl

theorem Carries.reset_settings {topology : Conference maxPorts} (carries : Carries conf topology) :
    conf.reset.settings = conf.settings := by
  apply settings_ports
  intro slot
  apply (congrArg (Option.map ConfPort.settings) (carries.reset_port slot)).trans
  exact Option.map_map ..

theorem Carries.reset_distinct {topology : Conference maxPorts} (carries : Carries conf topology) (slot : Fin maxPorts) :
    (conf.reset.listenersOf slot).Nodup := by
  rw [(settings_eq carries.reset_settings).2.1]
  exact carries.distinct slot

theorem Carries.mixed_port {topology : Conference maxPorts} (carries : Carries conf topology) (sink : Fin maxPorts) :
    (conf.mixed received).ports sink = (conf.ports sink).map fun port =>
      (conf.frames received sink).foldl (fun port frame => port.mixIn frame) port.resetMix := by
  unfold Conf.mixed
  rw [mixSources_port carries.reset_distinct, settings_contribution carries.reset_settings, carries.reset_port,
    Option.map_map]
  rfl

theorem Carries.mixed_settings {topology : Conference maxPorts} (carries : Carries conf topology)
    (received : Received maxPorts samples) :
    (conf.mixed received).settings = conf.settings := by
  unfold Conf.mixed
  rw [mixSources_settings carries.reset_distinct, carries.reset_settings]

def ConfPort.ticked (attack : UInt32) (frames : List (Frame samples)) (port : ConfPort maxPorts samples) :
    ConfPort maxPorts samples × Put samples :=
  (frames.foldl (fun port frame => port.mixIn frame) port.resetMix).writePort attack

theorem Carries.getFrame_port {topology : Conference maxPorts} (carries : Carries conf topology)
    (received : Received maxPorts samples) (sink : Fin maxPorts) :
    (conf.getFrame received).1.ports sink =
        (conf.ports sink).map (fun port => (port.ticked conf.attack (conf.frames received sink)).1) ∧
      (conf.getFrame received).2 sink =
        (conf.ports sink).elim .nothing fun port =>
          (port.ticked conf.attack (conf.frames received sink)).2.handed sink := by
  have settings := carries.mixed_settings received
  have visited := (settings_eq settings).1
  have attack : (conf.mixed received).attack = conf.attack := by
    have rate : (conf.mixed received).settings.clockRate = conf.settings.clockRate := congrArg Conf.clockRate settings
    exact congrArg (fun rate => UInt32.ofNat (rate / samples)) rate
  unfold Conf.getFrame Conf.put
  dsimp only
  rw [visited, attack, SlotTable.foldl_modify _ (visited_nodup conf), carries.mixed_port]
  cases held : conf.ports sink with
  | none => simp
  | some port =>
    have here : sink ∈ conf.visited := (carries.mem_visited sink).mpr (by simp [SlotTable.Live, held])
    simp [here, ConfPort.ticked]

theorem settings_ticked (attack : UInt32) (frames : List (Frame samples)) (port : ConfPort maxPorts samples) :
    (port.ticked attack frames).1.settings = port.settings := by
  rw [ConfPort.ticked, settings_writePort, mixFrames_settings]
  rfl

theorem Carries.getFrame_settings {topology : Conference maxPorts} (carries : Carries conf topology)
    (received : Received maxPorts samples) :
    (conf.getFrame received).1.settings = conf.settings := by
  rw [← carries.mixed_settings received]
  apply settings_ports
  intro slot
  rw [SlotTable.foldl_modify _ (visited_nodup _)]
  split
  · rw [Option.map_map]
    congr 1
    funext port
    exact settings_writePort _ port
  · rfl

end Sinks

section Sums

variable {maxPorts samples : Nat}

theorem Fits.mono {mix mixAdj lower : Int} (fits : Fits mix mixAdj) (nonneg : 0 ≤ lower) (le : lower ≤ mixAdj) :
    Fits mix lower := by
  obtain ⟨low, high⟩ := fits
  rcases Int.le_total 0 mix with positive | negative
  · have product : mix * lower ≤ mix * mixAdj := Int.mul_le_mul_of_nonneg_left le positive
    have above : 0 ≤ mix * lower := Int.mul_nonneg positive nonneg
    constructor <;> omega
  · have product : mix * mixAdj ≤ mix * lower := Int.mul_le_mul_of_nonpos_left negative le
    have below : mix * lower ≤ 0 := Int.mul_nonpos_of_nonpos_of_nonneg negative nonneg
    constructor <;> omega

theorem lowered_loop (mixBuf : Fin samples → Int32) (wide : ∀ k, (mixBuf k).toInt ≠ -2 ^ 31) (ks : List (Fin samples))
    {mixAdj : Int32} (level : Level mixAdj) :
    Level (ks.foldl (fun mixAdj k => lowered mixAdj (mixBuf k)) mixAdj) ∧
      (ks.foldl (fun mixAdj k => lowered mixAdj (mixBuf k)) mixAdj).toInt ≤ mixAdj.toInt ∧
      (∀ k ∈ ks, Fits (mixBuf k).toInt (ks.foldl (fun mixAdj k => lowered mixAdj (mixBuf k)) mixAdj).toInt) ∧
      ((∀ k ∈ ks, isOverflow (mixBuf k) = false) →
        ks.foldl (fun mixAdj k => lowered mixAdj (mixBuf k)) mixAdj = mixAdj) := by
  induction ks generalizing mixAdj with
  | nil => exact ⟨level, Int.le_refl _, fun _ member => absurd member List.not_mem_nil, fun _ => rfl⟩
  | cons first rest ih =>
    have step := lowered_spec level (wide first)
    obtain ⟨after, le, fits, quiet⟩ := ih step.level
    rw [List.foldl_cons]
    refine ⟨after, le.trans step.le, ?_, ?_⟩
    · intro k member
      rcases List.mem_cons.mp member with rfl | later
      · exact step.fits.mono after.1 le
      · exact fits k later
    · intro silent
      rw [quiet fun k later => silent k (List.mem_cons_of_mem _ later)]
      exact step.quiet (silent first List.mem_cons_self)

structure Holds (port : ConfPort maxPorts samples) (sums : Fin samples → Int) : Prop where
  sum : ∀ k, (port.mixBuf k).toInt = sums k
  level : Level port.mixAdj
  fits : ∀ k, Fits (sums k) port.mixAdj.toInt

theorem sample_bounds (sample : Int16) : -32768 ≤ sample.toInt ∧ sample.toInt ≤ 32767 := by
  have low := sample.le_toInt
  have high := sample.toInt_lt
  constructor <;> omega

theorem mixIn_many {port : ConfPort maxPorts samples} {sums : Fin samples → Int} (enabled : port.txSetting = .enable)
    (many : port.transmitterCnt > 1) (holds : Holds port sums) (frame : Frame samples)
    (low : ∀ k, -2 ^ 31 < sums k + (frame k).toInt) (high : ∀ k, sums k + (frame k).toInt < 2 ^ 31) :
    Holds (port.mixIn frame) (fun k => sums k + (frame k).toInt) ∧
      ((∀ k, -32768 ≤ sums k + (frame k).toInt ∧ sums k + (frame k).toInt ≤ 32767) →
        (port.mixIn frame).mixAdj = port.mixAdj) := by
  have added : ∀ k, (port.mixBuf k + (frame k).toInt32).toInt = sums k + (frame k).toInt := by
    intro k
    have wide : ((frame k).toInt32).toInt = (frame k).toInt := Int16.toInt_toInt32 _
    rw [toInt_add_of_range, holds.sum, wide]
    · rw [holds.sum, wide]
      exact Int.le_of_lt (low k)
    · rw [holds.sum, wide]
      exact high k
  have wide : ∀ k, (port.mixBuf k + (frame k).toInt32).toInt ≠ -2 ^ 31 := by
    intro k
    rw [added]
    have above := low k
    omega
  obtain ⟨level, _, fits, quiet⟩ := lowered_loop _ wide (List.finRange samples) holds.level
  have enabled' : ¬ port.txSetting ≠ .enable := not_not.mpr enabled
  rw [ConfPort.mixIn, if_neg enabled', if_pos many]
  refine ⟨⟨added, level, ?_⟩, ?_⟩
  · intro k
    rw [← added]
    exact fits k (List.mem_finRange k)
  · intro inside
    apply quiet
    intro k _
    rw [← Bool.not_eq_true, isOverflow_iff, added]
    have bounds := inside k
    omega

def total (frames : List (Frame samples)) (k : Fin samples) : Int :=
  (frames.map fun frame => (frame k).toInt).sum

def loudness (frames : List (Frame samples)) (k : Fin samples) : Int :=
  (frames.map fun frame => ((frame k).toInt.natAbs : Int)).sum

theorem total_within_loudness (frames : List (Frame samples)) (k : Fin samples) :
    -loudness frames k ≤ total frames k ∧ total frames k ≤ loudness frames k := by
  induction frames with
  | nil => exact ⟨Int.le_refl _, Int.le_refl _⟩
  | cons frame rest ih =>
    have sum : total (frame :: rest) k = (frame k).toInt + total rest k := List.sum_cons
    have loud : loudness (frame :: rest) k = (frame k).toInt.natAbs + loudness rest k := List.sum_cons
    rw [sum, loud]
    omega

theorem mixFrames_many {port : ConfPort maxPorts samples} {sums : Fin samples → Int} (enabled : port.txSetting = .enable)
    (many : port.transmitterCnt > 1) (holds : Holds port sums) (frames : List (Frame samples)) (heard : Nat)
    (bounded : ∀ k, -32768 * (heard : Int) ≤ sums k ∧ sums k ≤ 32768 * (heard : Int))
    (few : heard + frames.length < 2 ^ 16) :
    Holds (frames.foldl (fun port frame => port.mixIn frame) port) (fun k => sums k + total frames k) ∧
      ((∀ k, (sums k).natAbs + loudness frames k ≤ 32767) →
        (frames.foldl (fun port frame => port.mixIn frame) port).mixAdj = port.mixAdj) := by
  induction frames generalizing port sums heard with
  | nil => exact ⟨by simpa [total] using holds, fun _ => rfl⟩
  | cons frame rest ih =>
    rw [List.length_cons] at few
    have sample := fun k => sample_bounds (frame k)
    have low : ∀ k, -2 ^ 31 < sums k + (frame k).toInt := by
      intro k
      have sumBounds := bounded k
      have frameBounds := sample k
      omega
    have high : ∀ k, sums k + (frame k).toInt < 2 ^ 31 := by
      intro k
      have sumBounds := bounded k
      have frameBounds := sample k
      omega
    obtain ⟨added, quiet⟩ := mixIn_many enabled many holds frame low high
    have kept := settings_mixIn frame port
    have enabled' : (port.mixIn frame).txSetting = .enable := (congrArg ConfPort.txSetting kept).trans enabled
    have many' : (port.mixIn frame).transmitterCnt > 1 := (congrArg ConfPort.transmitterCnt kept) ▸ many
    have bounded' : ∀ k, -32768 * ((heard + 1 : Nat) : Int) ≤ sums k + (frame k).toInt ∧
        sums k + (frame k).toInt ≤ 32768 * ((heard + 1 : Nat) : Int) := by
      intro k
      have sumBounds := bounded k
      have frameBounds := sample k
      push_cast
      omega
    obtain ⟨holdsRest, quietRest⟩ := ih enabled' many' added (heard + 1) bounded' (by omega)
    rw [List.foldl_cons]
    constructor
    · have sumsEq : (fun k => sums k + total (frame :: rest) k) = fun k => sums k + (frame k).toInt + total rest k := by
        funext k
        have unfolded : total (frame :: rest) k = (frame k).toInt + total rest k := List.sum_cons
        rw [unfolded, Int.add_assoc]
      rw [sumsEq]
      exact holdsRest
    · intro soft
      have loud : ∀ k, loudness (frame :: rest) k = (frame k).toInt.natAbs + loudness rest k :=
        fun k => List.sum_cons
      have positive : ∀ k, 0 ≤ loudness rest k := by
        intro k
        have within := total_within_loudness rest k
        omega
      rw [quietRest, quiet]
      · intro k
        have softHere := soft k
        have loudHere := loud k
        have restHere := positive k
        omega
      · intro k
        have softHere := soft k
        have loudHere := loud k
        omega

structure MixedIn (port after : ConfPort maxPorts samples) (frames : List (Frame samples)) : Prop where
  holds : Holds after (total frames)
  quiet : (∀ k, loudness frames k ≤ 32767) → after.mixAdj = normalLevel
  alone : port.transmitterCnt = 1 → after.mixAdj = normalLevel
  last : after.lastMixAdj = port.lastMixAdj
  settings : after.settings = port.settings

theorem mixIn_last (frame : Frame samples) (port : ConfPort maxPorts samples) :
    (port.mixIn frame).lastMixAdj = port.lastMixAdj := by
  unfold ConfPort.mixIn
  split
  · rfl
  · split <;> rfl

theorem mixFrames_last (frames : List (Frame samples)) (port : ConfPort maxPorts samples) :
    (frames.foldl (fun port frame => port.mixIn frame) port).lastMixAdj = port.lastMixAdj := by
  induction frames generalizing port with
  | nil => rfl
  | cons frame rest ih => exact (ih _).trans (mixIn_last frame port)

theorem fits_zero (mixAdj : Int) : Fits 0 mixAdj := by
  rw [Fits, Int.zero_mul]
  decide

theorem level_normal : Level normalLevel := by
  constructor <;> decide

theorem mixFrames_spec {port : ConfPort maxPorts samples} {frames : List (Frame samples)}
    (enabled : port.txSetting = .enable) (transmitting : port.transmitterCnt ≠ 0)
    (counted : (frames.length : Int) ≤ port.transmitterCnt) (few : port.transmitterCnt < 2 ^ 16) :
    MixedIn port (frames.foldl (fun port frame => port.mixIn frame) port.resetMix) frames := by
  have reset : port.resetMix.mixBuf = fun _ => 0 := if_pos transmitting
  have settings := mixFrames_settings frames port.resetMix
  have last := mixFrames_last frames port.resetMix
  by_cases many : port.transmitterCnt > 1
  · have start : Holds port.resetMix fun _ => 0 := by
      refine ⟨?_, level_normal, fun _ => fits_zero _⟩
      intro k
      rw [reset]
      exact Int32.toInt_zero
    have enabledReset : port.resetMix.txSetting = .enable := enabled
    have manyReset : port.resetMix.transmitterCnt > 1 := many
    obtain ⟨holds, quiet⟩ :=
      mixFrames_many enabledReset manyReset start frames 0 (fun _ => ⟨by decide, by decide⟩) (by omega)
    refine ⟨?_, ?_, fun one => ?_, last, settings⟩
    · simpa using holds
    · intro soft
      exact quiet fun k => by simpa using soft k
    · omega
  · have one : port.transmitterCnt = 1 := by omega
    have notMany : ¬ port.resetMix.transmitterCnt > 1 := many
    have notDisabled : ¬ port.resetMix.txSetting ≠ .enable := not_not.mpr enabled
    match frames, counted with
    | [], _ =>
      refine ⟨⟨?_, level_normal, fun _ => fits_zero _⟩, fun _ => rfl, fun _ => rfl, last, settings⟩
      intro k
      have zero : port.resetMix.mixBuf k = 0 := congrFun reset k
      rw [List.foldl_nil, zero]
      exact Int32.toInt_zero
    | [frame], _ =>
      have copied : port.resetMix.mixIn frame = { port.resetMix with mixBuf := fun k => (frame k).toInt32 } := by
        rw [ConfPort.mixIn, if_neg notDisabled, if_neg notMany]
      have single : ∀ k, total [frame] k = (frame k).toInt := fun k => Int.add_zero _
      rw [List.foldl_cons, List.foldl_nil] at last settings ⊢
      refine ⟨⟨?_, ?_, ?_⟩, fun _ => ?_, fun _ => ?_, last, settings⟩
      · intro k
        rw [copied, single]
        exact Int16.toInt_toInt32 _
      · rw [copied]
        exact level_normal
      · intro k
        have bounds := sample_bounds (frame k)
        have level : (port.resetMix.mixIn frame).mixAdj.toInt = 128 := by
          rw [copied]
          rfl
        rw [single, level, Fits]
        omega
      · rw [copied]
        rfl
      · rw [copied]
        rfl
    | _ :: _ :: _, more =>
      rw [List.length_cons, List.length_cons] at more
      push_cast at more
      omega

end Sums

section Hearing

variable {maxPorts samples : Nat}

/-- What a port that plays at its normal level gets of the frames of its sources: their sum, scaled
    for the whole frame, with nothing clipped. -/
structure Heard (port after : ConfPort maxPorts samples) (frames : List (Frame samples)) (put : Put samples) : Prop where
  level : Level after.lastMixAdj
  audio : ∃ frame, put = .audio frame ∧ ∀ k, (frame k).toInt = total frames k * after.lastMixAdj.toInt / 128
  recovers : (∀ k, loudness frames k ≤ 32767) ∨ port.transmitterCnt = 1 →
    after.lastMixAdj = normalLevel ∨ port.lastMixAdj.toInt < after.lastMixAdj.toInt

theorem written_sample {mix mixAdj : Int32} {sum : Int} (holds : mix.toInt = sum) (fits : Fits sum mixAdj.toInt) :
    (if mixAdj ≠ normalLevel then clip ((mix * mixAdj) >>> 7) else mix.toInt16).toInt = sum * mixAdj.toInt / 128 := by
  obtain ⟨low, high⟩ := fits
  split
  · have product : (mix * mixAdj).toInt = sum * mixAdj.toInt := by
      rw [toInt_mul_of_range, holds]
      · rw [holds]
        omega
      · rw [holds]
        omega
    have shifted : ((mix * mixAdj) >>> 7).toInt = sum * mixAdj.toInt / 128 := by
      rw [toInt_shiftRight_seven, product]
    rw [clip_of_range, shifted]
    · rw [shifted]
      omega
    · rw [shifted]
      omega
  · rename_i same
    have normal : mixAdj.toInt = 128 := by
      rw [not_not.mp same]
      decide
    rw [normal] at low high ⊢
    rw [toInt_toInt16_of_range, holds]
    · omega
    · omega
    · omega

theorem adjustRx_normal {maxPorts samples : Nat} {port : ConfPort maxPorts samples} (normal : port.rxAdjLevel = normalLevel) :
    port.adjustRx = id := by
  funext frame
  exact if_neg (not_not.mpr normal)

theorem adjLevel_normal {mixAdj : Int32} (level : Level mixAdj) : (normalLevel * mixAdj) >>> 7 = mixAdj := by
  obtain ⟨nonneg, top⟩ := level
  have normal : normalLevel.toInt = 128 := by decide
  apply Int32.toInt_inj.mp
  rw [toInt_shiftRight_seven, toInt_mul_of_range, normal]
  · omega
  · rw [normal]
    omega
  · rw [normal]
    omega

theorem ticked_heard {attack : UInt32} (slow : attack.toNat < 2 ^ 24) {port : ConfPort maxPorts samples}
    {frames : List (Frame samples)} (enabled : port.txSetting = .enable) (normal : port.txAdjLevel = normalLevel)
    (last : Level port.lastMixAdj) (transmitting : port.transmitterCnt ≠ 0)
    (counted : (frames.length : Int) ≤ port.transmitterCnt) (few : port.transmitterCnt < 2 ^ 16) :
    Heard port (port.ticked attack frames).1 frames (port.ticked attack frames).2 := by
  have mixed := mixFrames_spec enabled transmitting counted few
  have lastMixed : Level (frames.foldl (fun port frame => port.mixIn frame) port.resetMix).lastMixAdj := by
    rw [mixed.last]
    exact last
  have smoothed := simpleAgc_spec slow lastMixed mixed.holds.level
  have settings := mixed.settings
  unfold ConfPort.ticked
  generalize frames.foldl (fun port frame => port.mixIn frame) port.resetMix = after at mixed smoothed settings ⊢
  have txSetting : after.txSetting = .enable := (congrArg ConfPort.txSetting settings).trans enabled
  have txAdjLevel : after.txAdjLevel = normalLevel := (congrArg ConfPort.txAdjLevel settings).trans normal
  have transmitters : after.transmitterCnt ≠ 0 := (congrArg ConfPort.transmitterCnt settings) ▸ transmitting
  have heard : ¬ (after.txSetting = .mute ∨ after.transmitterCnt = 0) := by
    rw [txSetting]
    simp [transmitters]
  unfold ConfPort.writePort
  rw [if_neg heard, if_neg (not_not.mpr txSetting), txAdjLevel]
  dsimp only
  rw [adjLevel_normal smoothed.level]
  refine ⟨smoothed.level, ⟨_, rfl, ?_⟩, ?_⟩
  · intro k
    have fits := (mixed.holds.fits k).mono smoothed.level.1 smoothed.le
    have sample := written_sample (mixed.holds.sum k) fits
    rw [← sample]
    split <;> rfl
  · intro calm
    have target : after.mixAdj = normalLevel := calm.elim mixed.quiet mixed.alone
    rcases smoothed.rises with same | rises
    · exact .inl (same.trans target)
    · right
      rw [← mixed.last]
      exact rises

variable {conf : Conf maxPorts samples} {topology : Conference maxPorts} {received : Received maxPorts samples}

theorem sum_filterMap (sources : List (Fin maxPorts)) (offers : Fin maxPorts → Option (Frame samples))
    (weight : Frame samples → Int) :
    ((sources.filterMap offers).map weight).sum = (sources.map fun source => (offers source).elim 0 weight).sum := by
  induction sources with
  | nil => rfl
  | cons source rest ih =>
    rw [List.map_cons, List.sum_cons, ← ih]
    cases offered : offers source with
    | none => simp [offered]
    | some frame => simp [offered]

theorem Carries.sum_frames (carries : Carries conf topology) (sink : Fin maxPorts) (weight : Frame samples → Int) :
    ((conf.frames received sink).map weight).sum =
      ∑ source ∈ topology.board.sources sink, (conf.offer received source).elim 0 weight := by
  have contributes : ∀ source, (conf.contribution received sink source).elim 0 weight =
      if source ∈ topology.board.sources sink then (conf.offer received source).elim 0 weight else 0 := by
    intro source
    have listed : sink ∈ conf.listenersOf source ↔ source ∈ topology.board.sources sink := by
      rw [carries.listenersOf, Switchboard.mem_sources]
    unfold Conf.contribution
    by_cases linked : source ∈ topology.board.sources sink
    · rw [if_pos (listed.mpr linked), if_pos linked]
    · rw [if_neg (mt listed.mp linked), if_neg linked]
      rfl
  rw [Conf.frames, sum_filterMap, ← List.sum_toFinset _ (visited_nodup conf), Finset.sum_congr rfl fun source _ =>
    contributes source, Finset.sum_ite_mem]
  congr 1
  rw [Finset.inter_eq_right]
  intro source linked
  rw [List.mem_toFinset, carries.mem_visited, carries.live]
  exact (topology.board.grounded _ _ (topology.board.mem_sources.mp linked)).1

theorem Carries.frames_length (carries : Carries conf topology) (received : Received maxPorts samples)
    (sink : Fin maxPorts) :
    (conf.frames received sink).length ≤ (topology.board.sources sink).card := by
  rw [← carries.sources_card]
  have listed : ∀ sources : List (Fin maxPorts), (sources.filterMap (conf.contribution received sink)).length ≤
      (sources.filter fun source => conf.lists source sink).length := by
    intro sources
    induction sources with
    | nil => exact Nat.le_refl 0
    | cons source rest ih =>
      by_cases lists : conf.lists source sink = true
      · rw [List.filter_cons, if_pos lists, List.length_cons, List.filterMap_cons]
        split
        · omega
        · rw [List.length_cons]
          omega
      · have unlisted : sink ∉ conf.listenersOf source := by
          rwa [carries.listenersOf, ← carries.lists]
        rw [List.filter_cons, if_neg lists, List.filterMap_cons, Conf.contribution, if_neg unlisted]
        exact ih
  apply (listed conf.visited).trans
  apply List.Sublist.length_le
  apply List.Sublist.filter
  rw [carries.visited]
  exact List.filter_sublist

theorem Carries.transmitters_few (carries : Carries conf topology) (few : maxPorts < 2 ^ 16) {slot : Fin maxPorts}
    {port : ConfPort maxPorts samples} (held : conf.ports slot = some port) : port.transmitterCnt < 2 ^ 16 := by
  have most := Finset.card_le_univ (topology.board.sources slot)
  rw [Fintype.card_fin] at most
  rw [carries.transmitters slot port held]
  omega

theorem Carries.getFrame_heard (carries : Carries conf topology) (received : Received maxPorts samples)
    (few : maxPorts < 2 ^ 16)
    (slow : conf.attack.toNat < 2 ^ 24) {sink : Fin maxPorts} {port : ConfPort maxPorts samples}
    (held : conf.ports sink = some port) (enabled : port.txSetting = .enable) (normal : port.txAdjLevel = normalLevel)
    (last : Level port.lastMixAdj) (transmitting : port.transmitterCnt ≠ 0) :
    ∃ after put, (conf.getFrame received).1.ports sink = some after ∧ (conf.getFrame received).2 sink = put.handed sink ∧
      Heard port after (conf.frames received sink) put := by
  obtain ⟨ports, put⟩ := carries.getFrame_port received sink
  have counted : ((conf.frames received sink).length : Int) ≤ port.transmitterCnt := by
    have length := carries.frames_length received sink
    rw [carries.transmitters sink port held]
    omega
  rw [ports, put, held]
  exact ⟨_, _, rfl, rfl, ticked_heard slow enabled normal last transmitting counted (carries.transmitters_few few held)⟩

end Hearing

end TiSIP.Pjmedia.Bridge
