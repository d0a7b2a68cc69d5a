import Mathlib.Algebra.Order.BigOperators.Group.Finset
import TiSIP.Pjmedia.Mixing

namespace TiSIP.Pjmedia.Bridge

open Pjsua Transition

section Steps

variable {maxPorts samples : Nat}

inductive Event (maxPorts samples : Nat)
  | call (operation : Operation)
  | tick (received : Received maxPorts samples)

def Conf.react (conf : Conf maxPorts samples) : Event maxPorts samples → Option (Conf maxPorts samples)
  | .call operation => some (conf.perform operation)
  | .tick received => (conf.tick received).map Prod.fst

def reflected (topology : Conference maxPorts) : Event maxPorts samples → Conference maxPorts
  | .call operation => drawn topology operation
  | .tick _ => topology

variable {conf : Conf maxPorts samples} {topology : Conference maxPorts}

theorem tick_eq_some {received : Received maxPorts samples} {result : Conf maxPorts samples × (Fin maxPorts → Put samples)} :
    conf.tick received = some result ↔ (conf.livePort 0).isSome ∧ conf.getFrame received = result := by
  unfold Conf.tick
  cases conf.livePort 0 <;> simp

theorem react_tick {received : Received maxPorts samples} {after : Conf maxPorts samples}
    (reacted : conf.react (.tick received) = some after) : after = (conf.getFrame received).1 := by
  obtain ⟨result, ticked, rfl⟩ := Option.map_eq_some_iff.mp reacted
  rw [(tick_eq_some.mp ticked).2]

theorem livePort_settings (slot : Int) : conf.settings.livePort slot = conf.livePort slot := by
  unfold Conf.livePort
  congr 1
  funext found
  exact decide_eq_decide.mpr (live_settings found)

theorem Carries.getFrame (carries : Carries conf topology) (received : Received maxPorts samples) :
    Carries (conf.getFrame received).1 topology := by
  have settings := carries.getFrame_settings received
  have ports : ∀ slot, ((conf.getFrame received).1.ports slot).map ConfPort.settings =
      (conf.ports slot).map ConfPort.settings := fun slot => congrFun (congrArg Conf.ports settings) slot
  constructor
  · intro slot
    rw [← carries.listening slot]
    have shown := congrArg (Option.map ConfPort.listeners) (ports slot)
    rwa [Option.map_map, Option.map_map] at shown
  · intro slot port held
    have same := ports slot
    rw [held, Option.map_some] at same
    obtain ⟨old, oldHeld, alike⟩ := Option.map_eq_some_iff.mp same.symm
    have count : port.settings.transmitterCnt = old.settings.transmitterCnt :=
      congrArg ConfPort.transmitterCnt alike.symm
    exact count.trans (carries.transmitters slot old oldHeld)
  · exact (congrArg Conf.connectCnt settings).trans carries.connections
  · exact (congrArg Conf.portCnt settings).trans carries.filled

def Keeps {View : Type*} (view : ConfPort maxPorts samples → View) (before after : Conf maxPorts samples) : Prop :=
  ∀ slot port, after.ports slot = some port → view port = view ((before.ports slot).getD createConfPort)

section Keeps

variable {View : Type*} {view : ConfPort maxPorts samples → View}

theorem Keeps.refl (conf : Conf maxPorts samples) : Keeps view conf conf := by
  intro slot port held
  rw [held]
  rfl

theorem keeps_modify {middle : Conf maxPorts samples} (keeps : Keeps view conf middle) (slot : Fin maxPorts)
    {change : ConfPort maxPorts samples → ConfPort maxPorts samples} (hidden : ∀ port, view (change port) = view port) :
    Keeps view conf { middle with ports := middle.ports.modify slot change } := by
  intro other port held
  dsimp only at held
  by_cases same : other = slot
  · subst same
    rw [SlotTable.modify_same, Option.map_eq_some_iff] at held
    obtain ⟨old, oldHeld, rfl⟩ := held
    rw [hidden]
    exact keeps other old oldHeld
  · rw [SlotTable.modify_other _ _ same] at held
    exact keeps other port held

theorem keeps_dropPort (carries : Carries conf topology) (removed : Fin maxPorts)
    (lists : ∀ port, view (port.without removed) = view port)
    (counts : ∀ port, view port.transmitterLost = view port) : Keeps view conf (conf.dropPort removed) := by
  intro slot port held
  rw [(dropPort_spec removed carries).1] at held
  split at held
  · cases held
  · split at held
    · obtain ⟨old, oldHeld, rfl⟩ := Option.map_eq_some_iff.mp held
      rw [oldHeld, counts, lists]
      rfl
    · obtain ⟨old, oldHeld, rfl⟩ := Option.map_eq_some_iff.mp held
      rw [oldHeld, lists]
      rfl

theorem keeps_addPort {after : Conf maxPorts samples} {index : Fin maxPorts} (added : conf.addPort = .ok (after, index)) :
    Keeps view conf after := by
  unfold Conf.addPort at added
  split at added
  · cases added
  · split at added
    · cases added
    · rename_i free
      cases added
      intro slot port held
      rcases SlotTable.put_eq_some.mp held with ⟨rfl, rfl⟩ | ⟨_, old⟩
      · have empty : conf.ports slot = none := by
          have dead := SlotTable.lowestFree_free free
          simpa [SlotTable.Live] using dead
        rw [empty]
        rfl
      · rw [old]
        rfl

/-- The calls that make and remove ports and connections, and set nothing of a port. -/
def Wires : Operation → Prop
  | .addPort | .removePort _ | .connectPort .. | .disconnectPort .. => True
  | _ => False

theorem wiring_keeps (view : ConfPort maxPorts samples → View) (carries : Carries conf topology) {operation : Operation} (wires : Wires operation)
    (lists : ∀ port listeners, view { port with listenerSlots := listeners } = view port)
    (counts : ∀ port count, view { port with transmitterCnt := count } = view port) :
    Keeps view conf (conf.perform operation) := by
  unfold Conf.perform
  cases ran : conf.result operation with
  | error error => exact .refl conf
  | ok after =>
    cases operation with
    | addPort =>
      cases added : conf.addPort with
      | error error =>
        rw [Conf.result, added] at ran
        cases ran
      | ok result =>
        rw [Conf.result, added] at ran
        cases ran
        exact keeps_addPort added
    | removePort port =>
      unfold Conf.result Conf.removePort at ran
      dsimp only at ran
      split at ran
      · cases ran
      · cases ran
        exact keeps_dropPort carries _ (fun port => lists port _) fun port => counts port _
    | connectPort srcSlot sinkSlot level =>
      unfold Conf.result Conf.connectPort at ran
      dsimp only at ran
      split at ran
      · cases ran
      · split at ran
        · split at ran
          · cases ran
            exact .refl conf
          · cases ran
            exact keeps_modify (keeps_modify (.refl conf) _ fun port => lists port _) _ fun port => counts port _
        · cases ran
    | disconnectPort srcSlot sinkSlot =>
      unfold Conf.result Conf.disconnectPort at ran
      dsimp only at ran
      split at ran
      · split at ran
        · cases ran
          exact keeps_modify (keeps_modify (.refl conf) _ fun port => lists port _) _ fun port => counts port _
        · cases ran
          exact .refl conf
      · cases ran
    | configurePort slot tx rx | adjustRxLevel slot level | adjustTxLevel slot level => exact wires.elim

end Keeps

theorem perform_mixing (carries : Carries conf topology) (operation : Operation) :
    Keeps ConfPort.mixing conf (conf.perform operation) := by
  cases operation with
  | addPort | removePort port | connectPort srcSlot sinkSlot level | disconnectPort srcSlot sinkSlot =>
    exact wiring_keeps ConfPort.mixing carries trivial (fun _ _ => rfl) fun _ _ => rfl
  | configurePort slot tx rx =>
    unfold Conf.perform Conf.result Conf.configurePort
    dsimp only
    split
    · exact .refl conf
    · exact keeps_modify (.refl conf) _ fun _ => rfl
  | adjustRxLevel slot adjLevel =>
    unfold Conf.perform Conf.result Conf.adjustRxLevel
    dsimp only
    split
    · exact .refl conf
    · split
      · exact .refl conf
      · exact keeps_modify (.refl conf) _ fun _ => rfl
  | adjustTxLevel slot adjLevel =>
    unfold Conf.perform Conf.result Conf.adjustTxLevel
    dsimp only
    split
    · exact .refl conf
    · split
      · exact .refl conf
      · exact keeps_modify (.refl conf) _ fun _ => rfl

theorem perform_last (carries : Carries conf topology) {operation : Operation} {slot : Fin maxPorts}
    {port : ConfPort maxPorts samples} (held : (conf.perform operation).ports slot = some port) :
    port.lastMixAdj = ((conf.ports slot).getD createConfPort).lastMixAdj :=
  congrArg (fun mixing => mixing.2.1) (perform_mixing carries operation slot port held)

theorem dropPort_rate (conf : Conf maxPorts samples) (removed : Fin maxPorts) :
    (conf.dropPort removed).clockRate = conf.clockRate := by
  have listeners : ∀ (sources : List (Fin maxPorts)) (conf : Conf maxPorts samples),
      (sources.foldl (Conf.forgetListener removed) conf).clockRate = conf.clockRate := by
    intro sources
    induction sources with
    | nil => exact fun _ => rfl
    | cons source rest ih =>
      intro conf
      rw [List.foldl_cons, ih]
      unfold Conf.forgetListener
      split <;> rfl
  have transmitters : ∀ (dsts : List (Fin maxPorts)) (conf : Conf maxPorts samples),
      (dsts.foldl Conf.forgetTransmitter conf).clockRate = conf.clockRate := by
    intro dsts
    induction dsts with
    | nil => exact fun _ => rfl
    | cons dst rest ih => exact fun conf => ih _
  exact (transmitters _ _).trans (listeners _ _)

theorem perform_rate (conf : Conf maxPorts samples) (operation : Operation) :
    (conf.perform operation).clockRate = conf.clockRate := by
  unfold Conf.perform Conf.result
  cases operation with
  | addPort =>
    unfold Conf.addPort
    dsimp only
    split
    · rfl
    · split <;> rfl
  | removePort port =>
    unfold Conf.removePort
    dsimp only
    split
    · rfl
    · exact dropPort_rate conf _
  | connectPort srcSlot sinkSlot level =>
    unfold Conf.connectPort
    dsimp only
    split
    · rfl
    · split
      · split <;> rfl
      · rfl
  | disconnectPort srcSlot sinkSlot =>
    unfold Conf.disconnectPort
    dsimp only
    split
    · split <;> rfl
    · rfl
  | configurePort slot tx rx =>
    unfold Conf.configurePort
    dsimp only
    split <;> rfl
  | adjustRxLevel slot adjLevel =>
    unfold Conf.adjustRxLevel
    dsimp only
    split
    · rfl
    · split <;> rfl
  | adjustTxLevel slot adjLevel =>
    unfold Conf.adjustTxLevel
    dsimp only
    split
    · rfl
    · split <;> rfl

end Steps

section Runs

variable {maxPorts samples : Nat}

structure Sane (clockRate : Nat) (conf : Conf maxPorts samples) (topology : Conference maxPorts) : Prop where
  carries : Carries conf topology
  rate : conf.clockRate = clockRate
  levels : ∀ slot port, conf.ports slot = some port → Level port.lastMixAdj

variable {clockRate : Nat} {conf : Conf maxPorts samples} {topology : Conference maxPorts}

theorem Sane.slow (sane : Sane clockRate conf topology) (slow : clockRate < 2 ^ 24) : conf.attack.toNat < 2 ^ 24 := by
  have quotient : clockRate / samples ≤ clockRate := Nat.div_le_self _ _
  rw [Conf.attack, UInt32.toNat_ofNat', sane.rate, Nat.mod_eq_of_lt (by omega)]
  omega

theorem ticked_level {attack : UInt32} (slow : attack.toNat < 2 ^ 24) {port : ConfPort maxPorts samples}
    {frames : List (Frame samples)} (last : Level port.lastMixAdj)
    (counted : (frames.length : Int) ≤ port.transmitterCnt) (few : port.transmitterCnt < 2 ^ 16) :
    Level (port.ticked attack frames).1.lastMixAdj := by
  have lastMixed : Level (frames.foldl (fun port frame => port.mixIn frame) port.resetMix).lastMixAdj := by
    rw [mixFrames_last]
    exact last
  unfold ConfPort.ticked ConfPort.writePort
  split
  · exact lastMixed
  · rename_i written
    obtain ⟨_, transmitting⟩ := not_or.mp written
    split
    · exact lastMixed
    · rename_i enabled
      have settings := mixFrames_settings frames port.resetMix
      have portEnabled : port.txSetting = .enable :=
        (congrArg ConfPort.txSetting settings).symm.trans (not_not.mp enabled)
      have portTransmitting : port.transmitterCnt ≠ 0 :=
        fun none => transmitting ((congrArg ConfPort.transmitterCnt settings).trans none)
      have mixed := mixFrames_spec portEnabled portTransmitting counted few
      exact (simpleAgc_spec slow lastMixed mixed.holds.level).level

theorem Sane.tick (sane : Sane clockRate conf topology) (few : maxPorts < 2 ^ 16) (slow : clockRate < 2 ^ 24)
    (received : Received maxPorts samples) : Sane clockRate (conf.getFrame received).1 topology := by
  have settings := sane.carries.getFrame_settings received
  refine ⟨sane.carries.getFrame received, (congrArg Conf.clockRate settings).trans sane.rate, ?_⟩
  intro slot port held
  rw [(sane.carries.getFrame_port received slot).1, Option.map_eq_some_iff] at held
  obtain ⟨old, oldHeld, rfl⟩ := held
  have counted : ((conf.frames received slot).length : Int) ≤ old.transmitterCnt := by
    have length := sane.carries.frames_length received slot
    rw [sane.carries.transmitters slot old oldHeld]
    omega
  exact ticked_level (sane.slow slow) (sane.levels slot old oldHeld) counted
    (sane.carries.transmitters_few few oldHeld)

theorem Sane.call (sane : Sane clockRate conf topology) (operation : Operation) :
    Sane clockRate (conf.perform operation) (drawn topology operation) := by
  refine ⟨perform_carries sane.carries operation, (perform_rate conf operation).trans sane.rate, ?_⟩
  intro slot port held
  rw [perform_last sane.carries held]
  cases old : conf.ports slot with
  | none => exact level_normal
  | some port => exact sane.levels slot port old

theorem create_sane [NeZero maxPorts] (clockRate : Nat) :
    Sane clockRate (Conf.create clockRate : Conf maxPorts samples) blank := by
  refine ⟨create_carries clockRate, rfl, ?_⟩
  intro slot port held
  rcases SlotTable.put_eq_some.mp held with ⟨_, rfl⟩ | ⟨_, impossible⟩
  · exact level_normal
  · cases impossible

theorem Sane.run (sane : Sane clockRate conf topology) (few : maxPorts < 2 ^ 16) (slow : clockRate < 2 ^ 24)
    {events : List (Event maxPorts samples)} {after : Conf maxPorts samples}
    (ran : events.foldlM Conf.react conf = some after) :
    Sane clockRate after (runFrom reflected topology events) := by
  induction events generalizing conf topology with
  | nil =>
    cases ran
    exact sane
  | cons event rest ih =>
    obtain ⟨middle, reacted, ranRest⟩ := foldlM_cons_eq_some.mp ran
    cases event with
    | call operation =>
      cases reacted
      exact ih (sane.call operation) ranRest
    | tick received =>
      rw [react_tick reacted] at ranRest
      exact ih (sane.tick few slow received) ranRest

noncomputable def mixOf (topology : Conference maxPorts) (conf : Conf maxPorts samples)
    (received : Received maxPorts samples) (sink : Fin maxPorts) (weight : Frame samples → Int) : Int :=
  ∑ source ∈ topology.board.sources sink, (conf.offer received source).elim 0 weight

theorem handed_audio (brief : samples < 2 ^ 16) (frame : Frame samples) (slot : Fin maxPorts) :
    (Put.audio frame).handed slot = if slot.val = 0 ∧ Faint frame then .heartBeat else .audio frame := by
  unfold Put.handed
  simp only [txLevel_eq_zero frame brief]
  split <;> simp_all

/-- Whatever the bridge went through, a tick gives a port that plays at its normal level the sum of
    the signals of exactly the slots connected to it, scaled as a whole frame and never clipped; the
    sound device, at port 0, is given no frame where that one is faint. -/
theorem run_heard [NeZero maxPorts] (few : maxPorts < 2 ^ 16) (brief : samples < 2 ^ 16) (slow : clockRate < 2 ^ 24)
    {events : List (Event maxPorts samples)} {conf after : Conf maxPorts samples} {received : Received maxPorts samples}
    {given : Fin maxPorts → Put samples} (ran : events.foldlM Conf.react (Conf.create clockRate) = some conf)
    (ticked : conf.tick received = some (after, given)) {sink : Fin maxPorts} {port : ConfPort maxPorts samples}
    (held : conf.ports sink = some port) (enabled : port.txSetting = .enable) (normal : port.txAdjLevel = normalLevel)
    (transmitting : port.transmitterCnt ≠ 0) :
    ∃ (frame : Frame samples) (level : Int), 0 ≤ level ∧ level ≤ 128 ∧
      (∀ k, (frame k).toInt =
        mixOf (runFrom reflected blank events) conf received sink (fun offered => (offered k).toInt) * level / 128) ∧
      given sink = if sink.val = 0 ∧ Faint frame then .heartBeat else .audio frame := by
  have sane := (create_sane clockRate).run few slow ran
  obtain ⟨_, put, _, handed, heard⟩ := sane.carries.getFrame_heard received few (sane.slow slow) held enabled normal
    (sane.levels sink port held) transmitting
  obtain ⟨frame, rfl, sample⟩ := heard.audio
  rw [(tick_eq_some.mp ticked).2, handed_audio brief] at handed
  refine ⟨frame, _, heard.level.1, heard.level.2, ?_, handed⟩
  intro k
  rw [sample, total, sane.carries.sum_frames]
  rfl

def twoSpeakers : List (Event 3 80) :=
  [.call .addPort, .call .addPort, .call (.connectPort 0 1 0), .call (.connectPort 2 1 0)]

def sounding (sample : Int16) : Received 3 80 := fun _ => some fun _ => sample

def Playing (conf : Conf maxPorts samples) (slot : Fin maxPorts) : Bool :=
  (conf.livePort 0).isSome ∧
    (conf.ports slot).any fun port => port.txSetting = .enable ∧ port.txAdjLevel = normalLevel ∧ port.transmitterCnt ≠ 0

theorem Playing.port {conf : Conf maxPorts samples} {slot : Fin maxPorts} (playing : Playing conf slot = true) :
    (conf.livePort 0).isSome ∧ ∃ port, conf.ports slot = some port ∧ port.txSetting = .enable ∧
      port.txAdjLevel = normalLevel ∧ port.transmitterCnt ≠ 0 := by
  obtain ⟨hub, plays⟩ := of_decide_eq_true playing
  obtain ⟨port, held, facts⟩ := (Option.any_eq_true _ _).mp plays
  exact ⟨hub, port, held, of_decide_eq_true facts⟩

theorem two_speakers_heard :
    ∃ (conf after : Conf 3 80) (given : Fin 3 → Put 80), twoSpeakers.foldlM Conf.react (Conf.create 8000) = some conf ∧
      conf.tick (sounding 30000) = some (after, given) ∧
      ∃ (frame : Frame 80) (level : Int), 0 ≤ level ∧ level ≤ 128 ∧
        (∀ k, (frame k).toInt = mixOf (runFrom reflected blank twoSpeakers) conf (sounding 30000) 1
          (fun offered => (offered k).toInt) * level / 128) ∧
        given 1 = .audio frame := by
  have ready : (twoSpeakers.foldlM Conf.react (Conf.create 8000)).any fun conf => Playing conf 1 := by decide
  obtain ⟨conf, ran, playing⟩ := (Option.any_eq_true _ _).mp ready
  obtain ⟨hub, port, held, enabled, normal, transmitting⟩ := Playing.port playing
  have ticked : conf.tick (sounding 30000) = some (conf.getFrame (sounding 30000)) := tick_eq_some.mpr ⟨hub, rfl⟩
  obtain ⟨frame, level, low, high, sample, put⟩ :=
    run_heard (by decide) (by decide) (by decide) ran ticked held enabled normal transmitting
  refine ⟨conf, _, _, ran, ticked, frame, level, low, high, sample, put.trans ?_⟩
  simp

/-- The signals that reach the sink are too soft to overflow, whatever their signs. -/
def Soft (topology : Conference maxPorts) (conf : Conf maxPorts samples) (sink : Fin maxPorts)
    (received : Received maxPorts samples) : Prop :=
  ∀ k, mixOf topology conf received sink (fun offered => ((offered k).toInt.natAbs : Int)) ≤ 32767

theorem mixOf_settings {first second : Conf maxPorts samples} (same : first.settings = second.settings)
    (received : Received maxPorts samples) (sink : Fin maxPorts) (weight : Frame samples → Int) :
    mixOf topology first received sink weight = mixOf topology second received sink weight := by
  unfold mixOf
  rw [show first.offer received = second.offer received from funext ((settings_eq same).2.2 received)]

theorem Sane.soft_tick (sane : Sane clockRate conf topology) (few : maxPorts < 2 ^ 16) (slow : clockRate < 2 ^ 24)
    {sink : Fin maxPorts} {port : ConfPort maxPorts samples} {received : Received maxPorts samples}
    (held : conf.ports sink = some port) (enabled : port.txSetting = .enable) (normal : port.txAdjLevel = normalLevel)
    (transmitting : port.transmitterCnt ≠ 0) (soft : Soft topology conf sink received) :
    ∃ after, (conf.getFrame received).1.ports sink = some after ∧ after.settings = port.settings ∧
      (after.lastMixAdj = normalLevel ∨ port.lastMixAdj.toInt < after.lastMixAdj.toInt) ∧
      ∃ frame : Frame samples, (conf.getFrame received).2 sink = (Put.audio frame).handed sink ∧
        ∀ k, (frame k).toInt =
          mixOf topology conf received sink (fun offered => (offered k).toInt) * after.lastMixAdj.toInt / 128 := by
  obtain ⟨after, put, found, handed, heard⟩ := sane.carries.getFrame_heard received few (sane.slow slow) held enabled
    normal (sane.levels sink port held) transmitting
  have quiet : ∀ k, loudness (conf.frames received sink) k ≤ 32767 := by
    intro k
    rw [loudness, sane.carries.sum_frames]
    exact soft k
  obtain ⟨frame, rfl, sample⟩ := heard.audio
  refine ⟨after, found, ?_, heard.recovers (.inl quiet), frame, handed, ?_⟩
  · have settings := congrFun (congrArg Conf.ports (sane.carries.getFrame_settings received)) sink
    have same : some after.settings = some port.settings := by
      simpa [Conf.settings, SlotTable.map_apply, found, held] using settings
    exact Option.some.inj same
  · intro k
    rw [sample, total, sane.carries.sum_frames]
    rfl

theorem Sane.soft_ticks (sane : Sane clockRate conf topology) (few : maxPorts < 2 ^ 16) (slow : clockRate < 2 ^ 24)
    {sink : Fin maxPorts} {port : ConfPort maxPorts samples} (held : conf.ports sink = some port)
    (enabled : port.txSetting = .enable) (normal : port.txAdjLevel = normalLevel) (transmitting : port.transmitterCnt ≠ 0)
    (calm : List (Received maxPorts samples)) (soft : ∀ received ∈ calm, Soft topology conf sink received)
    {later : Conf maxPorts samples} (ran : (calm.map Event.tick).foldlM Conf.react conf = some later) (risen : Nat)
    (level : port.lastMixAdj = normalLevel ∨ (risen : Int) ≤ port.lastMixAdj.toInt) :
    later.settings = conf.settings ∧ Sane clockRate later topology ∧
      ∃ after, later.ports sink = some after ∧ after.settings = port.settings ∧
        (after.lastMixAdj = normalLevel ∨ ((risen + calm.length : Nat) : Int) ≤ after.lastMixAdj.toInt) := by
  induction calm generalizing conf port risen with
  | nil =>
    cases ran
    exact ⟨rfl, sane, port, held, rfl, level⟩
  | cons received rest ih =>
    obtain ⟨middle, reacted, ranRest⟩ := foldlM_cons_eq_some.mp ran
    rw [react_tick reacted] at ranRest
    obtain ⟨after, found, settings, rises, _⟩ :=
      sane.soft_tick few slow held enabled normal transmitting (soft received List.mem_cons_self)
    have kept := sane.carries.getFrame_settings received
    have softRest : ∀ other ∈ rest, Soft topology (conf.getFrame received).1 sink other := by
      intro other member k
      rw [mixOf_settings kept]
      exact soft other (List.mem_cons_of_mem _ member) k
    have top := sane.levels sink port held
    have higher : after.lastMixAdj = normalLevel ∨ ((risen + 1 : Nat) : Int) ≤ after.lastMixAdj.toInt := by
      rcases rises with full | up
      · exact .inl full
      · rcases level with full | reached
        · have afterTop := (sane.tick few slow received).levels sink after found
          have normalTop : port.lastMixAdj.toInt = 128 := by
            rw [full]
            decide
          have above := afterTop.2
          omega
        · right
          push_cast
          omega
    obtain ⟨settingsRest, saneRest, last, lastFound, lastSettings, lastLevel⟩ :=
      ih (sane.tick few slow received) found ((congrArg ConfPort.txSetting settings).trans enabled)
        ((congrArg ConfPort.txAdjLevel settings).trans normal)
        (fun none => transmitting ((congrArg ConfPort.transmitterCnt settings).symm.trans none)) softRest ranRest
        (risen + 1) higher
    refine ⟨settingsRest.trans kept, saneRest, last, lastFound, lastSettings.trans settings, ?_⟩
    rcases lastLevel with full | reached
    · exact .inl full
    · right
      rw [List.length_cons]
      push_cast at reached ⊢
      omega

/-- Whatever the bridge went through, after 128 soft ticks a port hears the exact sum again. -/
theorem run_recovered [NeZero maxPorts] (few : maxPorts < 2 ^ 16) (brief : samples < 2 ^ 16) (slow : clockRate < 2 ^ 24)
    {events : List (Event maxPorts samples)} {calm : List (Received maxPorts samples)} (long : 128 ≤ calm.length)
    {conf later after : Conf maxPorts samples} {received : Received maxPorts samples} {given : Fin maxPorts → Put samples}
    (ran : events.foldlM Conf.react (Conf.create clockRate) = some conf)
    (calmed : (calm.map Event.tick).foldlM Conf.react conf = some later) (ticked : later.tick received = some (after, given))
    {sink : Fin maxPorts} {port : ConfPort maxPorts samples} (held : conf.ports sink = some port)
    (enabled : port.txSetting = .enable) (normal : port.txAdjLevel = normalLevel) (transmitting : port.transmitterCnt ≠ 0)
    (soft : ∀ each ∈ received :: calm, Soft (runFrom reflected blank events) conf sink each) :
    ∃ frame : Frame samples,
      (∀ k, (frame k).toInt =
        mixOf (runFrom reflected blank events) conf received sink (fun offered => (offered k).toInt)) ∧
      given sink = if sink.val = 0 ∧ Faint frame then .heartBeat else .audio frame := by
  have sane := (create_sane clockRate).run few slow ran
  have start : port.lastMixAdj = normalLevel ∨ ((0 : Nat) : Int) ≤ port.lastMixAdj.toInt :=
    .inr (sane.levels sink port held).1
  obtain ⟨kept, saneCalm, before, found, settings, risen⟩ := sane.soft_ticks few slow held enabled normal transmitting calm
    (fun each member => soft each (List.mem_cons_of_mem _ member)) calmed 0 start
  have softLast : Soft (runFrom reflected blank events) later sink received := by
    intro k
    rw [mixOf_settings kept]
    exact soft received List.mem_cons_self k
  obtain ⟨last, lastFound, _, rises, frame, put, sample⟩ := saneCalm.soft_tick few slow found
    ((congrArg ConfPort.txSetting settings).trans enabled) ((congrArg ConfPort.txAdjLevel settings).trans normal)
    (fun none => transmitting ((congrArg ConfPort.transmitterCnt settings).symm.trans none)) softLast
  have full : last.lastMixAdj.toInt = 128 := by
    have top := ((saneCalm.tick few slow received).levels sink last lastFound).2
    have beforeLevel := saneCalm.levels sink before found
    rcases rises with normal | up
    · rw [normal]
      decide
    · rcases risen with normal | reached
      · have beforeTop : before.lastMixAdj.toInt = 128 := by
          rw [normal]
          decide
        omega
      · omega
  rw [(tick_eq_some.mp ticked).2, handed_audio brief] at put
  refine ⟨frame, ?_, put⟩
  intro k
  rw [sample, full, mixOf_settings kept]
  omega

def loudTicks : List (Event 3 80) := twoSpeakers ++ [.tick (sounding 30000), .tick (sounding 30000)]

theorem Carries.ticks (carries : Carries conf topology) (hub : (conf.livePort 0).isSome)
    (ticks : List (Received maxPorts samples)) :
    ∃ later, (ticks.map Event.tick).foldlM Conf.react conf = some later ∧ (later.livePort 0).isSome := by
  induction ticks generalizing conf with
  | nil => exact ⟨conf, rfl, hub⟩
  | cons received rest ih =>
    have kept : ((conf.getFrame received).1.livePort 0).isSome := by
      rw [← livePort_settings, carries.getFrame_settings, livePort_settings]
      exact hub
    obtain ⟨later, ran, live⟩ := ih (carries.getFrame received) kept
    have ticked : conf.tick received = some (conf.getFrame received) := tick_eq_some.mpr ⟨hub, rfl⟩
    have reacted : conf.react (.tick received) = some (conf.getFrame received).1 := by
      rw [Conf.react, ticked]
      rfl
    refine ⟨later, ?_, live⟩
    rw [List.map_cons, List.foldlM_cons, reacted]
    exact ran

theorem loud_ticks_recovered :
    ∃ (conf later after : Conf 3 80) (given : Fin 3 → Put 80),
      loudTicks.foldlM Conf.react (Conf.create 8000) = some conf ∧
      ((List.replicate 128 (sounding 100)).map Event.tick).foldlM Conf.react conf = some later ∧
      later.tick (sounding 100) = some (after, given) ∧
      ∃ frame : Frame 80,
        (∀ k, (frame k).toInt =
          mixOf (runFrom reflected blank loudTicks) conf (sounding 100) 1 (fun offered => (offered k).toInt)) ∧
        given 1 = .audio frame := by
  have ready : (loudTicks.foldlM Conf.react (Conf.create 8000)).any fun conf =>
      Playing conf 1 ∧ ∀ source, (conf.ports source).all fun port => port.rxAdjLevel = normalLevel := by decide
  obtain ⟨conf, ran, both⟩ := (Option.any_eq_true _ _).mp ready
  obtain ⟨playing, plain⟩ := of_decide_eq_true both
  obtain ⟨hub, port, held, enabled, normal, transmitting⟩ := Playing.port playing
  have sane : Sane 8000 conf (runFrom reflected blank loudTicks) := (create_sane 8000).run (by decide) (by decide) ran
  obtain ⟨later, calmed, live⟩ := sane.carries.ticks hub (List.replicate 128 (sounding 100))
  have ticked : later.tick (sounding 100) = some (later.getFrame (sounding 100)) := tick_eq_some.mpr ⟨live, rfl⟩
  have soft : ∀ each ∈ sounding 100 :: List.replicate 128 (sounding 100),
      Soft (runFrom reflected blank loudTicks) conf 1 each := by
    intro each member k
    have same : each = sounding 100 := by
      rcases List.mem_cons.mp member with rfl | repeated
      · rfl
      · exact List.eq_of_mem_replicate repeated
    subst same
    have quiet : ∀ source, (conf.offer (sounding 100) source).elim 0
        (fun offered => ((offered k).toInt.natAbs : Int)) ≤ 100 := by
      intro source
      have silent : (0 : Int) ≤ 100 := by decide
      unfold Conf.offer
      cases here : conf.ports source with
      | none => exact silent
      | some port =>
        have same : port.rxAdjLevel = normalLevel := by simpa [here] using plain source
        rw [Option.bind_some, adjustRx_normal same]
        split
        · exact silent
        · split
          · exact silent
          · exact (by decide : ((100 : Int16).toInt.natAbs : Int) ≤ 100)
    have bound : mixOf (runFrom reflected blank loudTicks) conf (sounding 100) 1
        (fun offered => ((offered k).toInt.natAbs : Int)) ≤ _ :=
      Finset.sum_le_card_nsmul _ _ 100 fun source _ => quiet source
    have few := Finset.card_le_univ ((runFrom reflected blank loudTicks).board.sources 1)
    rw [Fintype.card_fin] at few
    rw [nsmul_eq_mul] at bound
    omega
  have long : 128 ≤ (List.replicate 128 (sounding 100)).length := by rw [List.length_replicate]
  obtain ⟨frame, sample, put⟩ :=
    run_recovered (by decide) (by decide) (by decide) long ran calmed ticked held enabled normal transmitting soft
  refine ⟨conf, later, _, _, ran, calmed, ticked, frame, sample, put.trans ?_⟩
  simp

end Runs

section Isolation

variable {maxPorts samples : Nat} {conf : Conf maxPorts samples}

theorem lists_settings (source sink : Fin maxPorts) : conf.settings.lists source sink = conf.lists source sink := by
  unfold Conf.lists Conf.settings
  dsimp only
  rw [SlotTable.map_apply]
  cases conf.ports source <;> rfl

theorem forgetListener_settings (removed source : Fin maxPorts) :
    (conf.forgetListener removed source).settings = conf.settings.forgetListener removed source := by
  unfold Conf.forgetListener
  rw [lists_settings]
  split
  · unfold Conf.settings
    congr 1
    exact SlotTable.map_modify _ _ _ fun _ => rfl
  · rfl

theorem forgetTransmitter_settings (dst : Fin maxPorts) :
    (conf.forgetTransmitter dst).settings = conf.settings.forgetTransmitter dst := by
  unfold Conf.forgetTransmitter Conf.settings
  congr 1
  exact SlotTable.map_modify _ _ _ fun _ => rfl

theorem dropPort_settings (removed : Fin maxPorts) :
    (conf.dropPort removed).settings = conf.settings.dropPort removed := by
  have listeners : ∀ (sources : List (Fin maxPorts)) (conf : Conf maxPorts samples),
      (sources.foldl (Conf.forgetListener removed) conf).settings =
        sources.foldl (Conf.forgetListener removed) conf.settings :=
    fun _ _ => (List.foldl_hom Conf.settings fun _ _ => (forgetListener_settings _ _).symm).symm
  have transmitters : ∀ (dsts : List (Fin maxPorts)) (conf : Conf maxPorts samples),
      (dsts.foldl Conf.forgetTransmitter conf).settings = dsts.foldl Conf.forgetTransmitter conf.settings :=
    fun _ _ => (List.foldl_hom Conf.settings fun _ _ => (forgetTransmitter_settings _).symm).symm
  unfold Conf.dropPort
  dsimp only
  rw [← listeners, listenersOf_settings, ← transmitters]
  unfold Conf.settings
  congr 1
  exact SlotTable.map_clear _ _ _

theorem modify_settings (slot : Fin maxPorts) {change : ConfPort maxPorts samples → ConfPort maxPorts samples}
    (commutes : ∀ port, (change port).settings = change port.settings) :
    ({ conf with ports := conf.ports.modify slot change } : Conf maxPorts samples).settings =
      { conf.settings with ports := conf.settings.ports.modify slot change } := by
  unfold Conf.settings
  congr 1
  exact SlotTable.map_modify _ _ _ commutes

theorem rewire_settings (source sink : Fin maxPorts) (connectCnt : Int)
    {relist recount : ConfPort maxPorts samples → ConfPort maxPorts samples}
    (relists : ∀ port, (relist port).settings = relist port.settings)
    (recounts : ∀ port, (recount port).settings = recount port.settings) :
    ({ conf with ports := (conf.ports.modify source relist).modify sink recount, connectCnt } :
        Conf maxPorts samples).settings =
      { conf.settings with ports := (conf.settings.ports.modify source relist).modify sink recount, connectCnt } := by
  unfold Conf.settings
  congr 1
  rw [SlotTable.map_modify _ _ _ recounts, SlotTable.map_modify _ _ _ relists]

theorem result_settings (operation : Operation) :
    conf.settings.result operation = (conf.result operation).map Conf.settings := by
  unfold Conf.result
  cases operation with
  | addPort =>
    unfold Conf.addPort
    have count : conf.settings.portCnt = conf.portCnt := rfl
    have free : conf.settings.ports.lowestFree = conf.ports.lowestFree := SlotTable.lowestFree_map _ _
    dsimp only
    rw [count, free]
    split
    · rfl
    · cases conf.ports.lowestFree with
      | none => rfl
      | some index =>
        have placed : (conf.ports.put index createConfPort).map ConfPort.settings =
            (conf.ports.map ConfPort.settings).put index createConfPort := SlotTable.map_put _ _ _ _
        have same : ({ conf with ports := conf.ports.put index createConfPort, portCnt := conf.portCnt + 1 } :
            Conf maxPorts samples).settings =
              { conf.settings with ports := conf.settings.ports.put index createConfPort, portCnt := conf.portCnt + 1 } := by
          unfold Conf.settings
          rw [← placed]
        exact congrArg Except.ok same.symm
  | removePort port =>
    unfold Conf.removePort
    dsimp only
    rw [livePort_settings]
    cases conf.livePort port with
    | none => rfl
    | some removed => exact congrArg Except.ok (dropPort_settings removed).symm
  | connectPort srcSlot sinkSlot level =>
    unfold Conf.connectPort
    dsimp only
    rw [livePort_settings, livePort_settings]
    split
    · rfl
    · cases conf.livePort srcSlot with
      | none => rfl
      | some source =>
        cases conf.livePort sinkSlot with
        | none => rfl
        | some sink =>
          dsimp only
          rw [lists_settings]
          split
          · rfl
          · apply congrArg Except.ok
            symm
            apply rewire_settings
            · exact fun _ => rfl
            · exact fun _ => rfl
  | disconnectPort srcSlot sinkSlot =>
    unfold Conf.disconnectPort
    dsimp only
    rw [livePort_settings, livePort_settings]
    cases conf.livePort srcSlot with
    | none => rfl
    | some source =>
      cases conf.livePort sinkSlot with
      | none => rfl
      | some sink =>
        dsimp only
        rw [lists_settings]
        split
        · apply congrArg Except.ok
          symm
          apply rewire_settings
          · exact fun _ => rfl
          · exact fun _ => rfl
        · rfl
  | configurePort slot tx rx =>
    unfold Conf.configurePort
    dsimp only
    rw [livePort_settings]
    cases conf.livePort slot with
    | none => rfl
    | some slot =>
      apply congrArg Except.ok
      symm
      apply modify_settings
      exact fun _ => rfl
  | adjustRxLevel slot adjLevel =>
    unfold Conf.adjustRxLevel
    dsimp only
    rw [livePort_settings]
    split
    · rfl
    · cases conf.livePort slot with
      | none => rfl
      | some slot =>
        apply congrArg Except.ok
        symm
        apply modify_settings
        exact fun _ => rfl
  | adjustTxLevel slot adjLevel =>
    unfold Conf.adjustTxLevel
    dsimp only
    rw [livePort_settings]
    split
    · rfl
    · cases conf.livePort slot with
      | none => rfl
      | some slot =>
        apply congrArg Except.ok
        symm
        apply modify_settings
        exact fun _ => rfl

theorem perform_settings (operation : Operation) :
    (conf.perform operation).settings = conf.settings.perform operation := by
  unfold Conf.perform
  rw [result_settings]
  cases conf.result operation <;> rfl

structure Alike (sink : Fin maxPorts) (first second : Conf maxPorts samples) : Prop where
  settings : first.settings = second.settings
  port : first.ports sink = second.ports sink

theorem Alike.call {sink : Fin maxPorts} {first second : Conf maxPorts samples} {topology other : Conference maxPorts}
    (alike : Alike sink first second) (firstCarries : Carries first topology) (secondCarries : Carries second other)
    (operation : Operation) : Alike sink (first.perform operation) (second.perform operation) := by
  have settings : (first.perform operation).settings = (second.perform operation).settings := by
    rw [perform_settings, perform_settings, alike.settings]
  refine ⟨settings, ?_⟩
  have atSink : ((first.perform operation).ports sink).map ConfPort.settings =
      ((second.perform operation).ports sink).map ConfPort.settings := congrFun (congrArg Conf.ports settings) sink
  have firstMixing := perform_mixing firstCarries operation sink
  have secondMixing := perform_mixing secondCarries operation sink
  rw [alike.port] at firstMixing
  cases firstHeld : (first.perform operation).ports sink with
  | none =>
    rw [firstHeld] at atSink
    exact (Option.map_eq_none_iff.mp atSink.symm).symm
  | some port =>
    rw [firstHeld, Option.map_some] at atSink
    obtain ⟨port', secondHeld, same⟩ := Option.map_eq_some_iff.mp atSink.symm
    rw [secondHeld]
    congr 1
    exact port_ext same.symm ((firstMixing port firstHeld).trans (secondMixing port' secondHeld).symm)

theorem Alike.tick {sink : Fin maxPorts} {first second : Conf maxPorts samples} {topology other : Conference maxPorts}
    (alike : Alike sink first second) (firstCarries : Carries first topology) (secondCarries : Carries second other)
    {left right : Received maxPorts samples} (agree : ∀ source, topology.Transmits source sink → left source = right source) :
    Alike sink (first.getFrame left).1 (second.getFrame right).1 ∧
      (first.getFrame left).2 sink = (second.getFrame right).2 sink := by
  obtain ⟨visited, listeners, offers⟩ := settings_eq alike.settings
  have contributions : first.contribution left sink = second.contribution right sink := by
    funext source
    unfold Conf.contribution
    rw [← listeners]
    split
    · rename_i listed
      rw [← offers]
      unfold Conf.offer
      rw [agree source ((firstCarries.listenersOf source sink).mp listed)]
    · rfl
  have frames : first.frames left sink = second.frames right sink := by
    rw [Conf.frames, Conf.frames, visited, contributions]
  have attack : first.attack = second.attack := by
    have rate : first.settings.clockRate = second.settings.clockRate := congrArg Conf.clockRate alike.settings
    exact congrArg (fun rate => UInt32.ofNat (rate / samples)) rate
  obtain ⟨firstPorts, firstPut⟩ := firstCarries.getFrame_port left sink
  obtain ⟨secondPorts, secondPut⟩ := secondCarries.getFrame_port right sink
  refine ⟨⟨?_, ?_⟩, ?_⟩
  · rw [firstCarries.getFrame_settings, secondCarries.getFrame_settings]
    exact alike.settings
  · rw [firstPorts, secondPorts, frames, attack, alike.port]
  · rw [firstPut, secondPut, frames, attack, alike.port]

inductive Paired (maxPorts samples : Nat)
  | call (operation : Operation)
  | tick (left right : Received maxPorts samples)

def Paired.left : Paired maxPorts samples → Event maxPorts samples
  | .call operation => .call operation
  | .tick left _ => .tick left

def Paired.right : Paired maxPorts samples → Event maxPorts samples
  | .call operation => .call operation
  | .tick _ right => .tick right

/-- What the sink is given along a run, until a tick without port 0. -/
def given (sink : Fin maxPorts) : Conf maxPorts samples → List (Event maxPorts samples) → List (Put samples)
  | _, [] => []
  | conf, .call operation :: rest => given sink (conf.perform operation) rest
  | conf, .tick received :: rest =>
    match conf.tick received with
    | none => []
    | some (after, put) => put sink :: given sink after rest

/-- At every tick the inputs agree on the slots that are connected to the sink then. -/
def AgreeOn (sink : Fin maxPorts) : Conference maxPorts → List (Paired maxPorts samples) → Prop
  | _, [] => True
  | topology, .call operation :: rest => AgreeOn sink (drawn topology operation) rest
  | topology, .tick left right :: rest =>
    (∀ source, topology.Transmits source sink → left source = right source) ∧ AgreeOn sink topology rest

theorem Alike.given {sink : Fin maxPorts} {first second : Conf maxPorts samples} {topology other : Conference maxPorts}
    (alike : Alike sink first second) (firstCarries : Carries first topology) (secondCarries : Carries second other)
    (events : List (Paired maxPorts samples)) (agree : AgreeOn sink topology events) :
    Bridge.given sink first (events.map Paired.left) = Bridge.given sink second (events.map Paired.right) := by
  induction events generalizing first second topology other with
  | nil => rfl
  | cons event rest ih =>
    cases event with
    | call operation =>
      exact ih (alike.call firstCarries secondCarries operation) (perform_carries firstCarries operation)
        (perform_carries secondCarries operation) agree
    | tick left right =>
      obtain ⟨after, put⟩ := alike.tick firstCarries secondCarries agree.1
      have rest := ih after (firstCarries.getFrame left) (secondCarries.getFrame right) agree.2
      have hub : first.livePort 0 = second.livePort 0 := by
        rw [← livePort_settings, alike.settings, livePort_settings]
      rw [List.map_cons, List.map_cons, Paired.left, Paired.right, Bridge.given, Bridge.given, Conf.tick, Conf.tick, hub]
      cases second.livePort 0 with
      | none => rfl
      | some slot => exact congrArg₂ List.cons put rest

def secretAfterMute : List (Paired 2 80) :=
  [.call .addPort, .call (.connectPort 1 0 0), .tick (fun _ => some fun _ => 100) (fun _ => some fun _ => 100),
    .call (.disconnectPort 1 0), .tick (fun _ => some fun _ => 7) (fun _ => some fun _ => -3000)]

end Isolation

end TiSIP.Pjmedia.Bridge
