import TiSIP.Audio.Drawing

namespace TiSIP.Audio

open Pjmedia Pjmedia.Bridge Pjsua Proxy Switchboard Transition

section Hub

variable {samples clockRate : Nat} {conf : Bridge.Conf maxConfPorts samples} {topology : Pjsua.Conf}

def tuning (port : Bridge.ConfPort maxConfPorts samples) : PortOp × PortOp × Int32 × Int32 :=
  (port.rxSetting, port.txSetting, port.rxAdjLevel, port.txAdjLevel)

/-- A bridge that only the module used: around port 0, with every setting as it was made, and no
    other port ever had two sources at once. -/
structure Plain (clockRate : Nat) (conf : Bridge.Conf maxConfPorts samples) (topology : Pjsua.Conf) : Prop where
  sane : Sane clockRate conf topology
  star : topology.board.Star 0
  tuned : ∀ slot port, conf.ports slot = some port → tuning port = (.enable, .enable, normalLevel, normalLevel)
  level : ∀ slot port, slot ≠ 0 → conf.ports slot = some port → port.lastMixAdj = normalLevel

theorem wires_of_module {operation : Operation} (allowed : ofModule operation) : Wires operation := by
  cases operation with
  | addPort | removePort port | connectPort srcSlot sinkSlot level | disconnectPort srcSlot sinkSlot => trivial
  | configurePort slot tx rx | adjustRxLevel slot level | adjustTxLevel slot level => exact allowed.elim

theorem drawn_star (star : topology.board.Star 0) {operation : Operation} (allowed : ofModule operation) :
    (drawn topology operation).board.Star 0 := by
  cases operation with
  | addPort =>
    unfold drawn
    cases added : topology.addPort with
    | error error => exact star
    | ok result =>
      obtain ⟨after, slot⟩ := result
      have board : after.board = topology.board.plug slot := (Conference.board_addPort added).2
      have same : (topology.kept ((Except.ok (after, slot) : Except PjError (Pjsua.Conf × Fin maxConfPorts)).map
          Prod.fst)).board = topology.board.plug slot := board
      rw [same]
      exact star
  | removePort port =>
    rcases slotOf_none_or port maxConfPorts with outside | ⟨slot, rfl⟩
    · have kept : drawn topology (.removePort port) = topology := by
        unfold drawn Conference.removePort
        dsimp only
        rw [outside]
        rfl
      rw [kept]
      exact star
    · have board : (drawn topology (.removePort slot.val)).board = topology.board.unplug slot :=
        topology.board_removePort slot
      rw [board]
      exact star_of_fewer star fun _ _ kept => kept.1
  | disconnectPort srcSlot sinkSlot =>
    cases found : topology.ends srcSlot sinkSlot with
    | none =>
      have kept : drawn topology (.disconnectPort srcSlot sinkSlot) = topology := by
        unfold drawn
        dsimp only
        rw [Conference.disconnectPort_refused found]
        rfl
      rw [kept]
      exact star
    | some ends =>
      obtain ⟨⟨source, srcPort⟩, sink⟩ := ends
      obtain ⟨rfl, rfl, _, _⟩ := Conference.ends_eq_some.mp found
      have board : (drawn topology (.disconnectPort source.val sink.val)).board = topology.board.disconnect source sink :=
        topology.board_disconnectPort source sink
      rw [board]
      exact star_of_fewer star fun _ _ kept => kept.1
  | connectPort srcSlot sinkSlot level =>
    obtain ⟨rfl, hub⟩ := allowed
    cases found : topology.ends srcSlot sinkSlot with
    | none =>
      have kept : drawn topology (.connectPort srcSlot sinkSlot 0) = topology := by
        unfold drawn
        dsimp only
        rw [Conference.connectPort_refused found]
        rfl
      rw [kept]
      exact star
    | some ends =>
      obtain ⟨⟨source, srcPort⟩, sink⟩ := ends
      obtain ⟨rfl, rfl, _, _⟩ := Conference.ends_eq_some.mp found
      have board : (drawn topology (.connectPort source.val sink.val 0)).board = topology.board.connect source sink :=
        topology.board_connectPort source sink
      rw [board]
      apply star_connect star
      exact hub.imp (fun zero => Fin.ext (Int.ofNat.inj zero)) fun zero => Fin.ext (Int.ofNat.inj zero)
  | configurePort slot tx rx | adjustRxLevel slot level | adjustTxLevel slot level => exact allowed.elim

theorem Plain.call (plain : Plain clockRate conf topology) {operation : Operation} (allowed : ofModule operation) :
    Plain clockRate (conf.perform operation) (drawn topology operation) := by
  refine ⟨plain.sane.call operation, drawn_star plain.star allowed, ?_, ?_⟩
  · intro slot port held
    have tuned := wiring_keeps tuning plain.sane.carries (wires_of_module allowed) (fun _ _ => rfl) (fun _ _ => rfl)
      slot port held
    rw [tuned]
    cases old : conf.ports slot with
    | none => rfl
    | some port => exact plain.tuned slot port old
  · intro slot port other held
    rw [perform_last plain.sane.carries held]
    cases old : conf.ports slot with
    | none => rfl
    | some port => exact plain.level slot port other old

theorem Plain.sources (plain : Plain clockRate conf topology) {slot : Fin maxConfPorts} (other : slot ≠ 0) :
    topology.board.sources slot ⊆ {0} := by
  intro source linked
  rw [Switchboard.mem_sources] at linked
  rw [Finset.mem_singleton]
  exact (plain.star source slot linked).resolve_right other

theorem Plain.few (plain : Plain clockRate conf topology) {slot : Fin maxConfPorts}
    {port : Bridge.ConfPort maxConfPorts samples} (other : slot ≠ 0) (held : conf.ports slot = some port) :
    port.transmitterCnt = 0 ∨ port.transmitterCnt = 1 := by
  have most := Finset.card_le_card (plain.sources other)
  rw [Finset.card_singleton] at most
  have counted := plain.sane.carries.transmitters slot port held
  omega

theorem Plain.enabled (plain : Plain clockRate conf topology) {slot : Fin maxConfPorts}
    {port : Bridge.ConfPort maxConfPorts samples} (held : conf.ports slot = some port) :
    port.rxSetting = .enable ∧ port.txSetting = .enable ∧ port.rxAdjLevel = normalLevel ∧
      port.txAdjLevel = normalLevel := by
  have tuned := plain.tuned slot port held
  exact ⟨congrArg (fun tuning => tuning.1) tuned, congrArg (fun tuning => tuning.2.1) tuned,
    congrArg (fun tuning => tuning.2.2.1) tuned, congrArg (fun tuning => tuning.2.2.2) tuned⟩

theorem maxConfPorts_few : maxConfPorts < 2 ^ 16 := by decide

theorem handed_other {slot : Fin maxConfPorts} (other : slot ≠ 0) (put : Put samples) : put.handed slot = put :=
  if_neg fun zero => other (Fin.ext zero)

theorem Plain.alone (plain : Plain clockRate conf topology) (slow : clockRate < 2 ^ 24)
    (received : Received maxConfPorts samples) {slot : Fin maxConfPorts} {port : Bridge.ConfPort maxConfPorts samples}
    (other : slot ≠ 0) (held : conf.ports slot = some port) (one : port.transmitterCnt = 1) :
    ∃ after frame, (conf.getFrame received).1.ports slot = some after ∧ after.lastMixAdj = normalLevel ∧
      (conf.getFrame received).2 slot = .audio frame ∧
      ∀ k, (frame k).toInt = mixOf topology conf received slot fun offered => (offered k).toInt := by
  obtain ⟨_, txSetting, _, txAdjLevel⟩ := plain.enabled held
  have transmitting : port.transmitterCnt ≠ 0 := by omega
  have carries := plain.sane.carries
  obtain ⟨after, put, found, handed, heard⟩ := carries.getFrame_heard received maxConfPorts_few (plain.sane.slow slow)
    held txSetting txAdjLevel (plain.sane.levels slot port held) transmitting
  have full : after.lastMixAdj = normalLevel := by
    rcases heard.recovers (.inr one) with normal | rises
    · exact normal
    · have top := heard.level.2
      have before : port.lastMixAdj.toInt = 128 := by
        rw [plain.level slot port other held]
        decide
      omega
  obtain ⟨frame, rfl, sample⟩ := heard.audio
  refine ⟨after, frame, found, full, handed.trans (handed_other other _), ?_⟩
  intro k
  have scale : after.lastMixAdj.toInt = 128 := by
    rw [full]
    decide
  rw [sample, scale, total, carries.sum_frames, mixOf]
  omega

theorem ticked_silent {attack : UInt32} {frames : List (Frame samples)} {port : Bridge.ConfPort maxConfPorts samples}
    (silent : port.transmitterCnt = 0) :
    (port.ticked attack frames).1.lastMixAdj = port.lastMixAdj ∧ (port.ticked attack frames).2 = .heartBeat := by
  have last := mixFrames_last frames port.resetMix
  have count : (frames.foldl (fun port frame => port.mixIn frame) port.resetMix).transmitterCnt = 0 :=
    (congrArg Bridge.ConfPort.transmitterCnt (mixFrames_settings frames port.resetMix)).trans silent
  unfold ConfPort.ticked ConfPort.writePort
  rw [if_pos (.inr count)]
  exact ⟨last, rfl⟩

theorem Plain.tick (plain : Plain clockRate conf topology) (slow : clockRate < 2 ^ 24)
    (received : Received maxConfPorts samples) : Plain clockRate (conf.getFrame received).1 topology := by
  have carries := plain.sane.carries
  have ports := fun slot => (carries.getFrame_port received slot).1
  refine ⟨plain.sane.tick maxConfPorts_few slow received, plain.star, ?_, ?_⟩
  · intro slot port held
    rw [ports, Option.map_eq_some_iff] at held
    obtain ⟨old, oldHeld, rfl⟩ := held
    have settings := settings_ticked conf.attack (conf.frames received slot) old
    exact (congrArg tuning settings).trans (plain.tuned slot old oldHeld)
  · intro slot port other held
    have found := held
    rw [ports, Option.map_eq_some_iff] at held
    obtain ⟨old, oldHeld, rfl⟩ := held
    rcases plain.few other oldHeld with none | one
    · rw [(ticked_silent none).1]
      exact plain.level slot old other oldHeld
    · obtain ⟨after, _, afterFound, full, _⟩ := plain.alone slow received other oldHeld one
      rw [found] at afterFound
      rw [Option.some.inj afterFound]
      exact full

theorem Plain.offer (plain : Plain clockRate conf topology) (received : Received maxConfPorts samples)
    {source sink : Fin maxConfPorts} (linked : topology.Transmits source sink) :
    conf.offer received source = received source := by
  have carries := plain.sane.carries
  have live : topology.ports.Live source := (topology.board.grounded _ _ linked).1
  obtain ⟨port, held⟩ := Option.isSome_iff_exists.mp ((carries.live source).mpr live)
  obtain ⟨rxSetting, _, rxAdjLevel, _⟩ := plain.enabled held
  have listed : sink ∈ port.listenerSlots := by
    have lists := (carries.listenersOf source sink).mpr linked
    rwa [Conf.listenersOf, held] at lists
  have enabled : ¬ port.rxSetting = .disable := by
    rw [rxSetting]
    decide
  rw [Conf.offer, held, Option.bind_some, if_neg enabled, if_neg (List.ne_nil_of_mem listed),
    adjustRx_normal rxAdjLevel, Option.map_id]
  rfl

theorem Plain.given (plain : Plain clockRate conf topology) (slow : clockRate < 2 ^ 24)
    (received : Received maxConfPorts samples) {slot : Fin maxConfPorts} (other : slot ≠ 0)
    (live : topology.ports.Live slot) :
    (conf.getFrame received).2 slot =
      if topology.Transmits 0 slot then .audio ((received 0).getD fun _ => 0) else .heartBeat := by
  have carries := plain.sane.carries
  obtain ⟨port, held⟩ := Option.isSome_iff_exists.mp ((carries.live slot).mpr live)
  have counted := carries.transmitters slot port held
  split
  · rename_i linked
    have sources : topology.board.sources slot = {0} := by
      apply Finset.Subset.antisymm (plain.sources other)
      rw [Finset.singleton_subset_iff, Switchboard.mem_sources]
      exact linked
    have one : port.transmitterCnt = 1 := by
      rw [counted, sources, Finset.card_singleton]
      rfl
    obtain ⟨_, frame, _, _, put, sample⟩ := plain.alone slow received other held one
    rw [put]
    congr 1
    funext k
    apply Int16.toInt_inj.mp
    rw [sample, mixOf, sources, Finset.sum_singleton]
    rw [plain.offer received linked]
    cases received 0 with
    | none => rfl
    | some frame => rfl
  · rename_i unlinked
    have none : port.transmitterCnt = 0 := by
      have empty : topology.board.sources slot = ∅ := by
        rw [Finset.eq_empty_iff_forall_notMem]
        intro source member
        have hub := Finset.mem_singleton.mp (plain.sources other member)
        subst hub
        exact unlinked (topology.board.mem_sources.mp member)
      rw [counted, empty, Finset.card_empty]
      rfl
    rw [(carries.getFrame_port received slot).2, held]
    exact (handed_other other _).trans (ticked_silent none).2

theorem Plain.speaker (plain : Plain clockRate conf topology) (brief : samples < 2 ^ 16) (slow : clockRate < 2 ^ 24)
    (received : Received maxConfPorts samples) (linked : ∃ source, topology.Transmits source 0) :
    ∃ (frame : Frame samples) (level : Int), 0 ≤ level ∧ level ≤ 128 ∧
      (∀ k, (frame k).toInt =
        (∑ source ∈ topology.board.sources 0, (received source).elim 0 fun heard => (heard k).toInt) * level / 128) ∧
      (conf.getFrame received).2 0 = if Faint frame then .heartBeat else .audio frame := by
  have carries := plain.sane.carries
  obtain ⟨first, firstLinked⟩ := linked
  obtain ⟨port, held⟩ := Option.isSome_iff_exists.mp ((carries.live 0).mpr (topology.board.grounded _ _ firstLinked).2)
  obtain ⟨_, txSetting, _, txAdjLevel⟩ := plain.enabled held
  have transmitting : port.transmitterCnt ≠ 0 := by
    have counted := carries.transmitters 0 port held
    have some : 0 < (topology.board.sources 0).card :=
      Finset.card_pos.mpr ⟨first, topology.board.mem_sources.mpr firstLinked⟩
    omega
  obtain ⟨after, _, _, handed, heard⟩ := carries.getFrame_heard received maxConfPorts_few (plain.sane.slow slow) held
    txSetting txAdjLevel (plain.sane.levels 0 port held) transmitting
  obtain ⟨frame, rfl, sample⟩ := heard.audio
  refine ⟨frame, _, heard.level.1, heard.level.2, ?_, ?_⟩
  · intro k
    rw [sample, total, carries.sum_frames]
    congr 2
    apply Finset.sum_congr rfl
    intro source member
    rw [plain.offer received (topology.board.mem_sources.mp member)]
  · rw [handed, handed_audio brief]
    simp

end Hub

section Joint

variable {State Label : Type*} {samples : Nat}

def calls (events : List (Event maxConfPorts samples)) : List Operation :=
  events.filterMap fun event =>
    match event with
    | .call operation => some operation
    | .tick _ => none

/-- A step of the module over a running bridge: the bridge makes the operations that the step draws,
    and the sound device ticks before, between and after them as it likes. A tick that crashes ends the run. -/
inductive Sounded (samples : Nat) (step : State → Label → State → Prop) (confOf : State → Pjsua.Conf) :
    State × Bridge.Conf maxConfPorts samples → Label → State × Bridge.Conf maxConfPorts samples → Prop
  | made {before after : State} {label : Label} {bridge : Bridge.Conf maxConfPorts samples}
      (stepped : step before label after) (events : List (Event maxConfPorts samples))
      (allowed : ∀ operation ∈ calls events, ofModule operation)
      (drew : runFrom drawn (confOf before) (calls events) = confOf after)
      {ticked : Bridge.Conf maxConfPorts samples} (ran : events.foldlM Conf.react bridge = some ticked) :
      Sounded samples step confOf (before, bridge) label (after, ticked)

variable {step : State → Label → State → Prop} {confOf : State → Pjsua.Conf} {clockRate : Nat}

theorem Plain.react {conf after : Bridge.Conf maxConfPorts samples} {topology : Pjsua.Conf}
    (plain : Plain clockRate conf topology) (slow : clockRate < 2 ^ 24) {events : List (Event maxConfPorts samples)}
    (allowed : ∀ operation ∈ calls events, ofModule operation) (ran : events.foldlM Conf.react conf = some after) :
    Plain clockRate after (runFrom drawn topology (calls events)) := by
  induction events generalizing conf topology with
  | nil =>
    cases ran
    exact plain
  | cons event rest ih =>
    obtain ⟨middle, reacted, ranRest⟩ := foldlM_cons_eq_some.mp ran
    cases event with
    | call operation =>
      cases reacted
      exact ih (plain.call (allowed operation List.mem_cons_self)) (fun other member =>
        allowed other (List.mem_cons_of_mem _ member)) ranRest
    | tick received =>
      rw [react_tick reacted] at ranRest
      exact ih (plain.tick slow received) allowed ranRest

theorem create_plain (clockRate : Nat) :
    Plain clockRate (Conf.create clockRate : Bridge.Conf maxConfPorts samples) startConf := by
  have sane : Sane clockRate (Conf.create clockRate : Bridge.Conf maxConfPorts samples) blank := create_sane clockRate
  refine ⟨sane, ?_, ?_, ?_⟩
  · rintro source sink ⟨port, held, member⟩
    rcases SlotTable.put_eq_some.mp held with ⟨_, rfl⟩ | ⟨_, impossible⟩
    · cases member
    · cases impossible
  · intro slot port held
    rcases SlotTable.put_eq_some.mp held with ⟨_, rfl⟩ | ⟨_, impossible⟩
    · rfl
    · cases impossible
  · intro slot port _ held
    rcases SlotTable.put_eq_some.mp held with ⟨_, rfl⟩ | ⟨_, impossible⟩
    · rfl
    · cases impossible

structure Holding (samples clockRate : Nat) (confOf : State → Pjsua.Conf) (Holds : State → Prop)
    (joint : State × Bridge.Conf maxConfPorts samples) : Prop where
  state : Holds joint.1
  bridge : Plain clockRate joint.2 (confOf joint.1)

theorem Sounded.invariant {start final : State} {bridge : Bridge.Conf maxConfPorts samples} {labels : List Label}
    (Holds : State → Prop) (slow : clockRate < 2 ^ 24) (begins : confOf start = startConf) (initial : Holds start)
    (preserved : ∀ before label after, Holds before → step before label after → Holds after)
    (run : Execution (Sounded samples step confOf) (start, Conf.create clockRate) labels (final, bridge)) :
    Holding samples clockRate confOf Holds (final, bridge) := by
  apply run.invariant
  · intro before label after holds moved
    cases moved with
    | made stepped events allowed drew ran =>
      have plain := holds.bridge.react slow allowed ran
      rw [drew] at plain
      exact ⟨preserved _ _ _ holds.state stepped, plain⟩
  · refine ⟨initial, ?_⟩
    rw [begins]
    exact create_plain clockRate

theorem foldlM_calls (bridge : Bridge.Conf maxConfPorts samples) (operations : List Operation) :
    (operations.map Event.call).foldlM Conf.react bridge = some (runFrom Conf.perform bridge operations) := by
  induction operations generalizing bridge with
  | nil => rfl
  | cons operation rest ih => exact ih (bridge.perform operation)

theorem sounded_of_run {start final : State} {labels : List Label}
    (redraws : ∀ before label after, step before label after → Redrawn (confOf before) (confOf after))
    (run : Execution step start labels final) (bridge : Bridge.Conf maxConfPorts samples) :
    ∃ after, Execution (Sounded samples step confOf) (start, bridge) labels (final, after) := by
  induction run with
  | stop => exact ⟨bridge, .stop⟩
  | @next labels before after label _ moved previous =>
    obtain ⟨middle, earlier⟩ := previous
    obtain ⟨operations, allowed, drew⟩ := redraws before label after moved
    have same : calls (operations.map fun operation => (.call operation : Event maxConfPorts samples)) = operations := by
      rw [calls, List.filterMap_map]
      exact List.filterMap_some
    have next : Sounded samples step confOf (before, middle) label (after, _) :=
      .made moved (operations.map .call) (same.symm ▸ allowed) (same.symm ▸ drew.symm) (foldlM_calls middle operations)
    exact ⟨_, earlier.next next⟩

end Joint

section Heard

variable {samples clockRate : Nat}

/-- In any run that keeps the wiring, over any bridge that the module alone uses, the next tick does
    not crash once a call reports active audio and was not muted or hung up: it sends the call the
    microphone as it is, and the speaker the sum of what is connected to it, that call's audio among
    it, or no frame where that sum is faint. -/
theorem active_call_hears {history : List BridgeEvent} {state : BridgeState} {bridge : Bridge.Conf maxConfPorts samples}
    (brief : samples < 2 ^ 16) (slow : clockRate < 2 ^ 24)
    (run : Execution (Sounded samples (guarded BridgeStep KeepsWiring) fun state => state.var.conf)
      (startBridge, Conf.create clockRate) history (state, bridge))
    (received : Received maxConfPorts samples) {index : Fin maxCalls} {leftover : CallInfo}
    (live : (state.var.calls index).Live) (untouched : state.touched index = false)
    (active : (callGetInfo state.var index.val leftover).2.mediaStatus = .active) :
    ∃ (slot : Fin maxConfPorts) (after : Bridge.Conf maxConfPorts samples) (given : Fin maxConfPorts → Put samples),
      (callGetInfo state.var index.val leftover).2.confSlot = slot.val ∧ bridge.tick received = some (after, given) ∧
      given slot = .audio ((received 0).getD fun _ => 0) ∧
      ∃ (frame : Frame samples) (level : Int) (heard : Finset (Fin maxConfPorts)),
        slot ∈ heard ∧ (∀ source, source ∈ heard ↔ state.var.conf.Transmits source 0) ∧ 0 ≤ level ∧ level ≤ 128 ∧
        (∀ k, (frame k).toInt =
          (∑ source ∈ heard, (received source).elim 0 fun samples => (samples k).toInt) * level / 128) ∧
        given 0 = if Faint frame then .heartBeat else .audio frame := by
  obtain ⟨invariant, plain⟩ := Sounded.invariant (BridgeInvariant True) slow rfl (startBridge_invariant True)
    (fun _ _ _ before stepped => bridgeStep_invariant before (fun _ => stepped.1) stepped.2) run
  obtain ⟨status, confSlot⟩ := callGetInfo_live leftover live
  rw [status] at active
  rw [confSlot]
  unfold Call.audioInfo at active ⊢
  cases selected : (state.var.calls index).channel.audioIdx with
  | none =>
    rw [selected] at active
    cases active
  | some mi =>
    rw [selected] at active
    obtain ⟨slot, held, toHub, fromHub⟩ := invariant.wired trivial index untouched mi selected active
    have seated : seats state.var.calls (index, mi) = some slot := held
    have other := invariant.sound.seated.notHub _ _ seated
    have given := plain.given slow received other (state.var.conf.board.grounded _ _ toHub).1
    obtain ⟨frame, level, low, high, sample, put⟩ := plain.speaker brief slow received ⟨slot, toHub⟩
    have hub : (bridge.livePort 0).isSome := by
      have live := (state.var.conf.board.grounded _ _ toHub).2
      rw [show (0 : Int) = (0 : Fin maxConfPorts).val from rfl, plain.sane.carries.livePort 0 live]
      rfl
    refine ⟨slot, _, _, seatOf_eq_some.mp held, tick_eq_some.mpr ⟨hub, rfl⟩, given.trans (if_pos fromHub), frame, level, _,
      ?_, ?_, low, high, sample, put⟩
    · exact state.var.conf.board.mem_sources.mpr toHub
    · exact fun source => state.var.conf.board.mem_sources

def steady : Received maxConfPorts 320 := fun _ => some fun k => if k.val % 2 = 0 then 1000 else -1000

theorem answered_call_hears :
    ∃ (state : BridgeState) (bridge after : Bridge.Conf maxConfPorts 320) (slot : Fin maxConfPorts)
      (given : Fin maxConfPorts → Put 320),
      Execution (Sounded 320 (guarded BridgeStep KeepsWiring) fun state => state.var.conf)
        (startBridge, Conf.create 16000) answeredCall (state, bridge) ∧
      (callGetInfo state.var 0 .zero).2.confSlot = slot.val ∧ bridge.tick steady = some (after, given) ∧
      given slot = .audio fun k => if k.val % 2 = 0 then 1000 else -1000 := by
  have reported : (answeredCall.foldlM bridgeStep startBridge).any fun state =>
      (state.var.calls 0).Live ∧ state.touched 0 = false ∧
        (callGetInfo state.var 0 .zero).2.mediaStatus = .active := by decide
  obtain ⟨state, ended, facts⟩ := (Option.any_eq_true _ _).mp reported
  obtain ⟨live, untouched, active⟩ := of_decide_eq_true facts
  have run : Execution (guarded BridgeStep KeepsWiring) startBridge answeredCall state := by
    apply (Execution.of_foldlM bridgeStep answeredCall ended).guarded
    intro event member before
    simp only [answeredCall, List.mem_cons, List.not_mem_nil, or_false] at member
    rcases member with rfl | rfl | rfl | rfl
    · exact fun _ => trivial
    · exact fun _ => trivial
    · exact fun _ => rfl
    · exact fun _ => trivial
  obtain ⟨bridge, sounded⟩ := sounded_of_run
    (fun _ _ _ stepped => bridgeStep_redrawn stepped.2) run (Conf.create 16000 : Bridge.Conf maxConfPorts 320)
  obtain ⟨slot, after, given, named, ticked, hears, _⟩ :=
    active_call_hears (by decide) (by decide) sounded steady live untouched active
  exact ⟨state, bridge, after, slot, given, sounded, named, ticked, hears⟩

/-- A muted call is sent no sound, over any bridge that the module alone uses and whatever the
    bridge receives, in every run that keeps muted calls muted. -/
theorem muted_call_silenced {history : List MuteEvent} {state : MuteState} {bridge : Bridge.Conf maxConfPorts samples}
    (slow : clockRate < 2 ^ 24)
    (run : Execution (Sounded samples (guarded MuteStep KeepsMute) fun state => state.var.conf)
      (startMute, Conf.create clockRate) history (state, bridge))
    {received : Received maxConfPorts samples} {after : Bridge.Conf maxConfPorts samples}
    {given : Fin maxConfPorts → Put samples} (ticked : bridge.tick received = some (after, given)) {index : Fin maxCalls} {slot : Fin maxConfPorts}
    (muted : state.muted index = true) (current : CurrentSlot state.var index slot) :
    given slot = .heartBeat := by
  obtain ⟨invariant, plain⟩ := Sounded.invariant MuteInvariant slow rfl startMute_invariant
    (fun _ _ _ before stepped => muteStep_invariant before stepped.1 stepped.2) run
  have unheard := invariant.persists index slot muted current
  obtain ⟨mi, _, held⟩ := current
  have seated : seats state.var.calls (index, mi) = some slot := held
  have other := invariant.sound.seated.notHub _ _ seated
  have live := invariant.sound.seated.plugged _ _ seated
  have silent := plain.given slow received other live
  rw [(tick_eq_some.mp ticked).2, if_neg unheard] at silent
  exact silent

theorem muted_call_sends_nothing :
    ∃ (state : MuteState) (bridge after : Bridge.Conf maxConfPorts 320) (given : Fin maxConfPorts → Put 320),
      Execution (Sounded 320 (guarded MuteStep KeepsMute) fun state => state.var.conf)
        (startMute, Conf.create 16000) mutedCall (state, bridge) ∧
      CurrentSlot state.var 0 1 ∧ bridge.tick steady = some (after, given) ∧ given 1 = .heartBeat := by
  have ran : (mutedCall.foldlM (fun state event => if KeepsMute state event then muteStep state event else none)
      startMute).any fun state => state.muted 0 = true ∧ (state.var.calls 0).channel.audioIdx = some 0 ∧
        seatOf ((state.var.calls 0).channel.media 0) = some 1 ∧ state.var.conf.ports.Live 0 := by decide
  obtain ⟨state, ended, facts⟩ := (Option.any_eq_true _ _).mp ran
  obtain ⟨muted, selected, held, hub⟩ := of_decide_eq_true facts
  have run := Execution.guarded_of_foldlM muteStep KeepsMute mutedCall ended
  obtain ⟨bridge, sounded⟩ := sounded_of_run
    (fun _ _ _ stepped => muteStep_redrawn stepped.2) run (Conf.create 16000 : Bridge.Conf maxConfPorts 320)
  obtain ⟨_, plain⟩ := Sounded.invariant MuteInvariant (by decide) rfl startMute_invariant
    (fun _ _ _ before stepped => muteStep_invariant before stepped.1 stepped.2) sounded
  have live : (bridge.livePort 0).isSome := by
    rw [show (0 : Int) = (0 : Fin maxConfPorts).val from rfl, plain.sane.carries.livePort 0 hub]
    rfl
  have ticked : bridge.tick steady = some (bridge.getFrame steady) := tick_eq_some.mpr ⟨live, rfl⟩
  have current : CurrentSlot state.var 0 1 := ⟨0, selected, held⟩
  exact ⟨state, bridge, _, _, sounded, current, ticked, muted_call_silenced (by decide) sounded ticked muted current⟩

end Heard

end TiSIP.Audio
