import Mathlib.Data.Set.Card
import TiSIP.Lib.Patchbay
import TiSIP.Lib.Transition
import TiSIP.Pjmedia.Conference

namespace TiSIP.Pjmedia.Bridge

open Pjsua

scoped instance lawfulSlots (maxPorts : Nat) : LawfulBEq (Fin maxPorts) := inferInstance

/-- `pjmedia_port_op`; `PJMEDIA_PORT_NO_CHANGE` is `none` where a caller can give it. -/
inductive PortOp
  | disable
  | mute
  | enable
  deriving DecidableEq

abbrev normalLevel : Int32 := 128

/-- `conf_port`, for a port with the clock rate, frame size and channels of the bridge. -/
structure ConfPort (maxPorts samples : Nat) where
  rxSetting : PortOp
  txSetting : PortOp
  listenerSlots : List (Fin maxPorts)
  /-- An `Int`, as the other counts of the bridge, so that a count that ran below zero would show. -/
  transmitterCnt : Int
  txAdjLevel : Int32
  rxAdjLevel : Int32
  mixAdj : Int32
  lastMixAdj : Int32
  mixBuf : Fin samples → Int32

structure Conf (maxPorts samples : Nat) where
  ports : SlotTable maxPorts (ConfPort maxPorts samples)
  portCnt : Int
  connectCnt : Int
  clockRate : Nat

section Operations

variable {maxPorts samples : Nat}

def createConfPort : ConfPort maxPorts samples where
  rxSetting := .enable
  txSetting := .enable
  listenerSlots := []
  transmitterCnt := 0
  txAdjLevel := normalLevel
  rxAdjLevel := normalLevel
  mixAdj := 0
  lastMixAdj := normalLevel
  mixBuf := fun _ => 0

def Conf.create [NeZero maxPorts] (clockRate : Nat) : Conf maxPorts samples where
  ports := SlotTable.empty.put 0 createConfPort
  portCnt := 1
  connectCnt := 0
  clockRate

def Conf.livePort (conf : Conf maxPorts samples) (slot : Int) : Option (Fin maxPorts) :=
  (SlotTable.slotOf maxPorts slot).filter fun slot => conf.ports.Live slot

def Conf.addPort (conf : Conf maxPorts samples) : Except PjError (Conf maxPorts samples × Fin maxPorts) :=
  if conf.portCnt ≥ maxPorts then .error .etoomany
  else
    match conf.ports.lowestFree with
    | none => .error .ebug -- `pj_assert(index != conf->max_ports)`
    | some index => .ok ({ conf with ports := conf.ports.put index createConfPort, portCnt := conf.portCnt + 1 }, index)

def Conf.configurePort (conf : Conf maxPorts samples) (slot : Int) (tx rx : Option PortOp) :
    Except PjError (Conf maxPorts samples) :=
  match conf.livePort slot with
  | none => .error .einval
  | some slot => .ok { conf with
      ports := conf.ports.modify slot fun port =>
        { port with txSetting := tx.getD port.txSetting, rxSetting := rx.getD port.rxSetting } }

def Conf.lists (conf : Conf maxPorts samples) (source sink : Fin maxPorts) : Bool :=
  (conf.ports source).any fun srcPort => sink ∈ srcPort.listenerSlots

def ConfPort.transmitterAdded (port : ConfPort maxPorts samples) : ConfPort maxPorts samples :=
  { port with transmitterCnt := port.transmitterCnt + 1 }

def ConfPort.transmitterLost (port : ConfPort maxPorts samples) : ConfPort maxPorts samples :=
  { port with transmitterCnt := port.transmitterCnt - 1 }

def Conf.connectPort (conf : Conf maxPorts samples) (srcSlot sinkSlot level : Int) :
    Except PjError (Conf maxPorts samples) :=
  if level ≠ 0 then .error .einval
  else
    match conf.livePort srcSlot, conf.livePort sinkSlot with
    | some source, some sink =>
      if conf.lists source sink then .ok conf
      else
        let ports := conf.ports.modify source fun srcPort =>
          { srcPort with listenerSlots := srcPort.listenerSlots ++ [sink] }
        .ok { conf with
          ports := ports.modify sink ConfPort.transmitterAdded
          connectCnt := conf.connectCnt + 1 }
    | _, _ => .error .einval

def ConfPort.without (removed : Fin maxPorts) (port : ConfPort maxPorts samples) : ConfPort maxPorts samples :=
  { port with listenerSlots := port.listenerSlots.erase removed }

def Conf.disconnectPort (conf : Conf maxPorts samples) (srcSlot sinkSlot : Int) :
    Except PjError (Conf maxPorts samples) :=
  match conf.livePort srcSlot, conf.livePort sinkSlot with
  | some source, some sink =>
    if conf.lists source sink then
      let ports := conf.ports.modify source (ConfPort.without sink)
      .ok { conf with
        ports := ports.modify sink ConfPort.transmitterLost
        connectCnt := conf.connectCnt - 1 }
    else .ok conf
  | _, _ => .error .einval

def Conf.forgetListener (removed : Fin maxPorts) (conf : Conf maxPorts samples) (source : Fin maxPorts) :
    Conf maxPorts samples :=
  if conf.lists source removed then
    { conf with ports := conf.ports.modify source (ConfPort.without removed), connectCnt := conf.connectCnt - 1 }
  else conf

def Conf.forgetTransmitter (conf : Conf maxPorts samples) (dst : Fin maxPorts) : Conf maxPorts samples :=
  { conf with ports := conf.ports.modify dst ConfPort.transmitterLost, connectCnt := conf.connectCnt - 1 }

def Conf.listenersOf (conf : Conf maxPorts samples) (slot : Fin maxPorts) : List (Fin maxPorts) :=
  match conf.ports slot with
  | none => []
  | some port => port.listenerSlots

def Conf.dropPort (conf : Conf maxPorts samples) (removed : Fin maxPorts) : Conf maxPorts samples :=
  let conf := (List.finRange maxPorts).foldl (forgetListener removed) conf
  -- The loop takes the listeners from the last to the first.
  let conf := (conf.listenersOf removed).reverse.foldl forgetTransmitter conf
  { conf with ports := conf.ports.clear removed, portCnt := conf.portCnt - 1 }

def Conf.removePort (conf : Conf maxPorts samples) (port : Int) : Except PjError (Conf maxPorts samples) :=
  match conf.livePort port with
  | none => .error .einval
  | some removed => .ok (conf.dropPort removed)

def Conf.adjustRxLevel (conf : Conf maxPorts samples) (slot : Int) (adjLevel : Int32) :
    Except PjError (Conf maxPorts samples) :=
  if adjLevel < -128 then .error .einval
  else
    match conf.livePort slot with
    | none => .error .einval
    | some slot => .ok { conf with
        ports := conf.ports.modify slot fun port => { port with rxAdjLevel := adjLevel + normalLevel } }

def Conf.adjustTxLevel (conf : Conf maxPorts samples) (slot : Int) (adjLevel : Int32) :
    Except PjError (Conf maxPorts samples) :=
  if adjLevel < -128 then .error .einval
  else
    match conf.livePort slot with
    | none => .error .einval
    | some slot => .ok { conf with
        ports := conf.ports.modify slot fun port => { port with txAdjLevel := adjLevel + normalLevel } }

end Operations

/-- Two results of one call: both succeed with related values, or both fail alike. -/
def Agrees {Left Right : Type*} (related : Left → Right → Prop) : Except PjError Left → Except PjError Right → Prop
  | .ok left, .ok right => related left right
  | .error left, .error right => left = right
  | _, _ => False

def ConfPort.listeners {maxPorts samples : Nat} (port : ConfPort maxPorts samples) : Pjmedia.ConfPort maxPorts where
  listenerSlots := port.listenerSlots

/-- The bridge has the ports and connections of the topology and counts them. -/
structure Carries {maxPorts samples : Nat} (conf : Conf maxPorts samples) (topology : Conference maxPorts) : Prop where
  listening : ∀ slot, (conf.ports slot).map ConfPort.listeners = topology.ports slot
  transmitters : ∀ slot port, conf.ports slot = some port →
    port.transmitterCnt = (topology.board.sources slot).card
  connections : conf.connectCnt = topology.board.links.card
  filled : conf.portCnt = topology.board.plugged.ncard

section Lookup

variable {maxPorts samples : Nat} {conf : Conf maxPorts samples} {topology : Conference maxPorts}

theorem Carries.port {slot : Fin maxPorts} {port : Pjmedia.ConfPort maxPorts} (carries : Carries conf topology)
    (held : topology.ports slot = some port) :
    ∃ full, conf.ports slot = some full ∧ full.listenerSlots = port.listenerSlots := by
  rw [← carries.listening slot, Option.map_eq_some_iff] at held
  obtain ⟨full, found, rfl⟩ := held
  exact ⟨full, found, rfl⟩

theorem Carries.live (carries : Carries conf topology) (slot : Fin maxPorts) :
    conf.ports.Live slot ↔ topology.ports.Live slot := by
  unfold SlotTable.Live
  rw [← carries.listening slot, Option.isSome_map]

theorem Carries.livePort (carries : Carries conf topology) (slot : Fin maxPorts)
    (live : topology.ports.Live slot) : conf.livePort slot.val = some slot := by
  have here := (carries.live slot).mpr live
  simp [Conf.livePort, here]

theorem Carries.dead (carries : Carries conf topology) {slot : Int}
    (dead : ∀ found : Fin maxPorts, slot = found.val → ¬ topology.ports.Live found) : conf.livePort slot = none := by
  rw [Conf.livePort, Option.filter_eq_none_iff]
  intro found named here
  have same : slot = found.val := SlotTable.slotOf_eq_some.mp named
  exact dead found same ((carries.live found).mp (by simpa using here))

theorem Carries.lists (carries : Carries conf topology) (source sink : Fin maxPorts) :
    conf.lists source sink = true ↔ topology.board.linked source sink := by
  have same : topology.board.linked source sink ↔ ∃ port, topology.ports source = some port ∧ sink ∈ port.listenerSlots :=
    Iff.rfl
  rw [same, ← carries.listening source, Conf.lists]
  cases conf.ports source with
  | none => simp
  | some port => simp [ConfPort.listeners]

end Lookup

section Simulation

variable {maxPorts samples : Nat} {conf : Conf maxPorts samples} {topology : Conference maxPorts}

theorem Carries.noEnds (carries : Carries conf topology) {srcSlot sinkSlot : Int}
    (missing : topology.ends srcSlot sinkSlot = none) :
    conf.livePort srcSlot = none ∨ conf.livePort sinkSlot = none := by
  by_contra both
  obtain ⟨sourceFound, sinkFound⟩ := not_or.mp both
  obtain ⟨source, sourceLive⟩ := Option.ne_none_iff_exists'.mp sourceFound
  obtain ⟨sink, sinkLive⟩ := Option.ne_none_iff_exists'.mp sinkFound
  obtain ⟨sourceNamed, sourceHere⟩ := Option.filter_eq_some_iff.mp sourceLive
  obtain ⟨sinkNamed, sinkHere⟩ := Option.filter_eq_some_iff.mp sinkLive
  obtain ⟨_, _, found⟩ := Conference.ends_live ((carries.live source).mp (by simpa using sourceHere))
    ((carries.live sink).mp (by simpa using sinkHere))
  rw [← SlotTable.slotOf_eq_some.mp sourceNamed, ← SlotTable.slotOf_eq_some.mp sinkNamed, missing] at found
  cases found

theorem rewired_transmitters {source sink slot : Fin maxPorts} {port : ConfPort maxPorts samples} {delta : Int}
    {relist recount : ConfPort maxPorts samples → ConfPort maxPorts samples}
    (found : (conf.ports.modify source relist).modify sink recount slot = some port)
    (relists : ∀ old : ConfPort maxPorts samples, (relist old).transmitterCnt = old.transmitterCnt)
    (recounts : ∀ old : ConfPort maxPorts samples, (recount old).transmitterCnt = old.transmitterCnt + delta) :
    ∃ old, conf.ports slot = some old ∧
      port.transmitterCnt = old.transmitterCnt + if slot = sink then delta else 0 := by
  have relisted : ∀ middle, conf.ports.modify source relist slot = some middle →
      ∃ old, conf.ports slot = some old ∧ middle.transmitterCnt = old.transmitterCnt := by
    intro middle held
    by_cases atSource : slot = source
    · subst atSource
      rw [SlotTable.modify_same, Option.map_eq_some_iff] at held
      obtain ⟨old, oldHeld, rfl⟩ := held
      exact ⟨old, oldHeld, relists old⟩
    · rw [SlotTable.modify_other _ _ atSource] at held
      exact ⟨middle, held, rfl⟩
  by_cases atSink : slot = sink
  · subst atSink
    rw [SlotTable.modify_same, Option.map_eq_some_iff] at found
    obtain ⟨middle, held, rfl⟩ := found
    obtain ⟨old, oldHeld, same⟩ := relisted middle held
    refine ⟨old, oldHeld, ?_⟩
    rw [recounts, same, if_pos rfl]
  · rw [SlotTable.modify_other _ _ atSink] at found
    obtain ⟨old, oldHeld, same⟩ := relisted port found
    refine ⟨old, oldHeld, ?_⟩
    rw [same, if_neg atSink, Int.add_zero]

theorem rewired_listening (carries : Carries conf topology) {source sink : Fin maxPorts}
    {srcPort : Pjmedia.ConfPort maxPorts} {listeners : List (Fin maxPorts)}
    {relist recount : ConfPort maxPorts samples → ConfPort maxPorts samples}
    (held : topology.ports source = some srcPort)
    (relists : ∀ port : ConfPort maxPorts samples, port.listenerSlots = srcPort.listenerSlots →
      (relist port).listenerSlots = listeners)
    (keeps : ∀ port : ConfPort maxPorts samples, (recount port).listeners = port.listeners) (slot : Fin maxPorts) :
    ((conf.ports.modify source relist).modify sink recount slot).map ConfPort.listeners =
      topology.ports.put source { listenerSlots := listeners } slot := by
  have recounted : ((conf.ports.modify source relist).modify sink recount slot).map ConfPort.listeners =
      (conf.ports.modify source relist slot).map ConfPort.listeners := by
    by_cases atSink : slot = sink
    · subst atSink
      rw [SlotTable.modify_same, Option.map_map]
      congr 1
      funext port
      exact keeps port
    · rw [SlotTable.modify_other _ _ atSink]
  rw [recounted]
  by_cases atSource : slot = source
  · subst atSource
    obtain ⟨full, found, listens⟩ := carries.port held
    rw [SlotTable.modify_same, found, SlotTable.put_same]
    simp [ConfPort.listeners, relists full listens]
  · rw [SlotTable.modify_other _ _ atSource, SlotTable.put_other _ _ atSource]
    exact carries.listening slot

theorem connectPort_agrees (carries : Carries conf topology) (srcSlot sinkSlot : Int) :
    Agrees Carries (conf.connectPort srcSlot sinkSlot 0) (topology.connectPort srcSlot sinkSlot) := by
  unfold Conf.connectPort
  rw [if_neg (by decide)]
  cases found : topology.ends srcSlot sinkSlot with
  | none =>
    rw [Conference.connectPort_refused found]
    rcases carries.noEnds found with missing | missing
    · rw [missing]
      rfl
    · rw [missing]
      cases conf.livePort srcSlot <;> rfl
  | some ends =>
    obtain ⟨⟨source, srcPort⟩, sink⟩ := ends
    obtain ⟨rfl, rfl, held, sinkLive⟩ := Conference.ends_eq_some.mp found
    have sourceLive : topology.ports.Live source := by simp [SlotTable.Live, held]
    have board := topology.board_connectPort source sink
    obtain ⟨after, ran, present | absent⟩ := Conference.connectPort_found found
    · rw [ran, carries.livePort source sourceLive, carries.livePort sink sinkLive]
      dsimp only
      rw [if_pos ((carries.lists source sink).mpr ⟨srcPort, held, present.1⟩), present.2]
      exact carries
    · have unlinked : ¬ topology.board.linked source sink := by
        rintro ⟨other, otherHeld, member⟩
        rw [held] at otherHeld
        cases otherHeld
        exact absent.1 member
      rw [ran] at board ⊢
      rw [carries.livePort source sourceLive, carries.livePort sink sinkLive]
      dsimp only
      rw [if_neg (mt (carries.lists source sink).mp unlinked)]
      have joined : after.board = topology.board.connect source sink := board
      constructor
      · intro slot
        rw [absent.2]
        apply rewired_listening carries held
        · intro port same
          rw [← same]
        · exact fun _ => rfl
      · intro slot port found
        obtain ⟨old, oldHeld, moved⟩ := rewired_transmitters found (fun _ => rfl) fun _ => rfl
        have counted := carries.transmitters slot old oldHeld
        rw [joined, Switchboard.card_sources_connect sourceLive sinkLive unlinked]
        push_cast
        omega
      · have counted := carries.connections
        rw [joined, Switchboard.card_links_connect sourceLive sinkLive unlinked]
        simp only
        omega
      · rw [joined]
        exact carries.filled

theorem disconnectPort_agrees (carries : Carries conf topology) (srcSlot sinkSlot : Int) :
    Agrees Carries (conf.disconnectPort srcSlot sinkSlot) (topology.disconnectPort srcSlot sinkSlot) := by
  unfold Conf.disconnectPort
  cases found : topology.ends srcSlot sinkSlot with
  | none =>
    rw [Conference.disconnectPort_refused found]
    rcases carries.noEnds found with missing | missing
    · rw [missing]
      rfl
    · rw [missing]
      cases conf.livePort srcSlot <;> rfl
  | some ends =>
    obtain ⟨⟨source, srcPort⟩, sink⟩ := ends
    obtain ⟨rfl, rfl, held, sinkLive⟩ := Conference.ends_eq_some.mp found
    have sourceLive : topology.ports.Live source := by simp [SlotTable.Live, held]
    have board := topology.board_disconnectPort source sink
    obtain ⟨after, ran, replaced⟩ := Conference.disconnectPort_found found
    rw [ran] at board ⊢
    rw [carries.livePort source sourceLive, carries.livePort sink sinkLive]
    dsimp only
    have cut : after.board = topology.board.disconnect source sink := board
    by_cases linked : topology.board.linked source sink
    · rw [if_pos ((carries.lists source sink).mpr linked)]
      constructor
      · intro slot
        rw [replaced]
        apply rewired_listening carries held
        · intro port same
          rw [← same]
          rfl
        · exact fun _ => rfl
      · intro slot port found
        obtain ⟨old, oldHeld, moved⟩ := rewired_transmitters found (fun _ => rfl) fun _ => rfl
        have counted := carries.transmitters slot old oldHeld
        rw [Switchboard.card_sources_disconnect linked] at counted
        rw [cut]
        split at moved <;> rename_i atSink <;> simp only [atSink, if_true, if_false] at counted ⊢ <;> omega
      · have counted := carries.connections
        rw [Switchboard.card_links_disconnect linked] at counted
        rw [cut]
        simp only
        omega
      · rw [cut]
        exact carries.filled
    · rw [if_neg (mt (carries.lists source sink).mp linked)]
      have same : after.ports = topology.ports := by
        have absent : sink ∉ srcPort.listenerSlots := fun member => linked ⟨srcPort, held, member⟩
        rw [replaced, List.erase_of_not_mem absent]
        funext slot
        by_cases atSource : slot = source
        · subst atSource
          rw [SlotTable.put_same, held]
        · rw [SlotTable.put_other _ _ atSource]
      rw [Switchboard.disconnect_unlinked linked] at cut
      constructor
      · rw [same]
        exact carries.listening
      · rw [cut]
        exact carries.transmitters
      · rw [cut]
        exact carries.connections
      · rw [cut]
        exact carries.filled

theorem Carries.lowestFree (carries : Carries conf topology) : conf.ports.lowestFree = topology.ports.lowestFree := by
  unfold SlotTable.lowestFree
  congr 1
  funext slot
  rw [← carries.listening slot, Option.isNone_map]

theorem Carries.full_iff (carries : Carries conf topology) :
    conf.portCnt ≥ maxPorts ↔ conf.ports.lowestFree = none := by
  rw [carries.lowestFree, SlotTable.lowestFree_eq_none, carries.filled]
  constructor
  · intro full slot
    by_contra free
    have proper : topology.board.plugged ⊂ Set.univ := (Set.ssubset_univ_iff).mpr fun all =>
      free (all.symm ▸ Set.mem_univ slot : slot ∈ topology.board.plugged)
    have fewer := Set.ncard_lt_ncard proper
    rw [Set.ncard_univ, Nat.card_fin] at fewer
    omega
  · intro live
    have all : topology.board.plugged = Set.univ := Set.eq_univ_of_forall live
    rw [all, Set.ncard_univ, Nat.card_fin]

theorem addPort_agrees (carries : Carries conf topology) :
    Agrees (fun left right => Carries left.1 right.1 ∧ left.2 = right.2) conf.addPort topology.addPort := by
  unfold Conf.addPort
  cases free : conf.ports.lowestFree with
  | none =>
    rw [if_pos (carries.full_iff.mpr free)]
    rw [carries.lowestFree] at free
    unfold Conference.addPort
    split
    · rfl
    · rename_i found
      rw [free] at found
      cases found
  | some index =>
    have space : ¬ conf.portCnt ≥ maxPorts := by
      rw [carries.full_iff, free]
      exact Option.some_ne_none index
    rw [if_neg space]
    dsimp only
    cases added : topology.addPort with
    | error error =>
      unfold Conference.addPort at added
      split at added
      · rename_i none
        rw [← carries.lowestFree, free] at none
        cases none
      · cases added
    | ok result =>
      obtain ⟨after, slot⟩ := result
      obtain ⟨unplugged, board⟩ := Conference.board_addPort added
      have placed : slot = index ∧ after.ports = topology.ports.put index { listenerSlots := [] } := by
        unfold Conference.addPort at added
        split at added
        · cases added
        · rename_i found
          rw [← carries.lowestFree, free] at found
          cases found
          cases added
          exact ⟨rfl, rfl⟩
      obtain ⟨rfl, ports⟩ := placed
      refine ⟨?_, rfl⟩
      constructor
      · intro other
        rw [ports]
        dsimp only
        by_cases same : other = slot
        · subst same
          simp [createConfPort, ConfPort.listeners]
        · rw [SlotTable.put_other _ _ same, SlotTable.put_other _ _ same]
          exact carries.listening other
      · intro other port held
        rw [board, Switchboard.sources_plug]
        rcases SlotTable.put_eq_some.mp held with ⟨rfl, rfl⟩ | ⟨_, old⟩
        · rw [Switchboard.sources_unplugged unplugged]
          rfl
        · exact carries.transmitters other port old
      · rw [board, Switchboard.links_plug]
        exact carries.connections
      · have counted := carries.filled
        rw [board]
        simp only [Switchboard.plug]
        rw [Set.ncard_insert_of_notMem unplugged]
        push_cast
        omega

section Removal

variable {removed : Fin maxPorts}

theorem forgetListener_ports (conf : Conf maxPorts samples) (source slot : Fin maxPorts) :
    (conf.forgetListener removed source).ports slot =
      if slot = source then (conf.ports slot).map (ConfPort.without removed) else conf.ports slot := by
  unfold Conf.forgetListener
  by_cases same : slot = source
  · subst same
    rw [if_pos rfl]
    split
    · exact SlotTable.modify_same _ _ _
    · rename_i unlisted
      cases held : conf.ports slot with
      | none => rfl
      | some port =>
        have absent : removed ∉ port.listenerSlots := by simpa [Conf.lists, held] using unlisted
        rw [Option.map_some, ConfPort.without, List.erase_of_not_mem absent]
  · rw [if_neg same]
    split
    · exact SlotTable.modify_other _ _ same
    · rfl

theorem forgetListeners (removed : Fin maxPorts) (sources : List (Fin maxPorts)) (nodup : sources.Nodup) (conf : Conf maxPorts samples) :
    (∀ slot, (sources.foldl (Conf.forgetListener removed) conf).ports slot =
        if slot ∈ sources then (conf.ports slot).map (ConfPort.without removed) else conf.ports slot) ∧
      (sources.foldl (Conf.forgetListener removed) conf).portCnt = conf.portCnt ∧
      (sources.foldl (Conf.forgetListener removed) conf).connectCnt = conf.connectCnt -
        (sources.filter fun source => conf.lists source removed).length := by
  induction sources generalizing conf with
  | nil => simp
  | cons source rest ih =>
    obtain ⟨fresh, distinct⟩ := List.nodup_cons.mp nodup
    obtain ⟨ports, count, connections⟩ := ih distinct (conf.forgetListener removed source)
    rw [List.foldl_cons]
    refine ⟨?_, ?_, ?_⟩
    · intro slot
      rw [ports, forgetListener_ports]
      by_cases same : slot = source
      · subst same
        simp [fresh]
      · simp [same]
    · rw [count]
      unfold Conf.forgetListener
      split <;> rfl
    · have later : ∀ other ∈ rest, (conf.forgetListener removed source).lists other removed = conf.lists other removed := by
        intro other member
        have different : other ≠ source := fun same => fresh (same ▸ member)
        rw [Conf.lists, forgetListener_ports, if_neg different]
        rfl
      rw [connections, List.filter_congr later]
      unfold Conf.forgetListener
      split
      · rename_i listed
        rw [List.filter_cons, if_pos listed, List.length_cons]
        push_cast
        omega
      · rename_i unlisted
        rw [List.filter_cons, if_neg unlisted]

theorem forgetTransmitters (listeners : List (Fin maxPorts)) (nodup : listeners.Nodup) (conf : Conf maxPorts samples) :
    (∀ slot, (listeners.foldl Conf.forgetTransmitter conf).ports slot =
        if slot ∈ listeners then (conf.ports slot).map ConfPort.transmitterLost else conf.ports slot) ∧
      (listeners.foldl Conf.forgetTransmitter conf).portCnt = conf.portCnt ∧
      (listeners.foldl Conf.forgetTransmitter conf).connectCnt = conf.connectCnt - listeners.length := by
  induction listeners generalizing conf with
  | nil => simp
  | cons dst rest ih =>
    obtain ⟨fresh, distinct⟩ := List.nodup_cons.mp nodup
    obtain ⟨ports, count, connections⟩ := ih distinct (conf.forgetTransmitter dst)
    rw [List.foldl_cons]
    refine ⟨?_, count, ?_⟩
    · intro slot
      rw [ports]
      unfold Conf.forgetTransmitter
      by_cases same : slot = dst
      · subst same
        simp [fresh]
      · simp [same, SlotTable.modify_other _ _ same]
    · rw [connections, List.length_cons]
      unfold Conf.forgetTransmitter
      push_cast
      omega

theorem Carries.sources_card (carries : Carries conf topology) (sink : Fin maxPorts) :
    ((List.finRange maxPorts).filter fun source => conf.lists source sink).length =
      (topology.board.sources sink).card := by
  have nodup : ((List.finRange maxPorts).filter fun source => conf.lists source sink).Nodup :=
    (List.nodup_finRange maxPorts).filter _
  rw [← List.toFinset_card_of_nodup nodup]
  congr 1
  ext source
  rw [List.mem_toFinset, List.mem_filter, Switchboard.mem_sources]
  exact (and_iff_right (List.mem_finRange source)).trans (carries.lists source sink)

theorem Carries.listenersOf (carries : Carries conf topology) (source sink : Fin maxPorts) :
    sink ∈ conf.listenersOf source ↔ topology.board.linked source sink := by
  rw [← carries.lists, Conf.lists, Conf.listenersOf]
  cases conf.ports source with
  | none => simp
  | some port => simp

theorem Carries.distinct (carries : Carries conf topology) (source : Fin maxPorts) :
    (conf.listenersOf source).Nodup := by
  unfold Conf.listenersOf
  cases held : conf.ports source with
  | none => exact List.nodup_nil
  | some port =>
    have listed := carries.listening source
    rw [held] at listed
    exact topology.distinct source _ listed.symm

theorem dropPort_spec (removed : Fin maxPorts) (carries : Carries conf topology) :
    (∀ slot, (conf.dropPort removed).ports slot = if slot = removed then none
        else if slot ∈ conf.listenersOf removed then
          (conf.ports slot).map fun port => (port.without removed).transmitterLost
        else (conf.ports slot).map (ConfPort.without removed)) ∧
      (conf.dropPort removed).portCnt = conf.portCnt - 1 ∧
      (conf.dropPort removed).connectCnt = conf.connectCnt - (topology.board.sources removed).card -
        ((topology.board.sinks removed).erase removed).card := by
  obtain ⟨ports, count, connections⟩ :=
    forgetListeners removed (List.finRange maxPorts) (List.nodup_finRange maxPorts) conf
  have left : ((List.finRange maxPorts).foldl (Conf.forgetListener removed) conf).listenersOf removed =
      (conf.listenersOf removed).erase removed := by
    rw [Conf.listenersOf, ports, if_pos (List.mem_finRange removed), Conf.listenersOf]
    cases conf.ports removed <;> rfl
  have distinct := (carries.distinct removed).erase removed
  obtain ⟨ports', count', connections'⟩ := forgetTransmitters _ (List.nodup_reverse.mpr distinct)
    ((List.finRange maxPorts).foldl (Conf.forgetListener removed) conf)
  unfold Conf.dropPort
  dsimp only
  rw [left]
  refine ⟨?_, ?_, ?_⟩
  · intro slot
    by_cases same : slot = removed
    · subst same
      rw [SlotTable.clear_same, if_pos rfl]
    · rw [SlotTable.clear_other _ same, if_neg same, ports', ports, if_pos (List.mem_finRange slot)]
      simp only [List.mem_reverse, List.mem_erase_of_ne same, Option.map_map]
      rfl
  · rw [count', count]
  · have size : ((conf.listenersOf removed).erase removed).length =
        ((topology.board.sinks removed).erase removed).card := by
      rw [← List.toFinset_card_of_nodup distinct]
      congr 1
      ext sink
      rw [List.mem_toFinset, (carries.distinct removed).mem_erase_iff, Finset.mem_erase, Switchboard.mem_sinks,
        carries.listenersOf]
    rw [connections', List.length_reverse, connections, carries.sources_card, size]

theorem dropPort_carries (carries : Carries conf topology) {after : Conference maxPorts}
    (live : topology.ports.Live removed) (ports : after.ports = topology.portsWithout removed)
    (board : after.board = topology.board.unplug removed) : Carries (conf.dropPort removed) after := by
  obtain ⟨dropped, count, connections⟩ := dropPort_spec removed carries
  constructor
  · intro slot
    rw [ports, dropped, Conference.portsWithout, ← carries.listening slot]
    by_cases same : slot = removed
    · rw [if_pos same, if_pos same]
      rfl
    · rw [if_neg same, if_neg same, Option.map_map]
      split <;> rw [Option.map_map] <;> rfl
  · intro slot port held
    rw [dropped] at held
    split at held
    · cases held
    · rename_i different
      have unplugged := topology.board.card_sources_unplug different
      have linked : slot ∈ topology.board.sinks removed ↔ slot ∈ conf.listenersOf removed := by
        rw [Switchboard.mem_sinks, carries.listenersOf]
      rw [board]
      split at held
      · rename_i listed
        obtain ⟨old, oldHeld, rfl⟩ := Option.map_eq_some_iff.mp held
        have counted := carries.transmitters slot old oldHeld
        rw [if_pos (linked.mpr listed)] at unplugged
        have lost : ((old.without removed).transmitterLost).transmitterCnt = old.transmitterCnt - 1 := rfl
        omega
      · rename_i unlisted
        obtain ⟨old, oldHeld, rfl⟩ := Option.map_eq_some_iff.mp held
        have counted := carries.transmitters slot old oldHeld
        rw [if_neg (mt linked.mp unlisted)] at unplugged
        have kept : (old.without removed).transmitterCnt = old.transmitterCnt := rfl
        omega
  · have counted := carries.connections
    rw [Switchboard.card_links_unplug removed] at counted
    rw [board, connections]
    omega
  · have counted := carries.filled
    have smaller := Set.ncard_sdiff_singleton_add_one (show removed ∈ topology.board.plugged from live)
    rw [board, count]
    simp only [Switchboard.unplug]
    omega

theorem removePort_agrees (carries : Carries conf topology) (port : Int) :
    Agrees Carries (conf.removePort port) (topology.removePort port) := by
  unfold Conf.removePort
  cases found : (SlotTable.slotOf maxPorts port).filter fun slot => topology.ports.Live slot with
  | none =>
    have missing : conf.livePort port = none := by
      apply carries.dead
      rintro slot rfl live
      simp [live] at found
    rw [missing]
    unfold Conference.removePort
    rw [found]
    rfl
  | some removed =>
    obtain ⟨named, here⟩ := Option.filter_eq_some_iff.mp found
    have live : topology.ports.Live removed := by simpa using here
    have same : port = removed.val := SlotTable.slotOf_eq_some.mp named
    subst same
    rw [carries.livePort removed live]
    dsimp only
    have board := topology.board_removePort removed
    unfold Conference.removePort at board ⊢
    rw [found] at board ⊢
    exact dropPort_carries carries live rfl board

end Removal

theorem Carries.adjusted (carries : Carries conf topology) (slot : Fin maxPorts)
    {change : ConfPort maxPorts samples → ConfPort maxPorts samples}
    (listeners : ∀ port, (change port).listenerSlots = port.listenerSlots)
    (count : ∀ port, (change port).transmitterCnt = port.transmitterCnt) :
    Carries { conf with ports := conf.ports.modify slot change } topology := by
  constructor
  · intro other
    dsimp only
    by_cases same : other = slot
    · subst same
      rw [SlotTable.modify_same, Option.map_map, ← carries.listening other]
      congr 1
      funext port
      simp [ConfPort.listeners, listeners]
    · rw [SlotTable.modify_other _ _ same]
      exact carries.listening other
  · intro other port held
    dsimp only at held
    by_cases same : other = slot
    · subst same
      rw [SlotTable.modify_same, Option.map_eq_some_iff] at held
      obtain ⟨old, oldHeld, rfl⟩ := held
      rw [count]
      exact carries.transmitters other old oldHeld
    · rw [SlotTable.modify_other _ _ same] at held
      exact carries.transmitters other port held
  · exact carries.connections
  · exact carries.filled

end Simulation

section Runs

variable {maxPorts samples : Nat}

inductive Operation
  | addPort
  | removePort (port : Int)
  | configurePort (slot : Int) (tx rx : Option PortOp)
  | connectPort (srcSlot sinkSlot level : Int)
  | disconnectPort (srcSlot sinkSlot : Int)
  | adjustRxLevel (slot : Int) (adjLevel : Int32)
  | adjustTxLevel (slot : Int) (adjLevel : Int32)

def Conf.result (conf : Conf maxPorts samples) : Operation → Except PjError (Conf maxPorts samples)
  | .addPort => conf.addPort.map Prod.fst
  | .removePort port => conf.removePort port
  | .configurePort slot tx rx => conf.configurePort slot tx rx
  | .connectPort srcSlot sinkSlot level => conf.connectPort srcSlot sinkSlot level
  | .disconnectPort srcSlot sinkSlot => conf.disconnectPort srcSlot sinkSlot
  | .adjustRxLevel slot adjLevel => conf.adjustRxLevel slot adjLevel
  | .adjustTxLevel slot adjLevel => conf.adjustTxLevel slot adjLevel

def Conf.kept (conf : Conf maxPorts samples) : Except PjError (Conf maxPorts samples) → Conf maxPorts samples
  | .ok after => after
  | .error _ => conf

def Conf.perform (conf : Conf maxPorts samples) (operation : Operation) : Conf maxPorts samples :=
  conf.kept (conf.result operation)

def drawn (topology : Conference maxPorts) : Operation → Conference maxPorts
  | .addPort => topology.kept (topology.addPort.map Prod.fst)
  | .removePort port => topology.kept (topology.removePort port)
  | .connectPort srcSlot sinkSlot level =>
    if level ≠ 0 then topology else topology.kept (topology.connectPort srcSlot sinkSlot)
  | .disconnectPort srcSlot sinkSlot => topology.kept (topology.disconnectPort srcSlot sinkSlot)
  | .configurePort .. | .adjustRxLevel .. | .adjustTxLevel .. => topology

def blank [NeZero maxPorts] : Conference maxPorts where
  ports := SlotTable.empty.put 0 { listenerSlots := [] }
  distinct := by
    intro slot port held
    rcases SlotTable.put_eq_some.mp held with ⟨_, rfl⟩ | ⟨_, impossible⟩
    · exact List.nodup_nil
    · cases impossible
  grounded := by
    intro slot port held listener member
    rcases SlotTable.put_eq_some.mp held with ⟨_, rfl⟩ | ⟨_, impossible⟩
    · cases member
    · cases impossible

theorem create_carries [NeZero maxPorts] (clockRate : Nat) :
    Carries (Conf.create clockRate : Conf maxPorts samples) blank := by
  have unlinked (source sink : Fin maxPorts) : ¬ (blank : Conference maxPorts).board.linked source sink := by
    rintro ⟨port, held, member⟩
    rcases SlotTable.put_eq_some.mp held with ⟨_, rfl⟩ | ⟨_, impossible⟩
    · cases member
    · cases impossible
  have plugged : (blank : Conference maxPorts).board.plugged = {0} := by
    ext slot
    exact (SlotTable.live_put _ _ _ _).trans (or_iff_left (SlotTable.live_empty slot))
  constructor
  · intro slot
    by_cases same : slot = 0
    · subst same
      simp [Conf.create, blank, createConfPort, ConfPort.listeners]
    · simp [Conf.create, blank, SlotTable.put_other _ _ same]
  · intro slot port held
    have none : (blank : Conference maxPorts).board.sources slot = ∅ := by
      ext source
      simp [unlinked]
    rcases SlotTable.put_eq_some.mp held with ⟨_, rfl⟩ | ⟨_, impossible⟩
    · rw [none]
      rfl
    · cases impossible
  · have none : (blank : Conference maxPorts).board.links = ∅ := by
      ext ⟨source, sink⟩
      simp [unlinked]
    rw [none]
    rfl
  · rw [plugged, Set.ncard_singleton]
    rfl

variable {conf : Conf maxPorts samples} {topology : Conference maxPorts}

theorem Agrees.kept {result : Except PjError (Conf maxPorts samples)} {drawing : Except PjError (Conference maxPorts)}
    (agrees : Agrees Carries result drawing) (carries : Carries conf topology) :
    Carries (conf.kept result) (topology.kept drawing) := by
  cases result with
  | ok after =>
    cases drawing with
    | ok drawn => exact agrees
    | error error => cases agrees
  | error error =>
    cases drawing with
    | ok drawn => cases agrees
    | error error => exact carries

theorem Carries.set (carries : Carries conf topology) (operation : Operation)
    (sets : ∀ after, conf.result operation = .ok after →
      ∃ slot change, after = { conf with ports := conf.ports.modify slot change } ∧
        (∀ port, (change port).listenerSlots = port.listenerSlots) ∧
        ∀ port, (change port).transmitterCnt = port.transmitterCnt) :
    Carries (conf.perform operation) topology := by
  unfold Conf.perform
  cases ran : conf.result operation with
  | error error => exact carries
  | ok after =>
    obtain ⟨slot, change, rfl, listeners, count⟩ := sets after ran
    exact carries.adjusted slot listeners count

theorem perform_carries (carries : Carries conf topology) (operation : Operation) :
    Carries (conf.perform operation) (drawn topology operation) := by
  cases operation with
  | addPort =>
    have agrees := addPort_agrees carries
    unfold Conf.perform Conf.result drawn
    cases added : conf.addPort with
    | error error =>
      rw [added] at agrees
      cases plain : topology.addPort with
      | ok after =>
        rw [plain] at agrees
        cases agrees
      | error error => exact carries
    | ok after =>
      rw [added] at agrees
      cases plain : topology.addPort with
      | ok drawing =>
        rw [plain] at agrees
        exact agrees.1
      | error error =>
        rw [plain] at agrees
        cases agrees
  | removePort port => exact (removePort_agrees carries port).kept carries
  | connectPort srcSlot sinkSlot level =>
    by_cases zero : level = 0
    · subst zero
      exact (connectPort_agrees carries srcSlot sinkSlot).kept carries
    · unfold Conf.perform Conf.result drawn Conf.connectPort
      dsimp only
      rw [if_pos zero, if_pos zero]
      exact carries
  | disconnectPort srcSlot sinkSlot => exact (disconnectPort_agrees carries srcSlot sinkSlot).kept carries
  | configurePort slot tx rx =>
    apply carries.set
    intro after ran
    unfold Conf.result Conf.configurePort at ran
    dsimp only at ran
    split at ran
    · cases ran
    · cases ran
      exact ⟨_, _, rfl, fun _ => rfl, fun _ => rfl⟩
  | adjustRxLevel slot adjLevel =>
    apply carries.set
    intro after ran
    unfold Conf.result Conf.adjustRxLevel at ran
    dsimp only at ran
    split at ran
    · cases ran
    · split at ran
      · cases ran
      · cases ran
        exact ⟨_, _, rfl, fun _ => rfl, fun _ => rfl⟩
  | adjustTxLevel slot adjLevel =>
    apply carries.set
    intro after ran
    unfold Conf.result Conf.adjustTxLevel at ran
    dsimp only at ran
    split at ran
    · cases ran
    · split at ran
      · cases ran
      · cases ran
        exact ⟨_, _, rfl, fun _ => rfl, fun _ => rfl⟩

/-- Whatever is called in whatever order, the counts of ports, connections and transmitters are
    those of the connections that the same calls draw. -/
theorem bridge_carries [NeZero maxPorts] (clockRate : Nat) (operations : List Operation) :
    Carries (Transition.runFrom Conf.perform (Conf.create clockRate : Conf maxPorts samples) operations)
      (Transition.runFrom drawn blank operations) := by
  suffices follows : ∀ (conf : Conf maxPorts samples) (topology : Conference maxPorts), Carries conf topology →
      Carries (Transition.runFrom Conf.perform conf operations) (Transition.runFrom drawn topology operations) from
    follows _ _ (create_carries clockRate)
  induction operations with
  | nil => exact fun _ _ carries => carries
  | cons operation rest ih => exact fun _ _ carries => ih _ _ (perform_carries carries operation)

def twoCalls : List Operation :=
  [.addPort, .addPort, .connectPort 1 0 0, .connectPort 2 0 0, .removePort 1]

theorem two_calls_carry :
    Carries (Transition.runFrom Conf.perform (Conf.create 8000 : Conf 3 80) twoCalls)
      (Transition.runFrom drawn blank twoCalls) :=
  bridge_carries 8000 twoCalls

end Runs

end TiSIP.Pjmedia.Bridge
