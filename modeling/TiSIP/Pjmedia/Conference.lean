import Mathlib.Data.List.Nodup
import TiSIP.Pjsua.Core
import TiSIP.Lib.Switchboard

namespace TiSIP.Pjmedia

open Pjsua

structure ConfPort (maxPorts : Nat) where
  listenerSlots : List (Fin maxPorts)

structure Conference (maxPorts : Nat) where
  ports : SlotTable maxPorts (ConfPort maxPorts)
  distinct : ∀ slot port, ports slot = some port → port.listenerSlots.Nodup
  grounded : ∀ slot port, ports slot = some port → ∀ listener ∈ port.listenerSlots, ports.Live listener

namespace Conference

variable {maxPorts : Nat}

def ends (conf : Conference maxPorts) (srcSlot sinkSlot : Int) :
    Option ((Fin maxPorts × ConfPort maxPorts) × Fin maxPorts) := do
  let source ← SlotTable.slotOf maxPorts srcSlot
  let sink ← SlotTable.slotOf maxPorts sinkSlot
  let srcPort ← conf.ports source
  let _ ← conf.ports sink
  return ((source, srcPort), sink)

theorem ends_eq_some {conf : Conference maxPorts} {srcSlot sinkSlot : Int} {source sink : Fin maxPorts}
    {srcPort : ConfPort maxPorts} :
    conf.ends srcSlot sinkSlot = some ((source, srcPort), sink) ↔
      srcSlot = source.val ∧ sinkSlot = sink.val ∧ conf.ports source = some srcPort ∧ conf.ports.Live sink := by
  simp only [ends, Option.bind_eq_bind, Option.bind_eq_some_iff, SlotTable.slotOf_eq_some, SlotTable.Live,
    Option.isSome_iff_exists, Option.pure_def, Option.some.injEq, Prod.mk.injEq]
  constructor
  · rintro ⟨_, inSource, _, inSink, _, held, _, sinkHeld, ⟨rfl, rfl⟩, rfl⟩
    exact ⟨inSource, inSink, held, _, sinkHeld⟩
  · rintro ⟨inSource, inSink, held, sinkPort, sinkHeld⟩
    exact ⟨source, inSource, sink, inSink, srcPort, held, sinkPort, sinkHeld, ⟨rfl, rfl⟩, rfl⟩

def setListeners (conf : Conference maxPorts) (source : Fin maxPorts) (listeners : List (Fin maxPorts))
    (nodup : listeners.Nodup) (heard : ∀ listener ∈ listeners, conf.ports.Live listener) :
    Conference maxPorts where
  ports := conf.ports.put source { listenerSlots := listeners }
  distinct := by
    intro slot port held
    rcases SlotTable.put_eq_some.mp held with ⟨_, rfl⟩ | ⟨_, old⟩
    · exact nodup
    · exact conf.distinct _ _ old
  grounded := by
    intro slot port held listener member
    refine (SlotTable.live_put _ _ _ _).mpr (.inr ?_)
    rcases SlotTable.put_eq_some.mp held with ⟨_, rfl⟩ | ⟨_, old⟩
    · exact heard _ member
    · exact conf.grounded _ _ old _ member

theorem nodup_append_new {listeners : List (Fin maxPorts)} {sink : Fin maxPorts} (nodup : listeners.Nodup)
    (absent : sink ∉ listeners) : (listeners ++ [sink]).Nodup := by
  rw [List.nodup_append]
  refine ⟨nodup, by simp, ?_⟩
  intro listener member other same
  rw [List.mem_singleton.mp same]
  rintro rfl
  exact absent member

def connectPort (conf : Conference maxPorts) (srcSlot sinkSlot : Int) : Except PjError (Conference maxPorts) :=
  match found : conf.ends srcSlot sinkSlot with
  | none => .error .einval
  | some ((source, srcPort), sink) =>
    if present : sink ∈ srcPort.listenerSlots then .ok conf
    else .ok (conf.setListeners source (srcPort.listenerSlots ++ [sink])
      (nodup_append_new (conf.distinct _ _ (ends_eq_some.mp found).2.2.1) present)
      (by
        obtain ⟨_, _, held, sinkLive⟩ := ends_eq_some.mp found
        intro listener member
        rcases List.mem_append.mp member with old | new
        · exact conf.grounded _ _ held _ old
        · rw [List.mem_singleton.mp new]
          exact sinkLive))

def disconnectPort (conf : Conference maxPorts) (srcSlot sinkSlot : Int) : Except PjError (Conference maxPorts) :=
  match found : conf.ends srcSlot sinkSlot with
  | none => .error .einval
  | some ((source, srcPort), sink) =>
    .ok (conf.setListeners source (srcPort.listenerSlots.erase sink)
      ((conf.distinct _ _ (ends_eq_some.mp found).2.2.1).erase _)
      (by
        obtain ⟨_, _, held, _⟩ := ends_eq_some.mp found
        exact fun listener member => conf.grounded _ _ held _ (List.mem_of_mem_erase member)))

def addPort (conf : Conference maxPorts) : Except PjError (Conference maxPorts × Fin maxPorts) :=
  match free : conf.ports.lowestFree with
  | none => .error .etoomany
  | some slot => .ok
    ({ ports := conf.ports.put slot { listenerSlots := [] }
       distinct := by
        intro other port held
        rcases SlotTable.put_eq_some.mp held with ⟨_, rfl⟩ | ⟨_, old⟩
        · exact List.nodup_nil
        · exact conf.distinct _ _ old
       grounded := by
        intro other port held listener member
        refine (SlotTable.live_put _ _ _ _).mpr (.inr ?_)
        rcases SlotTable.put_eq_some.mp held with ⟨_, rfl⟩ | ⟨_, old⟩
        · cases member
        · exact conf.grounded _ _ old _ member }, slot)

def portsWithout (conf : Conference maxPorts) (removed : Fin maxPorts) : SlotTable maxPorts (ConfPort maxPorts) :=
  fun slot => if slot = removed then none else
    (conf.ports slot).map fun port => { listenerSlots := port.listenerSlots.erase removed }

theorem portsWithout_eq_some {conf : Conference maxPorts} {removed slot : Fin maxPorts} {port : ConfPort maxPorts} :
    conf.portsWithout removed slot = some port ↔
      slot ≠ removed ∧ ∃ old, conf.ports slot = some old ∧ port = { listenerSlots := old.listenerSlots.erase removed } := by
  unfold portsWithout
  by_cases same : slot = removed
  · simp [same]
  · simp [same, eq_comm]

theorem live_portsWithout (conf : Conference maxPorts) (removed slot : Fin maxPorts) :
    (conf.portsWithout removed).Live slot ↔ slot ≠ removed ∧ conf.ports.Live slot := by
  unfold portsWithout SlotTable.Live
  by_cases same : slot = removed
  · simp [same]
  · simp [same]

def removePort (conf : Conference maxPorts) (port : Int) : Except PjError (Conference maxPorts) :=
  match (SlotTable.slotOf maxPorts port).filter fun slot => conf.ports.Live slot with
  | none => .error .einval
  | some removed => .ok
    { ports := conf.portsWithout removed
      distinct := by
        intro slot port held
        obtain ⟨_, old, oldHeld, rfl⟩ := portsWithout_eq_some.mp held
        exact (conf.distinct _ _ oldHeld).erase _
      grounded := by
        intro slot port held listener member
        obtain ⟨_, old, oldHeld, rfl⟩ := portsWithout_eq_some.mp held
        have nodup := conf.distinct _ _ oldHeld
        obtain ⟨different, oldMember⟩ := nodup.mem_erase_iff.mp member
        exact (live_portsWithout _ _ _).mpr ⟨different, conf.grounded _ _ oldHeld _ oldMember⟩ }

def Transmits (conf : Conference maxPorts) (source sink : Fin maxPorts) : Prop :=
  ∃ port, conf.ports source = some port ∧ sink ∈ port.listenerSlots

instance (conf : Conference maxPorts) (source sink : Fin maxPorts) : Decidable (conf.Transmits source sink) :=
  match held : conf.ports source with
  | none => .isFalse (by simp [Transmits, held])
  | some port => decidable_of_iff (sink ∈ port.listenerSlots) (by simp [Transmits, held])

/-- What the bridge is for: which slots hold a port and which of them are connected. -/
def board (conf : Conference maxPorts) : Switchboard (Fin maxPorts) where
  plugged := { slot | conf.ports.Live slot }
  linked := conf.Transmits
  grounded := by
    rintro source sink ⟨port, held, member⟩
    exact ⟨by simp [SlotTable.Live, held], conf.grounded _ _ held _ member⟩

def kept (conf : Conference maxPorts) (result : Except PjError (Conference maxPorts)) : Conference maxPorts :=
  match result with
  | .ok after => after
  | .error _ => conf

theorem transmits_replaced {conf after : Conference maxPorts} {source left right : Fin maxPorts}
    {listeners : List (Fin maxPorts)}
    (replaced : after.ports = conf.ports.put source { listenerSlots := listeners }) :
    after.Transmits left right ↔
      left = source ∧ right ∈ listeners ∨ left ≠ source ∧ conf.Transmits left right := by
  unfold Transmits
  rw [replaced]
  by_cases same : left = source
  · subst same
    simp
  · simp [same, SlotTable.put_other _ _ same]

theorem plugged_replaced {conf after : Conference maxPorts} {source : Fin maxPorts} {port : ConfPort maxPorts}
    (replaced : after.ports = conf.ports.put source port) (live : conf.ports.Live source) :
    after.board.plugged = conf.board.plugged := by
  ext slot
  simp only [board, replaced, Set.mem_ofPred_eq, SlotTable.live_put]
  constructor
  · intro plugged
    rcases plugged with rfl | old
    · exact live
    · exact old
  · exact .inr

theorem ends_live {conf : Conference maxPorts} {source sink : Fin maxPorts} (sourceLive : conf.ports.Live source)
    (sinkLive : conf.ports.Live sink) :
    ∃ srcPort, conf.ports source = some srcPort ∧
      conf.ends (source.val : Int) (sink.val : Int) = some ((source, srcPort), sink) := by
  obtain ⟨srcPort, held⟩ := Option.isSome_iff_exists.mp sourceLive
  exact ⟨srcPort, held, ends_eq_some.mpr ⟨rfl, rfl, held, sinkLive⟩⟩

theorem ends_dead {conf : Conference maxPorts} {source sink : Fin maxPorts}
    (dead : ¬ (conf.ports.Live source ∧ conf.ports.Live sink)) :
    conf.ends (source.val : Int) (sink.val : Int) = none := by
  rw [Option.eq_none_iff_forall_ne_some]
  rintro ⟨⟨source', srcPort⟩, sink'⟩ found
  obtain ⟨sourceEq, sinkEq, held, sinkLive⟩ := ends_eq_some.mp found
  have sameSource : source = source' := Fin.ext (Int.ofNat.inj sourceEq)
  have sameSink : sink = sink' := Fin.ext (Int.ofNat.inj sinkEq)
  subst sameSource sameSink
  exact dead ⟨by simp [SlotTable.Live, held], sinkLive⟩

theorem connectPort_refused {conf : Conference maxPorts} {srcSlot sinkSlot : Int}
    (missing : conf.ends srcSlot sinkSlot = none) : conf.connectPort srcSlot sinkSlot = .error .einval := by
  unfold connectPort
  split
  · rfl
  · rename_i found
    rw [missing] at found
    cases found

theorem disconnectPort_refused {conf : Conference maxPorts} {srcSlot sinkSlot : Int}
    (missing : conf.ends srcSlot sinkSlot = none) : conf.disconnectPort srcSlot sinkSlot = .error .einval := by
  unfold disconnectPort
  split
  · rfl
  · rename_i found
    rw [missing] at found
    cases found

theorem connectPort_found {conf : Conference maxPorts} {srcSlot sinkSlot : Int} {source sink : Fin maxPorts}
    {srcPort : ConfPort maxPorts} (found : conf.ends srcSlot sinkSlot = some ((source, srcPort), sink)) :
    ∃ after, conf.connectPort srcSlot sinkSlot = .ok after ∧
      (sink ∈ srcPort.listenerSlots ∧ after = conf ∨
        sink ∉ srcPort.listenerSlots ∧
          after.ports = conf.ports.put source { listenerSlots := srcPort.listenerSlots ++ [sink] }) := by
  unfold connectPort
  split
  · rename_i missing
    rw [found] at missing
    cases missing
  · rename_i found'
    rw [found] at found'
    cases found'
    split
    · rename_i present
      exact ⟨_, rfl, .inl ⟨present, rfl⟩⟩
    · rename_i absent
      exact ⟨_, rfl, .inr ⟨absent, rfl⟩⟩

theorem disconnectPort_found {conf : Conference maxPorts} {srcSlot sinkSlot : Int} {source sink : Fin maxPorts}
    {srcPort : ConfPort maxPorts} (found : conf.ends srcSlot sinkSlot = some ((source, srcPort), sink)) :
    ∃ after, conf.disconnectPort srcSlot sinkSlot = .ok after ∧
      after.ports = conf.ports.put source { listenerSlots := srcPort.listenerSlots.erase sink } := by
  unfold disconnectPort
  split
  · rename_i missing
    rw [found] at missing
    cases missing
  · rename_i found'
    rw [found] at found'
    cases found'
    exact ⟨_, rfl, rfl⟩

theorem board_connectPort (conf : Conference maxPorts) (source sink : Fin maxPorts) :
    (conf.kept (conf.connectPort source.val sink.val)).board = conf.board.connect source sink := by
  by_cases live : conf.ports.Live source ∧ conf.ports.Live sink
  · obtain ⟨srcPort, held, found⟩ := ends_live live.1 live.2
    obtain ⟨after, ran, ⟨present, rfl⟩ | ⟨absent, replaced⟩⟩ := connectPort_found found
    · rw [ran]
      refine Switchboard.ext rfl ?_
      funext left right
      refine propext ⟨.inl, ?_⟩
      intro linked
      rcases linked with old | ⟨rfl, rfl, _⟩
      · exact old
      · exact ⟨srcPort, held, present⟩
    · rw [ran]
      refine Switchboard.ext (plugged_replaced replaced live.1) ?_
      funext left right
      apply propext
      apply (transmits_replaced replaced).trans
      rw [List.mem_append, List.mem_singleton]
      constructor
      · intro linked
        rcases linked with ⟨rfl, old | rfl⟩ | ⟨_, old⟩
        · exact .inl ⟨srcPort, held, old⟩
        · exact .inr ⟨rfl, rfl, live.1, live.2⟩
        · exact .inl old
      · intro linked
        rcases linked with ⟨port, portHeld, old⟩ | ⟨rfl, rfl, _⟩
        · by_cases same : left = source
          · subst same
            rw [held] at portHeld
            cases portHeld
            exact .inl ⟨rfl, .inl old⟩
          · exact .inr ⟨same, port, portHeld, old⟩
        · exact .inl ⟨rfl, .inr rfl⟩
  · rw [connectPort_refused (ends_dead live)]
    refine Switchboard.ext rfl ?_
    funext left right
    refine propext ⟨.inl, ?_⟩
    intro linked
    rcases linked with old | ⟨_, _, sourceLive, sinkLive⟩
    · exact old
    · exact absurd ⟨sourceLive, sinkLive⟩ live

theorem board_disconnectPort (conf : Conference maxPorts) (source sink : Fin maxPorts) :
    (conf.kept (conf.disconnectPort source.val sink.val)).board = conf.board.disconnect source sink := by
  by_cases live : conf.ports.Live source ∧ conf.ports.Live sink
  · obtain ⟨srcPort, held, found⟩ := ends_live live.1 live.2
    obtain ⟨after, ran, replaced⟩ := disconnectPort_found found
    rw [ran]
    refine Switchboard.ext (plugged_replaced replaced live.1) ?_
    funext left right
    apply propext
    apply (transmits_replaced replaced).trans
    rw [(conf.distinct _ _ held).mem_erase_iff]
    constructor
    · intro linked
      rcases linked with ⟨rfl, different, old⟩ | ⟨different, old⟩
      · exact ⟨⟨srcPort, held, old⟩, fun same => different same.2⟩
      · exact ⟨old, fun same => different same.1⟩
    · intro linked
      obtain ⟨⟨port, portHeld, old⟩, different⟩ := linked
      by_cases same : left = source
      · subst same
        rw [held] at portHeld
        cases portHeld
        exact .inl ⟨rfl, fun same => different ⟨rfl, same⟩, old⟩
      · exact .inr ⟨same, port, portHeld, old⟩
  · rw [disconnectPort_refused (ends_dead live)]
    refine Switchboard.ext rfl ?_
    funext left right
    refine propext ⟨?_, fun kept => kept.1⟩
    intro old
    refine ⟨old, ?_⟩
    rintro ⟨rfl, rfl⟩
    exact live (conf.board.grounded _ _ old)

theorem kept_connectPort_out {conf : Conference maxPorts} {srcSlot sinkSlot : Int}
    (out : SlotTable.slotOf maxPorts sinkSlot = none) : conf.kept (conf.connectPort srcSlot sinkSlot) = conf := by
  have missing : conf.ends srcSlot sinkSlot = none := by
    simp [ends, out]
  rw [connectPort_refused missing]
  rfl

theorem kept_disconnectPort_out {conf : Conference maxPorts} {srcSlot sinkSlot : Int}
    (out : SlotTable.slotOf maxPorts sinkSlot = none) : conf.kept (conf.disconnectPort srcSlot sinkSlot) = conf := by
  have missing : conf.ends srcSlot sinkSlot = none := by
    simp [ends, out]
  rw [disconnectPort_refused missing]
  rfl

theorem board_addPort {conf after : Conference maxPorts} {slot : Fin maxPorts}
    (added : conf.addPort = .ok (after, slot)) :
    slot ∉ conf.board.plugged ∧ after.board = conf.board.plug slot := by
  unfold addPort at added
  split at added
  · cases added
  · rename_i free
    cases added
    have dead := SlotTable.lowestFree_free free
    refine ⟨dead, Switchboard.ext ?_ ?_⟩
    · ext other
      simp [board, Switchboard.plug]
    · funext left right
      apply propext
      apply (transmits_replaced rfl).trans
      constructor
      · intro linked
        rcases linked with ⟨_, new⟩ | ⟨_, old⟩
        · cases new
        · exact old
      · intro old
        refine .inr ⟨?_, old⟩
        rintro rfl
        exact dead (conf.board.grounded _ _ old).1

theorem board_removePort (conf : Conference maxPorts) (removed : Fin maxPorts) :
    (conf.kept (conf.removePort removed.val)).board = conf.board.unplug removed := by
  by_cases live : conf.ports.Live removed
  · have found : (SlotTable.slotOf maxPorts (removed.val : Int)).filter (fun slot => conf.ports.Live slot) =
        some removed := by
      simp [live]
    unfold removePort
    rw [found]
    apply Switchboard.ext
    · ext slot
      apply (live_portsWithout conf removed slot).trans
      exact and_comm
    · funext left right
      apply propext
      constructor
      · intro linked
        obtain ⟨port, held, member⟩ := linked
        obtain ⟨leftOther, old, oldHeld, rfl⟩ := portsWithout_eq_some.mp held
        obtain ⟨rightOther, oldMember⟩ := (conf.distinct _ _ oldHeld).mem_erase_iff.mp member
        exact ⟨⟨old, oldHeld, oldMember⟩, leftOther, rightOther⟩
      · intro linked
        obtain ⟨⟨old, oldHeld, oldMember⟩, leftOther, rightOther⟩ := linked
        exact ⟨_, portsWithout_eq_some.mpr ⟨leftOther, old, oldHeld, rfl⟩,
          (conf.distinct _ _ oldHeld).mem_erase_iff.mpr ⟨rightOther, oldMember⟩⟩
  · have missing : (SlotTable.slotOf maxPorts (removed.val : Int)).filter (fun slot => conf.ports.Live slot) =
        none := by
      simp [live]
    unfold removePort
    rw [missing]
    have unlinked (other : Fin maxPorts) : ¬ conf.board.linked removed other ∧ ¬ conf.board.linked other removed :=
      Switchboard.unlinked_of_unplugged live
    apply Switchboard.ext
    · ext slot
      refine ⟨fun plugged => ⟨plugged, ?_⟩, fun plugged => plugged.1⟩
      rintro rfl
      exact live plugged
    · funext left right
      refine propext ⟨fun old => ⟨old, ?_, ?_⟩, fun linked => linked.1⟩
      · rintro rfl
        exact (unlinked right).1 old
      · rintro rfl
        exact (unlinked left).2 old

end Conference

end TiSIP.Pjmedia
