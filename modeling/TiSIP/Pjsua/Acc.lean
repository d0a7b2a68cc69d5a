import TiSIP.Pjsua.Core
import TiSIP.Lib.Mirror

namespace TiSIP.Pjsua

def insertByPriority (priority : Fin maxAcc → Int) (id : Fin maxAcc) : List (Fin maxAcc) → List (Fin maxAcc)
  | [] => [id]
  | head :: rest =>
    if priority head < priority id then id :: head :: rest
    else head :: insertByPriority priority id rest

def accPriority (acc : SlotTable maxAcc AccConfig) (id : Fin maxAcc) : Int :=
  ((acc id).map AccConfig.priority).getD 0

def initializeAcc (var : PjsuaVar) (id : Fin maxAcc) (cfg : AccConfig) (parsed : Except PjError Unit) :
    Except PjError PjsuaVar :=
  -- `parsed` stands for the URI parsing and presence set-up that come before `valid` is set.
  match parsed with
  | .error error => .error error
  | .ok () =>
    let acc := var.acc.put id cfg
    .ok { var with acc := acc, accIds := insertByPriority (accPriority acc) id var.accIds }

def accAdd (var : PjsuaVar) (cfg : AccConfig) (parsed : Except PjError Unit) :
    Except PjError (PjsuaVar × Fin maxAcc) :=
  if var.accCnt < maxAcc then
    -- `tpdata[0]` stands for "there is a transport" whichever slot the transport is in.
    if var.tpdata.Live 0 then
      match var.acc.lowestFree with
      | none => .error .ebug
      | some id =>
        match initializeAcc var id cfg parsed with
        | .error error => .error error
        | .ok added => .ok ({ added with accCnt := var.accCnt + 1 }, id)
    else .error .einvalidop
  else .error .etoomany

def accIsValid (var : PjsuaVar) (accId : Int) : Option (Fin maxAcc) :=
  (SlotTable.slotOf maxAcc accId).filter fun slot => var.acc.Live slot

def accDel (var : PjsuaVar) (accId : Int) : Except PjError PjsuaVar :=
  match SlotTable.slotOf maxAcc accId with
  | none => .error .einval
  | some slot =>
    if var.acc.Live slot then
      let invalidated := { var with acc := var.acc.clear slot }
      if slot ∈ var.accIds then
        .ok { invalidated with accIds := var.accIds.erase slot, accCnt := var.accCnt - 1 }
      else .ok invalidated
    else .error .einvalidop

def accSetRegistration (var : PjsuaVar) (accId : Int) (sent : Except PjError Unit) : Except PjError Unit :=
  match SlotTable.slotOf maxAcc accId with
  | none => .error .einval
  | some slot => if var.acc.Live slot then sent else .error .einvalidop

def accGetCount (var : PjsuaVar) : Nat := var.accCnt

def validAccounts (var : PjsuaVar) : Set (Fin maxAcc) := { slot | var.acc.Live slot }

structure AccountsConsistent (var : PjsuaVar) : Prop where
  listed : Mirrors id (validAccounts var) var.accIds
  counted : var.accCnt = var.accIds.length

theorem initData_consistent : AccountsConsistent initData where
  listed := by
    have none : validAccounts initData = ∅ := by
      ext slot
      simp [validAccounts, initData]
    rw [none]
    exact .nil
  counted := rfl

theorem insertByPriority_perm (priority : Fin maxAcc → Int) (id : Fin maxAcc) (ids : List (Fin maxAcc)) :
    (insertByPriority priority id ids).Perm (ids ++ [id]) := by
  induction ids with
  | nil => exact .refl _
  | cons head rest ih =>
    simp only [insertByPriority]
    split
    · exact (List.perm_append_singleton id (head :: rest)).symm
    · exact ih.cons head

theorem accAdd_eq_ok {var after : PjsuaVar} {cfg : AccConfig} {parsed : Except PjError Unit} {id : Fin maxAcc}
    (added : accAdd var cfg parsed = .ok (after, id)) :
    var.acc.lowestFree = some id ∧ after.acc = var.acc.put id cfg ∧ after.tpdata = var.tpdata ∧
      after.accIds = insertByPriority (accPriority (var.acc.put id cfg)) id var.accIds ∧
      after.accCnt = var.accCnt + 1 := by
  unfold accAdd at added
  split at added
  · split at added
    · cases found : var.acc.lowestFree with
      | none => simp [found] at added
      | some slot =>
        cases parsed with
        | error error => simp [found, initializeAcc] at added
        | ok done =>
          simp only [found, initializeAcc, Except.ok.injEq, Prod.mk.injEq] at added
          obtain ⟨rfl, rfl⟩ := added
          simp
    · cases added
  · cases added

theorem accAdd_valid {var after : PjsuaVar} {cfg : AccConfig} {parsed : Except PjError Unit} {id : Fin maxAcc}
    (added : accAdd var cfg parsed = .ok (after, id)) :
    id ∉ validAccounts var ∧ validAccounts after = insert id (validAccounts var) := by
  obtain ⟨found, acc, -⟩ := accAdd_eq_ok added
  refine ⟨SlotTable.lowestFree_free found, ?_⟩
  ext slot
  simp [validAccounts, acc]

theorem accDel_eq_ok {var after : PjsuaVar} {accId : Int} (deleted : accDel var accId = .ok after) :
    ∃ slot : Fin maxAcc, accId = slot.val ∧ slot ∈ validAccounts var ∧
      validAccounts after = validAccounts var \ {slot} ∧
      (slot ∈ var.accIds → after.accIds = var.accIds.erase slot ∧ after.accCnt = var.accCnt - 1) := by
  unfold accDel at deleted
  cases ranged : SlotTable.slotOf maxAcc accId with
  | none => simp [ranged] at deleted
  | some slot =>
    simp only [ranged] at deleted
    split at deleted
    · rename_i live
      refine ⟨slot, SlotTable.slotOf_eq_some.mp ranged, live, ?_⟩
      split at deleted
      · cases deleted
        refine ⟨?_, fun _ => ⟨rfl, rfl⟩⟩
        ext other
        simp [validAccounts, and_comm]
      · rename_i absent
        cases deleted
        refine ⟨?_, fun present => absurd present absent⟩
        ext other
        simp [validAccounts, and_comm]
    · cases deleted

theorem accDel_succeeds {var : PjsuaVar} {slot : Fin maxAcc} (valid : slot ∈ validAccounts var) :
    ∃ after, accDel var slot.val = .ok after := by
  have live : var.acc.Live slot := valid
  simp only [accDel, SlotTable.slotOf_val, live, if_true]
  split <;> exact ⟨_, rfl⟩

theorem AccountsConsistent.accAdd {var after : PjsuaVar} {cfg : AccConfig} {parsed : Except PjError Unit}
    {id : Fin maxAcc} (consistent : AccountsConsistent var)
    (added : Pjsua.accAdd var cfg parsed = .ok (after, id)) : AccountsConsistent after := by
  obtain ⟨-, -, -, ids, count⟩ := accAdd_eq_ok added
  obtain ⟨fresh, valid⟩ := accAdd_valid added
  have placed := insertByPriority_perm (accPriority (var.acc.put id cfg)) id var.accIds
  have grown := consistent.listed.append Function.injective_id fresh
  refine ⟨⟨?_, ?_⟩, ?_⟩
  · rw [ids]
    exact placed.nodup_iff.mpr grown.nodup
  · intro entry
    rw [ids, placed.mem_iff, valid]
    exact grown.exact entry
  · rw [count, ids, placed.length_eq, consistent.counted]
    simp

theorem AccountsConsistent.accDel {var after : PjsuaVar} {accId : Int} (consistent : AccountsConsistent var)
    (deleted : Pjsua.accDel var accId = .ok after) : AccountsConsistent after := by
  obtain ⟨slot, -, valid, shrunk, erased⟩ := accDel_eq_ok deleted
  have present : slot ∈ var.accIds := (consistent.listed.exact slot).mpr ⟨slot, valid, rfl⟩
  obtain ⟨ids, count⟩ := erased present
  refine ⟨⟨?_, ?_⟩, ?_⟩
  · rw [ids]
    exact consistent.listed.nodup.erase _
  · intro entry
    rw [ids, consistent.listed.nodup.mem_erase_iff, consistent.listed.exact, shrunk]
    simp [and_comm]
  · rw [ids, count, consistent.counted, List.length_erase_of_mem present]

theorem AccountsConsistent.count_eq {var : PjsuaVar} (consistent : AccountsConsistent var) :
    accGetCount var = (validAccounts var).ncard := by
  rw [accGetCount, consistent.counted]
  exact consistent.listed.length_eq Function.injective_id

end TiSIP.Pjsua
