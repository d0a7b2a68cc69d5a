import TiSIP.Lib.Transition
import TiSIP.Proxy.PjSIPProxy

namespace TiSIP.Proxy

open Foundation Foundation.NSNumber Pjsua Transition

inductive AccountOp
  | register (credentials : Credentials) (parsed : Except PjError Unit)
  | unregister (accountId : NSNumber)
  | refresh (accountId : NSNumber) (sent : Except PjError Unit)
  | stop (outcome : StopOutcome)

def AccountOp.run (conversion : IntConversion) (proxy : PjSIPProxy) : AccountOp → Completed
  | .register credentials parsed => proxy.register credentials parsed
  | .unregister accountId => proxy.unregister conversion accountId
  | .refresh accountId sent => proxy.refresh conversion accountId sent
  | .stop outcome => proxy.stop outcome

def accountStep (conversion : IntConversion) (proxy : PjSIPProxy) (op : AccountOp) : PjSIPProxy :=
  (op.run conversion proxy).proxy

def accountName (slot : Fin maxAcc) : NSNumber := numberWithInt slot.val

structure NoAccounts (proxy : PjSIPProxy) : Prop where
  listed : proxy.accountIds = []
  valid : ∀ slot, ¬ proxy.pjsuaVar.acc.Live slot
  ids : proxy.pjsuaVar.accIds = []
  count : proxy.pjsuaVar.accCnt = 0

/-- The list has no duplicates, holds exactly the ids of the valid accounts, and its length is
    the count the module reports. -/
structure BookkeepingAgrees (proxy : PjSIPProxy) : Prop where
  nodup : proxy.accountIds.Nodup
  listed : ∀ entry, entry ∈ proxy.accountIds ↔
    ∃ slot : Fin maxAcc, proxy.pjsuaVar.acc.Live slot ∧ entry = numberWithInt slot.val
  counted : proxy.getRegisteredAccountsCount = numberWithInt proxy.accountIds.length

structure OperationHonest (before : PjSIPProxy) (op : AccountOp) (completed : Completed) : Prop where
  registered : ∀ credentials parsed, op = .register credentials parsed →
    completed.returned ≠ numberWithInt (-1) → completed.returned ∈ completed.proxy.accountIds
  failed : completed.returned = numberWithInt (-1) → completed.proxy.accountIds = before.accountIds

def BookkeepingLaw (conversion : IntConversion) (start : PjSIPProxy) (ops : List AccountOp) : Prop :=
  (∀ pre, pre <+: ops → BookkeepingAgrees (runFrom (accountStep conversion) start pre)) ∧
  ∀ pre op, pre ++ [op] <+: ops →
    OperationHonest (runFrom (accountStep conversion) start pre) op
      (op.run conversion (runFrom (accountStep conversion) start pre))

/-- An `unregister` that reaches a valid account names it by a number equal to its id. -/
def NamesExactly (conversion : IntConversion) (proxy : PjSIPProxy) : AccountOp → Prop
  | .unregister accountId =>
    (accIsValid proxy.pjsuaVar (accountId.intValue conversion)).isSome →
      accountId = numberWithInt (accountId.intValue conversion)
  | _ => True

theorem accountName_injective : Function.Injective accountName := by
  intro left right same
  have values := numberWithInt_injective same
  omega

theorem accountName_intValue (conversion : IntConversion) (slot : Fin maxAcc) :
    (accountName slot).intValue conversion = slot.val := by
  apply intValue_numberWithInt
  · simp only [intMin]
    omega
  · have bound : slot.val < 4 := slot.isLt
    simp only [intMax]
    omega

structure Invariant (proxy : PjSIPProxy) : Prop where
  library : AccountsConsistent proxy.pjsuaVar
  list : Mirrors accountName (validAccounts proxy.pjsuaVar) proxy.accountIds

theorem Invariant.agrees {proxy : PjSIPProxy} (invariant : Invariant proxy) : BookkeepingAgrees proxy where
  nodup := invariant.list.nodup
  listed := by
    intro entry
    rw [invariant.list.exact]
    simp only [validAccounts, Set.mem_ofPred_eq, accountName, eq_comm]
  counted := by
    have names := invariant.list.length_eq accountName_injective
    rw [PjSIPProxy.getRegisteredAccountsCount, invariant.library.count_eq, names]

theorem BookkeepingAgrees.invariant {proxy : PjSIPProxy} (agrees : BookkeepingAgrees proxy)
    (library : AccountsConsistent proxy.pjsuaVar) : Invariant proxy where
  library := library
  list := by
    refine ⟨agrees.nodup, fun entry => ?_⟩
    rw [agrees.listed]
    simp only [validAccounts, Set.mem_ofPred_eq, accountName, eq_comm]

theorem stop_invariant (proxy : PjSIPProxy) (outcome : StopOutcome) : Invariant (proxy.stop outcome).proxy where
  library := initData_consistent
  list := by
    apply Mirrors.nil.congr
    simp [PjSIPProxy.stop, validAccounts, initData]

theorem NoAccounts.invariant {proxy : PjSIPProxy} (none : NoAccounts proxy) : Invariant proxy := by
  have nobody : ∀ slot, slot ∈ (∅ : Set (Fin maxAcc)) ↔ slot ∈ validAccounts proxy.pjsuaVar := by
    simp [validAccounts, none.valid]
  refine ⟨⟨?_, ?_⟩, ?_⟩
  · rw [none.ids]
    exact Mirrors.nil.congr nobody
  · rw [none.ids, none.count]
    rfl
  · rw [none.listed]
    exact Mirrors.nil.congr nobody

theorem library_step (conversion : IntConversion) (proxy : PjSIPProxy) (op : AccountOp)
    (consistent : AccountsConsistent proxy.pjsuaVar) :
    AccountsConsistent (accountStep conversion proxy op).pjsuaVar := by
  cases op with
  | register credentials parsed =>
    simp only [accountStep, AccountOp.run, PjSIPProxy.register]
    split
    · exact consistent
    · rename_i added
      exact consistent.accAdd added
  | unregister accountId =>
    simp only [accountStep, AccountOp.run, PjSIPProxy.unregister]
    split
    · exact consistent
    · rename_i deleted
      exact consistent.accDel deleted
  | refresh accountId sent =>
    simp only [accountStep, AccountOp.run, PjSIPProxy.refresh]
    split <;> exact consistent
  | stop outcome => exact initData_consistent

theorem register_invariant {proxy : PjSIPProxy} (invariant : Invariant proxy) (credentials : Credentials)
    (parsed : Except PjError Unit) : Invariant (proxy.register credentials parsed).proxy := by
  unfold PjSIPProxy.register
  cases added : accAdd proxy.pjsuaVar (proxy.accConfig credentials) parsed with
  | error error => exact invariant
  | ok result =>
    obtain ⟨var, accId⟩ := result
    obtain ⟨fresh, valid⟩ := accAdd_valid added
    refine ⟨invariant.library.accAdd added, ?_⟩
    change Mirrors accountName (validAccounts var) (proxy.accountIds ++ [accountName accId])
    rw [valid]
    exact invariant.list.append accountName_injective fresh

theorem accIsValid_isSome {var : PjsuaVar} {accId : Int} :
    (accIsValid var accId).isSome ↔ ∃ slot : Fin maxAcc, accId = slot.val ∧ slot ∈ validAccounts var := by
  rw [Option.isSome_iff_exists]
  simp [accIsValid, Option.filter_eq_some_iff, SlotTable.slotOf_eq_some, validAccounts]

theorem unregister_invariant_iff (conversion : IntConversion) {proxy : PjSIPProxy} (invariant : Invariant proxy)
    (accountId : NSNumber) :
    Invariant (proxy.unregister conversion accountId).proxy ↔
      NamesExactly conversion proxy (.unregister accountId) := by
  unfold PjSIPProxy.unregister
  simp only [NamesExactly, accIsValid_isSome]
  cases deleted : accDel proxy.pjsuaVar (accountId.intValue conversion) with
  | error error =>
    refine ⟨fun _ reached => ?_, fun _ => invariant⟩
    obtain ⟨slot, named, valid⟩ := reached
    obtain ⟨after, succeeds⟩ := accDel_succeeds valid
    rw [named, succeeds] at deleted
    cases deleted
  | ok var =>
    obtain ⟨slot, named, valid, shrunk, -⟩ := accDel_eq_ok deleted
    constructor
    · intro kept _
      by_contra different
      -- No entry equals the argument, so the list keeps the id of the account just deleted.
      have absent : accountId ∉ proxy.accountIds := by
        intro listed
        obtain ⟨other, -, rfl⟩ := (invariant.list.exact _).mp listed
        exact different (by rw [accountName_intValue]; rfl)
      have unchanged := kept.list
      simp only [removeObject_absent absent, shrunk] at unchanged
      exact invariant.list.not_remove valid accountName_injective unchanged
    · intro exactly
      have same : accountId = accountName slot := by
        have equal := exactly ⟨slot, named, valid⟩
        rw [named] at equal
        exact equal
      refine ⟨invariant.library.accDel deleted, ?_⟩
      change Mirrors accountName (validAccounts var) (removeObject proxy.accountIds accountId)
      rw [shrunk, same]
      exact invariant.list.remove accountName_injective slot

theorem step_agrees_iff (conversion : IntConversion) (proxy : PjSIPProxy) (op : AccountOp)
    (invariant : Invariant proxy) :
    Invariant (accountStep conversion proxy op) ↔ NamesExactly conversion proxy op := by
  cases op with
  | register credentials parsed => exact iff_of_true (register_invariant invariant _ _) trivial
  | unregister accountId => exact unregister_invariant_iff conversion invariant accountId
  | refresh accountId sent =>
    refine iff_of_true ?_ trivial
    simp only [accountStep, AccountOp.run, PjSIPProxy.refresh]
    split <;> exact invariant
  | stop outcome => exact iff_of_true (stop_invariant _ _) trivial

theorem operation_honest (conversion : IntConversion) (proxy : PjSIPProxy) (op : AccountOp) :
    OperationHonest proxy op (op.run conversion proxy) := by
  have success : numberWithInt 1 ≠ numberWithInt (-1) := by decide
  constructor
  · rintro credentials parsed rfl returned
    simp only [AccountOp.run, PjSIPProxy.register] at returned ⊢
    split at returned
    · exact absurd rfl returned
    · simp
  · intro failed
    cases op with
    | register credentials parsed =>
      simp only [AccountOp.run, PjSIPProxy.register] at failed ⊢
      split at failed
      · rfl
      · have negative := numberWithInt_injective failed
        omega
    | unregister accountId =>
      simp only [AccountOp.run, PjSIPProxy.unregister] at failed ⊢
      split at failed
      · rfl
      · exact absurd failed success
    | refresh accountId sent =>
      simp only [AccountOp.run, PjSIPProxy.refresh]
      split <;> rfl
    | stop outcome => exact absurd failed success

theorem run_library (conversion : IntConversion) {start : PjSIPProxy} (none : NoAccounts start)
    (ops : List AccountOp) : AccountsConsistent (runFrom (accountStep conversion) start ops).pjsuaVar :=
  runFrom_invariant (accountStep conversion) ops (library_step conversion) none.invariant.library

theorem bookkeeping_law_iff (conversion : IntConversion) (start : PjSIPProxy) (none : NoAccounts start)
    (ops : List AccountOp) :
    BookkeepingLaw conversion start ops ↔
      ∀ pre op, pre ++ [op] <+: ops →
        NamesExactly conversion (runFrom (accountStep conversion) start pre) op := by
  have always := runFrom_always_iff (accountStep conversion) ops (step_agrees_iff conversion) none.invariant
  rw [← always]
  constructor
  · rintro ⟨agrees, -⟩ pre prefixed
    exact (agrees pre prefixed).invariant (run_library conversion none pre)
  · intro invariant
    refine ⟨fun pre prefixed => (invariant pre prefixed).agrees, fun pre op _ => ?_⟩
    exact operation_honest conversion _ op

def readyProxy : PjSIPProxy where
  transportIdUDP := 0
  transportIdTCP := invalidId
  transportIdTCP6 := invalidId
  accountIds := []
  pjsuaVar := { initData with tpdata := initData.tpdata.put 0 .udp }

def sampleCredentials : Credentials where
  sipAccount := "100"
  sipDomain := "sip.example.com"
  realm := "*"
  username := "100"
  password := "secret"

theorem readyProxy_noAccounts : NoAccounts readyProxy where
  listed := rfl
  valid := by simp [readyProxy, initData]
  ids := rfl
  count := rfl

theorem bookkeeping_law_integral :
    BookkeepingLaw saturating readyProxy
      [.register sampleCredentials (.ok ()), .unregister (numberWithInt 0), .stop ⟨.ok (), .ok (), .ok ()⟩] := by
  apply (bookkeeping_law_iff saturating readyProxy readyProxy_noAccounts _).mpr
  intro pre op prefixed
  have member : op ∈ _ := prefixed.subset (by simp)
  simp only [List.mem_cons, List.not_mem_nil, or_false] at member
  rcases member with rfl | rfl | rfl
  · trivial
  · intro _
    rw [intValue_numberWithInt saturating (by decide) (by decide)]
  · trivial

def oneHalf : ℚ where
  num := 1
  den := 2

theorem bookkeeping_law_fractional :
    ¬ BookkeepingLaw saturating readyProxy
      [.register sampleCredentials (.ok ()), .unregister (.finite oneHalf)] := by
  rintro ⟨agrees, -⟩
  have final := agrees _ List.prefix_rfl
  have kept := (final.listed (numberWithInt 0)).mp (by decide)
  obtain ⟨slot, live, -⟩ := kept
  revert live
  revert slot
  decide

end TiSIP.Proxy
