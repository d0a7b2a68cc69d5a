import TiSIP.Lib.Transition
import TiSIP.Proxy.PjSIPProxy

namespace TiSIP.Proxy

open Foundation Foundation.NSNumber Pjsua Transition

inductive TransportOp
  | start (outcome : StartOutcome)
  | stop (outcome : StopOutcome)
  | register (credentials : Credentials) (parsed : Except PjError Unit)

def TransportOp.run (proxy : PjSIPProxy) : TransportOp → Completed
  | .start outcome => proxy.start outcome
  | .stop outcome => proxy.stop outcome
  | .register credentials parsed => proxy.register credentials parsed

def transportStep (proxy : PjSIPProxy) (op : TransportOp) : PjSIPProxy := (op.run proxy).proxy

def HoldsTransport (proxy : PjSIPProxy) (type : TransportType) (id : Int) : Prop :=
  id = invalidId ∨ ∃ slot : Fin maxTransports, id = slot.val ∧ proxy.pjsuaVar.tpdata slot = some type

structure TransportsOwned (proxy : PjSIPProxy) : Prop where
  udp : HoldsTransport proxy .udp proxy.transportIdUDP
  tcp : HoldsTransport proxy .tcp proxy.transportIdTCP
  tcp6 : HoldsTransport proxy .tcp6 proxy.transportIdTCP6
  udp_tcp : proxy.transportIdUDP = proxy.transportIdTCP → proxy.transportIdUDP = invalidId
  udp_tcp6 : proxy.transportIdUDP = proxy.transportIdTCP6 → proxy.transportIdUDP = invalidId
  tcp_tcp6 : proxy.transportIdTCP = proxy.transportIdTCP6 → proxy.transportIdTCP = invalidId

def TransportCall.Legal (proxy : PjSIPProxy) : TransportCall → Prop
  | .getInfo _ live => live = true
  | .close _ live => live = true
  | .bind id => HoldsTransport proxy .udp id

def ClosesAll (proxy : PjSIPProxy) (calls : List TransportCall) : Prop :=
  ∀ slot, proxy.pjsuaVar.tpdata.Live slot → calls.count (.close slot.val true) = 1

structure OwnershipLaw (fresh : StartOutcome) (ops : List TransportOp) : Prop where
  owned : ∀ pre, pre <+: ops → TransportsOwned (runFrom transportStep (PjSIPProxy.init fresh).proxy pre)
  initial : ∀ call ∈ (PjSIPProxy.init fresh).calls, call.Legal (PjSIPProxy.init fresh).proxy
  legal : ∀ pre op, pre ++ [op] <+: ops →
    ∀ call ∈ (op.run (runFrom transportStep (PjSIPProxy.init fresh).proxy pre)).calls,
      call.Legal (runFrom transportStep (PjSIPProxy.init fresh).proxy pre)
  closed : ∀ pre outcome, pre ++ [.stop outcome] <+: ops →
    ClosesAll (runFrom transportStep (PjSIPProxy.init fresh).proxy pre)
      (PjSIPProxy.stop (runFrom transportStep (PjSIPProxy.init fresh).proxy pre) outcome).calls

section Start

variable (proxy : PjSIPProxy) (outcome : StartOutcome)

theorem createTCP_created :
    ({ proxy with pjsuaVar := initData } : PjSIPProxy).createTCP outcome.tcp =
      match outcome.tcp with
      | .error _ => { proxy with pjsuaVar := initData }
      | .ok () =>
        { proxy with
          pjsuaVar := { initData with tpdata := initData.tpdata.put 0 .tcp }
          transportIdTCP := 0 } := by
  unfold PjSIPProxy.createTCP
  rw [transportCreate_initData]
  cases outcome.tcp <;> rfl

theorem start_proxy :
    (proxy.start outcome).proxy =
      match outcome.tcp, outcome.udp with
      | .error _, .error _ => { proxy with pjsuaVar := initData }
      | .error _, .ok () =>
        { proxy with
          pjsuaVar := { initData with tpdata := initData.tpdata.put 0 .udp }
          transportIdUDP := 0 }
      | .ok (), .error _ =>
        { proxy with
          pjsuaVar := { initData with tpdata := initData.tpdata.put 0 .tcp }
          transportIdTCP := 0 }
      | .ok (), .ok () =>
        { proxy with
          pjsuaVar := { initData with tpdata := (initData.tpdata.put 0 .tcp).put 1 .udp }
          transportIdTCP := 0, transportIdUDP := 1 } := by
  have second : (initData.tpdata.put 0 TransportType.tcp).lowestFree = some 1 := by decide
  change (PjSIPProxy.createUDP _ _) = _
  rw [createTCP_created]
  cases outcome.tcp with
  | error first =>
    unfold PjSIPProxy.createUDP
    rw [transportCreate_initData]
    cases outcome.udp <;> rfl
  | ok done =>
    unfold PjSIPProxy.createUDP transportCreate
    cases outcome.udp with
    | error error => simp [second]
    | ok done => simp [second]

theorem start_tcp6 : (proxy.start outcome).proxy.transportIdTCP6 = proxy.transportIdTCP6 := by
  rw [start_proxy]
  split <;> rfl

theorem start_no_tcp6 (slot : Fin maxTransports) :
    (proxy.start outcome).proxy.pjsuaVar.tpdata slot ≠ some .tcp6 := by
  rw [start_proxy]
  split <;> simp [initData, SlotTable.put_eq_some]

theorem start_holds_tcp6_iff :
    HoldsTransport (proxy.start outcome).proxy .tcp6 (proxy.start outcome).proxy.transportIdTCP6 ↔
      proxy.transportIdTCP6 = invalidId := by
  rw [HoldsTransport, start_tcp6]
  constructor
  · rintro (invalid | ⟨slot, -, held⟩)
    · exact invalid
    · exact absurd held (start_no_tcp6 proxy outcome slot)
  · exact Or.inl

end Start

theorem init_not_owned (fresh : StartOutcome) : ¬ TransportsOwned (PjSIPProxy.init fresh).proxy := by
  intro owned
  have invalid := (start_holds_tcp6_iff _ fresh).mp owned.tcp6
  revert invalid
  decide

/-- A start leaves the ids owned when the ids it does not write were invalid before it. -/
def StartsClean (proxy : PjSIPProxy) : TransportOp → Prop
  | .start outcome =>
    (outcome.udp = .ok () ∨ proxy.transportIdUDP = invalidId) ∧
      (outcome.tcp = .ok () ∨ proxy.transportIdTCP = invalidId) ∧ proxy.transportIdTCP6 = invalidId
  | _ => True

theorem start_holds_tcp_iff (proxy : PjSIPProxy) (outcome : StartOutcome) :
    HoldsTransport (proxy.start outcome).proxy .tcp (proxy.start outcome).proxy.transportIdTCP ↔
      outcome.tcp = .ok () ∨ proxy.transportIdTCP = invalidId := by
  rw [HoldsTransport, start_proxy]
  cases outcome.tcp with
  | error first => cases outcome.udp <;> simp [initData, SlotTable.put_eq_some]
  | ok done => cases outcome.udp <;> simp [initData, SlotTable.put_eq_some]

theorem start_holds_udp_iff (proxy : PjSIPProxy) (outcome : StartOutcome) :
    HoldsTransport (proxy.start outcome).proxy .udp (proxy.start outcome).proxy.transportIdUDP ↔
      outcome.udp = .ok () ∨ proxy.transportIdUDP = invalidId := by
  rw [HoldsTransport, start_proxy]
  cases outcome.tcp with
  | error first => cases outcome.udp <;> simp [initData, SlotTable.put_eq_some]
  | ok done => cases outcome.udp <;> simp [initData, SlotTable.put_eq_some]

theorem HoldsTransport.distinct {proxy : PjSIPProxy} {left right : TransportType} {id : Int}
    (first : HoldsTransport proxy left id) (second : HoldsTransport proxy right id)
    (different : left ≠ right) : id = invalidId := by
  rcases first with invalid | ⟨slot, named, held⟩
  · exact invalid
  rcases second with invalid | ⟨other, also, holds⟩
  · exact invalid
  have same : slot = other := by omega
  subst same
  rw [held] at holds
  exact absurd (Option.some.inj holds) different

theorem transports_owned_iff (proxy : PjSIPProxy) :
    TransportsOwned proxy ↔ HoldsTransport proxy .udp proxy.transportIdUDP ∧
      HoldsTransport proxy .tcp proxy.transportIdTCP ∧ HoldsTransport proxy .tcp6 proxy.transportIdTCP6 := by
  constructor
  · intro owned
    exact ⟨owned.udp, owned.tcp, owned.tcp6⟩
  · rintro ⟨udp, tcp, tcp6⟩
    refine ⟨udp, tcp, tcp6, fun same => ?_, fun same => ?_, fun same => ?_⟩
    · exact udp.distinct (same ▸ tcp) (by decide)
    · exact udp.distinct (same ▸ tcp6) (by decide)
    · exact tcp.distinct (same ▸ tcp6) (by decide)

theorem stop_owned (proxy : PjSIPProxy) (outcome : StopOutcome) : TransportsOwned (proxy.stop outcome).proxy :=
  (transports_owned_iff _).mpr ⟨Or.inl rfl, Or.inl rfl, Or.inl rfl⟩

theorem register_tpdata (proxy : PjSIPProxy) (credentials : Credentials) (parsed : Except PjError Unit) :
    (proxy.register credentials parsed).proxy.pjsuaVar.tpdata = proxy.pjsuaVar.tpdata := by
  unfold PjSIPProxy.register
  cases added : accAdd proxy.pjsuaVar (proxy.accConfig credentials) parsed with
  | error error => rfl
  | ok result => exact (accAdd_eq_ok added).2.2.1

theorem register_ids (proxy : PjSIPProxy) (credentials : Credentials) (parsed : Except PjError Unit) :
    (proxy.register credentials parsed).proxy.transportIdUDP = proxy.transportIdUDP ∧
      (proxy.register credentials parsed).proxy.transportIdTCP = proxy.transportIdTCP ∧
      (proxy.register credentials parsed).proxy.transportIdTCP6 = proxy.transportIdTCP6 := by
  unfold PjSIPProxy.register
  split <;> exact ⟨rfl, rfl, rfl⟩

theorem step_owned_iff (proxy : PjSIPProxy) (op : TransportOp) (owned : TransportsOwned proxy) :
    TransportsOwned (transportStep proxy op) ↔ StartsClean proxy op := by
  cases op with
  | start outcome =>
    change TransportsOwned (proxy.start outcome).proxy ↔ _
    rw [transports_owned_iff, start_holds_udp_iff, start_holds_tcp_iff, start_holds_tcp6_iff]
    rfl
  | stop outcome => exact iff_of_true (stop_owned proxy outcome) trivial
  | register credentials parsed =>
    refine iff_of_true ?_ trivial
    change TransportsOwned (proxy.register credentials parsed).proxy
    obtain ⟨udp, tcp, tcp6⟩ := register_ids proxy credentials parsed
    simp only [transports_owned_iff, HoldsTransport, udp, tcp, tcp6, register_tpdata] at owned ⊢
    exact owned

def TransportsKnown (proxy : PjSIPProxy) : Prop :=
  ∀ slot : Fin maxTransports, proxy.pjsuaVar.tpdata.Live slot →
    proxy.transportIdUDP = slot.val ∨ proxy.transportIdTCP = slot.val ∨ proxy.transportIdTCP6 = slot.val

theorem stop_known (proxy : PjSIPProxy) (outcome : StopOutcome) : TransportsKnown (proxy.stop outcome).proxy :=
  fun slot live => absurd live (SlotTable.live_empty slot)

theorem start_known (proxy : PjSIPProxy) (outcome : StartOutcome) : TransportsKnown (proxy.start outcome).proxy := by
  have unopened : ∀ slot, ¬ initData.tpdata.Live slot := SlotTable.live_empty
  intro slot live
  rw [start_proxy] at live ⊢
  cases tcp : outcome.tcp with
  | error first =>
    cases udp : outcome.udp with
    | error second =>
      simp only [tcp, udp] at live
      exact absurd live (unopened slot)
    | ok done =>
      simp only [tcp, udp, SlotTable.live_put, unopened, or_false] at live ⊢
      exact Or.inl (by rw [live]; rfl)
  | ok done =>
    cases udp : outcome.udp with
    | error second =>
      simp only [tcp, udp, SlotTable.live_put, unopened, or_false] at live ⊢
      exact Or.inr (Or.inl (by rw [live]; rfl))
    | ok done =>
      simp only [tcp, udp, SlotTable.live_put, unopened, or_false] at live ⊢
      rcases live with rfl | rfl
      · exact Or.inl rfl
      · exact Or.inr (Or.inl rfl)

theorem step_known (proxy : PjSIPProxy) (op : TransportOp) (known : TransportsKnown proxy) :
    TransportsKnown (transportStep proxy op) := by
  cases op with
  | start outcome => exact start_known proxy outcome
  | stop outcome => exact stop_known proxy outcome
  | register credentials parsed =>
    change TransportsKnown (proxy.register credentials parsed).proxy
    obtain ⟨udp, tcp, tcp6⟩ := register_ids proxy credentials parsed
    simp only [TransportsKnown, udp, tcp, tcp6, register_tpdata] at known ⊢
    exact known

theorem closeTransport_live (var : PjsuaVar) {id other : Int} (destroyed : Except PjError Unit)
    (different : other ≠ id) :
    liveTransport (PjSIPProxy.closeTransport var id destroyed).1 other = liveTransport var other := by
  unfold PjSIPProxy.closeTransport transportClose
  split
  · rfl
  cases closing : liveTransport var id with
  | none => rfl
  | some slot =>
    cases destroyed with
    | error error => rfl
    | ok done =>
      obtain ⟨named, -⟩ := liveTransport_eq_some.mp closing
      apply Option.ext
      intro found
      simp only [liveTransport_eq_some, SlotTable.live_clear]
      constructor
      · rintro ⟨at_found, -, live⟩
        exact ⟨at_found, live⟩
      · rintro ⟨at_found, live⟩
        refine ⟨at_found, ?_, live⟩
        rintro rfl
        exact different (at_found.trans named.symm)

def closing (id : Int) : List TransportCall := if id = invalidId then [] else [.close id true]

theorem mem_closing {id : Int} {call : TransportCall} : call ∈ closing id ↔ id ≠ invalidId ∧ call = .close id true := by
  unfold closing
  split <;> simp_all

theorem count_closing {id slot : Int} (valid : slot ≠ invalidId) :
    (closing id).count (.close slot true) = if id = slot then 1 else 0 := by
  unfold closing
  by_cases same : id = slot
  · rw [if_neg (same ▸ valid), if_pos same, same, List.count_singleton_self]
  · rw [if_neg same]
    split
    · rfl
    · exact List.count_eq_zero.mpr (by simpa using fun named => same named.symm)

theorem closeTransport_calls {proxy : PjSIPProxy} {var : PjsuaVar} {type : TransportType} {id : Int}
    (destroyed : Except PjError Unit) (holds : HoldsTransport proxy type id)
    (kept : id ≠ invalidId → liveTransport var id = liveTransport proxy.pjsuaVar id) :
    (PjSIPProxy.closeTransport var id destroyed).2 = closing id := by
  unfold PjSIPProxy.closeTransport closing
  split
  · rfl
  rename_i valid
  rcases holds with invalid | ⟨slot, named, held⟩
  · exact absurd invalid valid
  have live : liveTransport proxy.pjsuaVar id = some slot :=
    liveTransport_eq_some.mpr ⟨named, by simp [SlotTable.Live, held]⟩
  rw [kept valid, live]
  cases transportClose var id destroyed <;> rfl

section Stop

variable {proxy : PjSIPProxy} (outcome : StopOutcome) (owned : TransportsOwned proxy)

include owned

theorem stop_kept_tcp : proxy.transportIdTCP ≠ invalidId →
    liveTransport (PjSIPProxy.closeTransport proxy.pjsuaVar proxy.transportIdUDP outcome.udp).1 proxy.transportIdTCP =
      liveTransport proxy.pjsuaVar proxy.transportIdTCP := by
  intro valid
  apply closeTransport_live
  intro same
  exact valid (same.trans (owned.udp_tcp same.symm))

theorem stop_kept_tcp6 : proxy.transportIdTCP6 ≠ invalidId →
    liveTransport (PjSIPProxy.closeTransport
      (PjSIPProxy.closeTransport proxy.pjsuaVar proxy.transportIdUDP outcome.udp).1 proxy.transportIdTCP outcome.tcp).1
        proxy.transportIdTCP6 = liveTransport proxy.pjsuaVar proxy.transportIdTCP6 := by
  intro valid
  rw [closeTransport_live, closeTransport_live]
  · intro same
    exact valid (same.trans (owned.udp_tcp6 same.symm))
  · intro same
    exact valid (same.trans (owned.tcp_tcp6 same.symm))

theorem stop_calls : (proxy.stop outcome).calls =
    closing proxy.transportIdUDP ++ closing proxy.transportIdTCP ++ closing proxy.transportIdTCP6 := by
  simp only [PjSIPProxy.stop]
  rw [closeTransport_calls _ owned.udp fun _ => rfl, closeTransport_calls _ owned.tcp (stop_kept_tcp outcome owned),
    closeTransport_calls _ owned.tcp6 (stop_kept_tcp6 outcome owned)]

theorem stop_calls_legal : ∀ call ∈ (proxy.stop outcome).calls, call.Legal proxy := by
  intro call member
  simp only [stop_calls outcome owned, List.mem_append] at member
  rcases member with (member | member) | member
  all_goals
    obtain ⟨-, rfl⟩ := mem_closing.mp member
    rfl

theorem stop_closes_all (known : TransportsKnown proxy) : ClosesAll proxy (proxy.stop outcome).calls := by
  intro slot live
  have valid : (slot.val : Int) ≠ invalidId := by
    unfold invalidId
    omega
  have apart : ∀ {left right : Int}, (left = right → left = invalidId) → left = slot.val → right ≠ slot.val := by
    intro left right distinct named other
    exact valid (named ▸ distinct (named.trans other.symm))
  rw [stop_calls outcome owned, List.count_append, List.count_append, count_closing valid, count_closing valid,
    count_closing valid]
  rcases known slot live with udp | tcp | tcp6
  · rw [if_pos udp, if_neg (apart owned.udp_tcp udp), if_neg (apart owned.udp_tcp6 udp)]
  · rw [if_neg fun udp => apart owned.udp_tcp udp tcp, if_pos tcp, if_neg (apart owned.tcp_tcp6 tcp)]
  · rw [if_neg fun udp => apart owned.udp_tcp6 udp tcp6, if_neg fun tcp => apart owned.tcp_tcp6 tcp tcp6, if_pos tcp6]

end Stop

theorem ownership_law_never (fresh : StartOutcome) (ops : List TransportOp) : ¬ OwnershipLaw fresh ops := by
  intro law
  exact init_not_owned fresh (law.owned [] List.nil_prefix)

def allOpened : StartOutcome where
  tcp := .ok ()
  udp := .ok ()
  started := .ok ()

def allClosed : StopOutcome where
  udp := .ok ()
  tcp := .ok ()
  tcp6 := .ok ()

/-- The first stop after a clean start closes the TCP slot a second time. -/
theorem ownership_law_first_stop : ¬ OwnershipLaw allOpened [.stop allClosed] := by
  intro law
  have legal := law.legal [] (.stop allClosed) List.prefix_rfl (.close 0 false) (by decide)
  exact absurd legal (by simp [TransportCall.Legal])

end TiSIP.Proxy
