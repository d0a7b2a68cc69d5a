import Mathlib.Algebra.GroupWithZero.Nat
import TiSIP.Lib.SlotTable

namespace TiSIP.Pjsua

inductive PjError
  | einval
  | einvalidop
  | etoomany
  | ebug
  | other (code : Int)
  deriving DecidableEq

inductive TransportType
  | udp
  | tcp
  | tcp6
  deriving DecidableEq

structure AccConfig where
  id : String
  regUri : String
  credRealm : String
  credUsername : String
  credData : String
  regTimeout : Nat
  mwiEnabled : Bool
  priority : Int
  transportId : Int
  deriving DecidableEq

def invalidId : Int := -1

abbrev maxTransports : Nat := 8

instance : NeZero maxTransports := ⟨Nat.succ_ne_zero _⟩

abbrev maxAcc : Nat := 4

instance : NeZero maxAcc := ⟨Nat.succ_ne_zero _⟩

/-- The transports and accounts of the global `pjsua_var`; `accIds` is the part of the
    `acc_ids` array below `acc_cnt`. -/
structure PjsuaVar where
  tpdata : SlotTable maxTransports TransportType
  acc : SlotTable maxAcc AccConfig
  accIds : List (Fin maxAcc)
  accCnt : Nat

/-- `init_data`, and what `pjsua_destroy` leaves: `pj_bzero` of the whole of `pjsua_var`. -/
def initData : PjsuaVar where
  tpdata := .empty
  acc := .empty
  accIds := []
  accCnt := 0

def transportCreate (var : PjsuaVar) (type : TransportType) (outcome : Except PjError Unit) :
    Except PjError (PjsuaVar × Fin maxTransports) :=
  match var.tpdata.lowestFree with
  | none => .error .etoomany
  | some id =>
    -- `outcome` is what opening the socket or the listener gives.
    match outcome with
    | .error error => .error error
    | .ok () => .ok ({ var with tpdata := var.tpdata.put id type }, id)

def liveTransport (var : PjsuaVar) (id : Int) : Option (Fin maxTransports) :=
  (SlotTable.slotOf maxTransports id).filter fun slot => var.tpdata.Live slot

def transportClose (var : PjsuaVar) (id : Int) (destroyed : Except PjError Unit) : Except PjError PjsuaVar :=
  match liveTransport var id with
  | none => .error .einval
  | some slot =>
    -- Always called with `force`; only then is the slot given back.
    match destroyed with
    | .error error => .error error
    | .ok () => .ok { var with tpdata := var.tpdata.clear slot }

theorem liveTransport_eq_some {var : PjsuaVar} {id : Int} {slot : Fin maxTransports} :
    liveTransport var id = some slot ↔ id = slot.val ∧ var.tpdata.Live slot := by
  simp [liveTransport, Option.filter_eq_some_iff, SlotTable.slotOf_eq_some]

theorem transportCreate_initData (type : TransportType) (outcome : Except PjError Unit) :
    transportCreate initData type outcome =
      outcome.map fun _ => ({ initData with tpdata := initData.tpdata.put 0 type }, 0) := by
  have free : initData.tpdata.lowestFree = some 0 := by decide
  cases outcome with
  | error error => simp [transportCreate, free, Except.map]
  | ok done => simp [transportCreate, free, Except.map]

end TiSIP.Pjsua
