import TiSIP.Calls.Views

namespace TiSIP.Calls

open Pjsip Pjsua

section Allocation

variable {before after : CallSystem} {id other : Nat} {leg third : Leg}

theorem allocate_cases (allocated : allocate before id leg = some after) :
    before.legs id = none ∧ ¬ (before.var.calls leg.slot).Live ∧ before.lock = none ∧ after = seat before id leg := by
  unfold allocate at allocated
  split at allocated
  · cases allocated
  · rename_i free
    rw [not_or, not_or, Bool.not_eq_true, Option.isSome_eq_false_iff, Bool.not_eq_true,
      Option.isSome_eq_false_iff, Option.isNone_iff_eq_none, Option.isNone_iff_eq_none] at free
    exact ⟨free.1, free.2.1, free.2.2, (Option.some.inj allocated).symm⟩

theorem seat_legs_own : (seat before id leg).legs id = some leg := setLeg_own _ _ _

theorem seat_legs_other (different : other ≠ id) : (seat before id leg).legs other = before.legs other :=
  setLeg_other different

theorem seat_owner_own : (seat before id leg).owner leg.slot = some id := Function.update_self _ _ _

theorem seat_owner_other {slot : Fin maxCalls} (away : slot ≠ leg.slot) :
    (seat before id leg).owner slot = before.owner slot :=
  Function.update_of_ne away _ _

theorem seat_session_own :
    ((seat before id leg).var.calls leg.slot).session = callSession leg 0 leg.session :=
  setSession_own _ _ _

theorem seat_calls_other {slot : Fin maxCalls} (away : slot ≠ leg.slot) :
    (seat before id leg).var.calls slot = before.var.calls slot :=
  setCall_other away

theorem seat_frame (unlocked : before.lock = none) (unowned : ∀ owner, before.owner leg.slot ≠ some owner)
    (different : other ≠ id) :
    LegFrame before other (before.view other third) ((seat before id leg).view other third) := by
  have taken : (seat before id leg).lock ≠ some other := fun same => different (Option.some.inj same).symm
  have free : before.lock ≠ some other := by
    rw [unlocked]
    exact nofun
  refine ⟨rfl, rfl, (view_unlocked taken).trans (view_unlocked free).symm, ?_, ?_⟩
  · intro owns
    rw [view_owns] at owns
    have away : third.slot ≠ leg.slot := by
      intro same
      rw [same, seat_owner_own] at owns
      exact different (Option.some.inj owns).symm
    rw [seat_owner_other away] at owns
    exact ⟨view_owns.mpr owns, congrArg Call.session (seat_calls_other away)⟩
  · intro owns
    rw [view_owns] at owns
    have away : third.slot ≠ leg.slot := by
      intro same
      rw [same] at owns
      exact unowned other owns
    exact .inl (view_owns.mpr ((seat_owner_other away).trans owns))

theorem seat_formed (formed : CallsFormed before) (unknown : before.legs id = none) :
    CallsFormed (seat before id leg) where
  used := by
    intro slot owner owns
    by_cases same : slot = leg.slot
    · rw [same]
      unfold Call.Live
      rw [seat_session_own]
      exact callSession_live _ _ _
    · rw [seat_owner_other same] at owns
      rw [seat_calls_other same]
      exact formed.used slot owner owns
  owned := by
    intro slot owner owns
    by_cases same : slot = leg.slot
    · rw [same, seat_owner_own] at owns
      obtain rfl : id = owner := Option.some.inj owns
      exact ⟨leg, seat_legs_own, same.symm⟩
    · rw [seat_owner_other same] at owns
      obtain ⟨third, known, sits⟩ := formed.owned slot owner owns
      have different : owner ≠ id := by
        intro same
        rw [same, unknown] at known
        cases known
      exact ⟨third, (seat_legs_other different).trans known, sits⟩
  recorded := by
    intro other missing
    have different : other ≠ id := by
      intro same
      rw [same, seat_legs_own] at missing
      cases missing
    rw [seat_legs_other different] at missing
    exact formed.recorded other missing

theorem allocate_over {label : CallLabel} (formed : CallsFormed before)
    (fresh : (∃ slot accId dlg, leg = outgoingLeg slot accId dlg) ∨
      ∃ slot accId dlg mediaPending replaces, leg = incomingLeg slot accId dlg mediaPending replaces)
    (allocated : allocate before id leg = some after) : StepsOver before label after ∧ CallsFormed after := by
  obtain ⟨unknown, dead, unlocked, rfl⟩ := allocate_cases allocated
  have unowned : ∀ owner, before.owner leg.slot ≠ some owner := fun owner owns => dead (formed.used _ owner owns)
  have seated : LegFresh before id ((seat before id leg).view id leg) :=
    ⟨unknown, fresh, view_owns.mpr seat_owner_own, decide_eq_true rfl, seat_session_own, formed.recorded id unknown⟩
  have frame : ∀ other third, other ≠ id → before.legs other = some third →
      LegFrame before other (before.view other third) ((seat before id leg).view other third) :=
    fun other third different _ => seat_frame unlocked unowned different
  exact ⟨.of_leg seat_legs_own (.inl seated) (fun _ => seat_legs_other) frame, seat_formed formed unknown⟩

end Allocation

section Progress

variable {before after : CallSystem} {label : CallLabel} {id other : Nat} {leg third : Leg}

theorem CallsFormed.setSession {slot : Fin maxCalls} {session : CallSession} (formed : CallsFormed before)
    (live : session.dlg.isSome) : CallsFormed (before.setSession slot session) where
  used := by
    intro other owner owns
    by_cases same : other = slot
    · rw [same]
      unfold Call.Live
      rw [setSession_own]
      exact live
    · rw [setSession_other same]
      exact formed.used other owner owns
  owned := formed.owned
  recorded := formed.recorded

structure SameCall (before after : Leg) : Prop where
  slot : after.slot = before.slot
  accId : after.accId = before.accId
  dlg : after.dlg = before.dlg
  announces : after.announces = before.announces
  answered : after.answered = before.answered

theorem setUpLeg_same (leg : Leg) (exit : SetUpExit) : SameCall leg (setUpLeg leg exit) := by
  unfold setUpLeg
  split
  · exact ⟨rfl, rfl, rfl, rfl, rfl⟩
  · split <;> exact ⟨rfl, rfl, rfl, rfl, rfl⟩

theorem changedLeg_same (leg : Leg) (session : Session) (change : Change) (rest : List Task) :
    SameCall leg (changedLeg leg session change rest) := by
  unfold changedLeg
  dsimp only
  split <;> exact ⟨rfl, rfl, rfl, rfl, rfl⟩

theorem SameCall.callSession {first second : Leg} (same : SameCall first second) :
    callSession second = callSession first := by
  funext lastCode session
  unfold Calls.callSession
  rw [same.accId, same.dlg]

theorem setUp_over {exit : SetUpExit} (formed : CallsFormed before) (known : before.legs id = some leg)
    (done : setUp before id leg exit = some after) : StepsOver before (.setUp id exit) after ∧ CallsFormed after := by
  have same := setUpLeg_same leg exit
  have slot := same.slot
  unfold setUp at done
  split at done
  · cases done
  · rename_i ready
    rw [not_or, not_or, not_or, not_not, not_not, not_not, Bool.not_eq_true, Option.isSome_eq_false_iff,
      Option.isNone_iff_eq_none] at ready
    obtain ⟨absent, idle, owns, locks⟩ := ready
    dsimp only at done
    rw [slot, same.callSession] at done
    obtain rfl := Option.some.inj done
    have locked : CallsFormed { before with lock := some id } := ⟨formed.used, formed.owned, formed.recorded⟩
    have attached : CallsFormed (CallSystem.setSession _ leg.slot _) :=
      locked.setSession (callSession_live leg exit.lastCode (setUpLeg leg exit).session)
    refine ⟨.of_leg (setLeg_own _ _ _) (.inr ⟨leg, known, ?_⟩) (fun _ => setLeg_other) ?_, attached.setLeg known slot⟩
    · have move : LegMove id (.setUp id exit) (before.view id leg) _ := .setUp exit absent idle (view_owns.mpr owns)
      convert move using 1
      ext1
      · rfl
      · show decide (before.owner (setUpLeg leg exit).slot = some id) = decide (before.owner leg.slot = some id)
        rw [slot]
      · exact decide_eq_true rfl
      · show ((CallSystem.setSession _ _ _).var.calls (setUpLeg leg exit).slot).session = _
        rw [slot, setSession_own]
        rfl
      · rfl
    · intro other third different _
      refine .of_slot different owns rfl (fun index away => setSession_other away) rfl ?_
      have taken : (some id : Option Nat) ≠ some other := fun same => different (Option.some.inj same).symm
      exact (decide_eq_false taken).trans (view_unlocked (Locks.other locks different)).symm

theorem perform_change_over {session : Session} {change : Change} {rest : List Task} (formed : CallsFormed before)
    (known : before.legs id = some leg) (held : leg.session = some session) (agenda : leg.agenda = .change change :: rest)
    (done : perform before id leg = some after) : StepsOver before (.perform id) after ∧ CallsFormed after := by
  have slot := (changedLeg_same leg session change rest).slot
  have move : LegMove id (.perform id) (before.view id leg) _ := .change held agenda
  unfold perform at done
  rw [held, agenda] at done
  obtain rfl := Option.some.inj done
  by_cases owns : before.owner leg.slot = some id
  · rw [if_pos owns]
    have attached : CallsFormed (before.setSession leg.slot _) := formed.setSession
      (callSession_live leg (before.var.calls leg.slot).session.lastCode (changedLeg leg session change rest).session)
    refine ⟨.of_leg (setLeg_own _ _ _) (.inr ⟨leg, known, ?_⟩) (fun _ => setLeg_other) ?_, attached.setLeg known slot⟩
    · rw [view_owns.mpr owns, if_pos rfl] at move
      convert move using 1
      ext1
      · rfl
      · show decide (before.owner (changedLeg leg session change rest).slot = some id) = true
        rw [slot]
        exact decide_eq_true owns
      · rfl
      · show ((CallSystem.setSession _ _ _).var.calls (changedLeg leg session change rest).slot).session = _
        rw [slot, setSession_own]
        rfl
      · rfl
    · intro other third different _
      exact .of_slot different owns rfl (fun index away => setSession_other away) rfl rfl
  · rw [if_neg owns]
    refine ⟨.of_agenda known ?_, formed.setLeg known slot⟩
    have unowned : (before.view id leg).owns = false := decide_eq_false owns
    rw [unowned, if_neg Bool.false_ne_true] at move
    convert move using 1
    ext1
    · rfl
    · show decide (before.owner (changedLeg leg session change rest).slot = some id) = false
      rw [slot]
      exact decide_eq_false owns
    · rfl
    · show (before.var.calls (changedLeg leg session change rest).slot).session = _
      rw [slot]
      rfl
    · rfl

theorem callEnd_other {var : CallVar} {index slot : Fin maxCalls} (away : slot ≠ index) :
    (callEnd var index).calls slot = var.calls slot :=
  setCall_other away

theorem perform_reset_over {rest : List Task} (formed : CallsFormed before) (known : before.legs id = some leg)
    (agenda : leg.agenda = .reset :: rest) (done : perform before id leg = some after) :
    StepsOver before (.perform id) after ∧ CallsFormed after := by
  unfold perform at done
  rw [agenda] at done
  dsimp only at done
  split at done
  · rename_i locks
    obtain rfl := Option.some.inj done
    have cleared : CallsFormed { before with
        var := callEnd before.var leg.slot, owner := Function.update before.owner leg.slot none } := by
      have elsewhere : ∀ {slot owner}, Function.update before.owner leg.slot none slot = some owner →
          slot ≠ leg.slot ∧ before.owner slot = some owner := by
        intro slot owner owns
        by_cases same : slot = leg.slot
        · rw [same, Function.update_self] at owns
          cases owns
        · rw [Function.update_of_ne same] at owns
          exact ⟨same, owns⟩
      refine ⟨?_, fun slot owner owns => formed.owned slot owner (elsewhere owns).2, formed.recorded⟩
      intro slot owner owns
      obtain ⟨away, owned⟩ := elsewhere owns
      show ((callEnd before.var leg.slot).calls slot).Live
      rw [callEnd_other away]
      exact formed.used slot owner owned
    refine ⟨.of_leg (setLeg_own _ _ _) (.inr ⟨leg, known, ?_⟩) (fun _ => setLeg_other) ?_, cleared.setLeg known rfl⟩
    · have move : LegMove id (.perform id) (before.view id leg) _ := .reset agenda
      convert move using 1
      ext1
      · rfl
      · apply decide_eq_false
        show Function.update before.owner leg.slot none leg.slot ≠ some id
        rw [Function.update_self]
        exact nofun
      · rfl
      · show ((callEnd before.var leg.slot).calls leg.slot).session = CallSession.reset
        rw [callEnd_own]
        rfl
      · rfl
    · intro other third different _
      by_cases same : third.slot = leg.slot
      · refine ⟨rfl, rfl, rfl, ?_, fun _ => .inr ?_⟩
        · intro owns
          have owns : Function.update before.owner leg.slot none third.slot = some other := view_owns.mp owns
          rw [same, Function.update_self] at owns
          cases owns
        · exact ⟨view_unlocked (Locks.other locks different), id, leg, rest, different.symm, known, same.symm, agenda⟩
      · have owner : Function.update before.owner leg.slot none third.slot = before.owner third.slot :=
          Function.update_of_ne same _ _
        refine ⟨rfl, rfl, rfl, ?_, ?_⟩
        · intro owns
          refine ⟨view_owns.mpr (owner.symm.trans (view_owns.mp owns)), ?_⟩
          exact congrArg Call.session (callEnd_other same)
        · intro owns
          exact .inl (view_owns.mpr (owner.trans (view_owns.mp owns)))
  · cases done

theorem perform_over (formed : CallsFormed before) (known : before.legs id = some leg)
    (done : perform before id leg = some after) : StepsOver before (.perform id) after ∧ CallsFormed after := by
  cases agenda : leg.agenda with
  | nil =>
    unfold perform at done
    rw [agenda] at done
    cases done
  | cons task rest =>
    cases task with
    | change change =>
      cases held : leg.session with
      | none =>
        unfold perform at done
        rw [agenda, held] at done
        cases done
      | some session => exact perform_change_over formed known held agenda done
    | reset => exact perform_reset_over formed known agenda done
    | callState | answer | announce =>
      unfold perform at done
      rw [agenda] at done
      cases done

theorem fire_over (formed : CallsFormed before) (known : before.legs id = some leg)
    (done : fire before id leg = some after) : StepsOver before (.fire id) after ∧ CallsFormed after := by
  unfold fire at done
  split at done
  · cases done
  · rename_i task rest agenda
    split at done
    · rw [Option.map_eq_some_iff] at done
      obtain ⟨kind, fired, rfl⟩ := done
      have move : LegMove id (.fire id) (before.view id leg) _ := .fire agenda (callGetInfo_tells before.var leg.slot) fired
      have own : (before.setLeg id { leg with agenda := rest }).legs id = some { leg with agenda := rest } :=
        setLeg_own _ _ _
      refine ⟨.of_leg own (.inr ⟨leg, known, ?_⟩) (fun _ => setLeg_other) ?_, ?_⟩
      · convert move using 1
        ext1
        · rfl
        · rfl
        · rfl
        · rfl
        · exact eventsOf_own _ _ _
      · intro other third different _
        exact ⟨rfl, eventsOf_other different.symm, rfl, fun owns => ⟨owns, rfl⟩, fun owns => .inl owns⟩
      · have seated : CallsFormed (before.setLeg id { leg with agenda := rest }) := formed.setLeg known rfl
        refine ⟨seated.used, seated.owned, ?_⟩
        intro other missing
        have different : id ≠ other := by
          intro same
          subst same
          cases own.symm.trans missing
        exact (eventsOf_other different).trans (seated.recorded other missing)
    · cases done

theorem unlock_over (formed : CallsFormed before) (known : before.legs id = some leg) (locked : before.lock = some id)
    (idle : leg.agenda = []) :
    StepsOver before (.unlock id) { before with lock := none } ∧ CallsFormed { before with lock := none } := by
  have free : ∀ other, ({ before with lock := none } : CallSystem).lock ≠ some other := fun _ => nofun
  refine ⟨.of_leg known (.inr ⟨leg, known, ?_⟩) (fun _ _ => rfl) ?_, formed.used, formed.owned, formed.recorded⟩
  · have move : LegMove id (.unlock id) (before.view id leg) _ := .unlock idle
    exact move
  · intro other third different _
    have busy : before.lock ≠ some other := by
      rw [locked]
      exact fun same => different (Option.some.inj same).symm
    exact ⟨rfl, rfl, (view_unlocked (free other)).trans (view_unlocked busy).symm, fun owns => ⟨owns, rfl⟩,
      fun owns => .inl owns⟩

end Progress

theorem callStep_over {before after : CallSystem} {label : CallLabel} (formed : CallsFormed before)
    (stepped : callStep before label = some after) : StepsOver before label after ∧ CallsFormed after := by
  cases label with
  | makeCall id slot accId dlg => exact allocate_over formed (.inl ⟨slot, accId, dlg, rfl⟩) stepped
  | incoming id slot accId dlg mediaPending replaces =>
    exact allocate_over formed (.inr ⟨slot, accId, dlg, mediaPending, replaces, rfl⟩) stepped
  | setUp id exit =>
    obtain ⟨leg, known, done⟩ := Option.bind_eq_some_iff.mp stepped
    exact setUp_over formed known done
  | mediaReady id =>
    obtain ⟨leg, known, done⟩ := Option.bind_eq_some_iff.mp stepped
    split at done
    · rename_i idle
      obtain rfl := Option.some.inj done
      have move : LegMove id (.mediaReady id) (before.view id leg) _ := .mediaReady idle
      exact ⟨.of_agenda known move, formed.setLeg known rfl⟩
    · cases done
  | session id event =>
    obtain ⟨leg, known, done⟩ := Option.bind_eq_some_iff.mp stepped
    obtain ⟨session, held, done⟩ := Option.bind_eq_some_iff.mp done
    split at done
    · rename_i ready
      obtain ⟨idle, arrives, safe⟩ := ready
      obtain rfl := Option.some.inj done
      have move : LegMove id (.session id event) (before.view id leg) _ := .session held idle arrives safe
      exact ⟨.of_agenda known move, formed.setLeg known rfl⟩
    · cases done
  | answer id outcome =>
    obtain ⟨leg, known, done⟩ := Option.bind_eq_some_iff.mp stepped
    split at done
    · rename_i rest session agenda held
      unfold answer at done
      split at done
      · cases done
      · obtain rfl := Option.some.inj done
        have move : LegMove id (.answer id outcome) (before.view id leg) _ := .answer held agenda
        exact ⟨.of_agenda known move, formed.setLeg known rfl⟩
    · cases done
  | perform id =>
    obtain ⟨leg, known, done⟩ := Option.bind_eq_some_iff.mp stepped
    exact perform_over formed known done
  | enter id =>
    obtain ⟨leg, _, done⟩ := Option.bind_eq_some_iff.mp stepped
    split at done
    · obtain rfl := Option.some.inj done
      exact ⟨.of_same rfl fun _ _ => rfl, formed.used, formed.owned, formed.recorded⟩
    · cases done
  | fire id =>
    obtain ⟨leg, known, done⟩ := Option.bind_eq_some_iff.mp stepped
    exact fire_over formed known done
  | unlock id =>
    obtain ⟨leg, known, done⟩ := Option.bind_eq_some_iff.mp stepped
    split at done
    · rename_i ready
      obtain rfl := Option.some.inj done
      exact unlock_over formed known ready.1 ready.2
    · cases done
  | occupy =>
    unfold callStep at stepped
    dsimp only at stepped
    split at stepped
    · obtain rfl := Option.some.inj stepped
      exact ⟨.of_same rfl fun _ _ => rfl, formed.used, formed.owned, formed.recorded⟩
    · cases stepped
  | vacate =>
    unfold callStep at stepped
    dsimp only at stepped
    split at stepped
    · obtain rfl := Option.some.inj stepped
      exact ⟨.of_same rfl fun _ _ => rfl, formed.used, formed.owned, formed.recorded⟩
    · cases stepped

structure AllLegs (Sound : LegView → Prop) (system : CallSystem) : Prop where
  formed : CallsFormed system
  sound : ∀ id leg, system.legs id = some leg → Sound (system.view id leg)

theorem startCalls_allLegs {Sound : LegView → Prop} : AllLegs Sound startCalls where
  formed := ⟨fun _ _ => nofun, fun _ _ => nofun, fun _ _ => rfl⟩
  sound := fun _ _ => nofun

theorem AllLegs.step {Sound : LegView → Prop} {before after : CallSystem} {label : CallLabel}
    (all : AllLegs Sound before) (stepped : CallStep before label after)
    (fresh : ∀ id view, LegFresh before id view → Sound view)
    (move : ∀ id leg view, before.legs id = some leg → Sound (before.view id leg) →
      LegMove id label (before.view id leg) view → Sound view)
    (frame : ∀ id leg view, before.legs id = some leg → Sound (before.view id leg) →
      LegFrame before id (before.view id leg) view → Sound view) : AllLegs Sound after := by
  obtain ⟨steps, formed⟩ := callStep_over all.formed stepped
  refine ⟨formed, ?_⟩
  intro id leg held
  rcases steps id leg held with started | ⟨former, known, moved | framed⟩
  · exact fresh id _ started
  · exact move id former _ known (all.sound id former known) moved
  · exact frame id former _ known (all.sound id former known) framed

end TiSIP.Calls
