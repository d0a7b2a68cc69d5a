import TiSIP.Pjsip.OfferAnswer

namespace TiSIP.Pjsip

open Pjmedia Transition Proposals

variable {table : Nat → Option Encoding}

section Agreement

def Silent (lines : List SdpMedia) : Prop := ∀ m ∈ lines, m.port = 0

/-- What two sessions have in force: nothing, or lines that they agree on, or nothing in use on one side. -/
inductive InForce : Option (List SdpMedia) → Option (List SdpMedia) → Prop
  | nothing : InForce none none
  | lines {here there : List SdpMedia} : List.Forall₂ LinesAgree here there → InForce (some here) (some there)
  | silentHere {here : List SdpMedia} {there : Option (List SdpMedia)} : Silent here → InForce (some here) there
  | silentThere {here : Option (List SdpMedia)} {there : List SdpMedia} : Silent there → InForce here (some there)

theorem mirror_mirror (dir : SdpDir) : dir.mirror.mirror = dir := by
  cases dir <;> rfl

theorem linesAgree_symm {here there : SdpMedia} (agree : LinesAgree here there) : LinesAgree there here := by
  have used : here.port ≠ 0 → there.port ≠ 0 := fun port => mt agree.port.mpr port
  constructor
  · exact agree.media.symm
  · exact agree.transport.symm
  · exact agree.port.symm
  · exact fun port => (agree.fmt (used port)).symm
  · intro port fmt member
    rw [agree.fmt (used port)] at member
    exact (agree.coding (used port) fmt member).symm
  · intro port
    rw [agree.dir (used port), mirror_mirror]

theorem InForce.symm (first second : Option (List SdpMedia)) (agree : InForce first second) : InForce second first := by
  cases agree with
  | nothing => exact .nothing
  | lines agree => exact .lines (agree.flip.imp fun _ _ => linesAgree_symm)
  | silentHere silent => exact .silentThere silent
  | silentThere silent => exact .silentHere silent

def AcceptsOffer (table : Nat → Option Encoding) (offer answer : SdpSession) (value : Option (List SdpMedia)) : Prop :=
  ProperSession table offer ∧ List.Forall₂ (Replies table) offer.media answer.media ∧ value = some answer.media

def ConcludesOffer (offer answer : SdpSession) (before after : Option (List SdpMedia)) : Prop :=
  after = match processAnswer [] offer answer with
    | (.success, settled, _) => some settled.media
    | _ => before

theorem concluded_inForce (offer answer : SdpSession) (value before after : Option (List SdpMedia))
    (accepted : AcceptsOffer table offer answer value) (concluded : ConcludesOffer offer answer before after) :
    InForce after value := by
  obtain ⟨proper, replies, rfl⟩ := accepted
  obtain ⟨settled, processed, -, agreed, -⟩ := processAnswer_agrees proper replies
  unfold ConcludesOffer at concluded
  rw [processed] at concluded
  by_cases active : answer.active = true
  · rw [if_pos active] at concluded
    rw [concluded]
    exact .lines agreed
  · rw [if_neg active] at concluded
    apply InForce.silentThere
    intro m member
    by_contra port
    exact active (List.any_eq_true.mpr ⟨m, member, by simpa using port⟩)

end Agreement

section Views

def stageOf (neg : SdpNeg) : Stage SdpSession :=
  match neg.state with
  | .done => .idle
  | .localOffer => neg.negLocalSdp.elim .idle .proposing
  | .remoteOffer | .waitNego => neg.negRemoteSdp.elim .idle .considering

def InvMessage.view : InvMessage → Message SdpSession SdpSession
  | .request _ sdp => .proposal sdp
  | .accepted _ sdp => .answer sdp
  | .failed => .rejection

abbrev InvParty : Type := Party SdpSession SdpSession (Option (List SdpMedia))

def inForce (neg : SdpNeg) : Option (List SdpMedia) := neg.activeLocalSdp.map SdpSession.media

def InvSession.view (inv : InvSession) : InvParty where
  value := inv.neg.bind inForce
  stage := inv.neg.elim .idle stageOf
  inbox := inv.inbox.map InvMessage.view

def InvDialog.view (dialog : InvDialog) : World SdpSession SdpSession (Option (List SdpMedia)) :=
  fun side => (dialog side).view

@[simp] theorem view_post_none (inv : InvSession) : (inv.post none).view = inv.view := by
  simp [InvSession.post, InvSession.view]

@[simp] theorem view_post_some (inv : InvSession) (message : InvMessage) :
    (inv.post (some message)).view = inv.view.receive message.view := by
  simp [InvSession.post, InvSession.view, Party.receive]

end Views

section Negotiators

structure Fit (table : Nat → Option Encoding) (neg : SdpNeg) : Prop where
  supplied : SdpNeg.Supplied table neg
  ours : neg.state = .waitNego → neg.hasRemoteAnswer = false

variable {neg after : SdpNeg}

theorem Fit.of_idle (sound : neg.Sound) (idle : neg.state = .done ∨ neg.state = .localOffer) : Fit table neg where
  supplied := .of_idle sound idle
  ours waiting := by rcases idle with state | state <;> simp [state] at waiting

theorem stageOf_done (state : neg.state = .done) : stageOf neg = .idle := by
  simp [stageOf, state]

theorem fixLines_mem (sdp : SdpSession) (old lines : List SdpMedia) {m : SdpMedia}
    (member : m ∈ SdpNeg.fixLines sdp old lines) : m ∈ lines ∨ m.port = 0 := by
  induction old generalizing lines with
  | nil => exact .inl member
  | cons om old ih =>
    rw [SdpNeg.fixLines] at member
    split at member
    · rename_i nm caught
      rcases List.mem_cons.mp member with rfl | later
      · exact .inl (List.mem_of_find?_eq_some caught)
      · exact (ih _ later).imp_left fun inside => List.mem_of_mem_eraseP inside
    · rcases List.mem_cons.mp member with rfl | later
      · exact .inr (mediaCloneDeactivate_line om om sdp).2.2
      · exact ih _ later

theorem fixedOffer_proper (allowMediaChange : Bool) (old : SdpSession) {sdp : SdpSession}
    (proper : ProperSession table sdp) : ProperSession table (SdpNeg.fixedOffer allowMediaChange old sdp) := by
  intro m member port
  unfold SdpNeg.fixedOffer at member
  dsimp only at member
  split at member
  · rcases List.mem_append.mp member with given | added
    · exact proper m given port
    · obtain ⟨om, -, rfl⟩ := List.mem_map.mp added
      exact absurd (mediaCloneDeactivate_line om om sdp).2.2 port
  · rcases fixLines_mem sdp old.media sdp.media member with given | rejected
    · exact proper m given port
    · exact absurd rejected port

theorem newOffer_spec (fit : Fit table neg) {allowMediaChange : Bool} {method : InviteMethod} {sdp : SdpSession}
    (proper : ProperSession table sdp) {sent : Option SdpSession}
    (made : newOffer allowMediaChange method neg sdp = some (after, sent)) :
    after = neg ∧ sent = none ∨
      ∃ offer, sent = some offer ∧ ProperSession table offer ∧ stageOf neg = .idle ∧ stageOf after = .proposing offer ∧
        inForce after = inForce neg ∧ Fit table after := by
  unfold newOffer at made
  split at made
  · cases method with
    | update =>
      cases made
      exact .inl ⟨rfl, rfl⟩
    | invite => cases made
  · rename_i state
    rw [ne_eq, not_not] at state
    obtain ⟨⟨status, modified⟩, performed, done⟩ := Option.bind_eq_some_iff.mp made
    cases done
    have sound := (SdpNeg.modifyLocalOffer2_keeps fit.supplied.sound performed).1
    unfold SdpNeg.modifyLocalOffer2 at performed
    rw [if_neg (not_not_intro state)] at performed
    split at performed
    · rename_i invalid
      cases performed
      exact .inl ⟨rfl, if_neg invalid⟩
    · obtain ⟨old, active, rest⟩ := Option.bind_eq_some_iff.mp performed
      dsimp only at rest
      split at rest
      · cases rest
      · cases rest
        right
        refine ⟨_, rfl, fixedOffer_proper allowMediaChange old proper, stageOf_done state, rfl, rfl, ?_⟩
        exact .of_idle sound (.inr rfl)

theorem createWRemoteOffer_spec {initial : Option SdpSession} {sdp : SdpSession} (proper : ProperSession table sdp)
    (capable : ∀ given, initial = some given → ProperSession table given) {made : Option SdpNeg}
    (created : SdpNeg.createWRemoteOffer initial sdp = (.success, made)) :
    ∃ neg, made = some neg ∧ stageOf neg = .considering sdp ∧ inForce neg = none ∧ Fit table neg := by
  have known := created
  unfold SdpNeg.createWRemoteOffer at created
  split at created
  · rename_i invalid
    simp only [Prod.mk.injEq] at created
    exact absurd created.1 invalid
  · split at created
    · cases created
      exact ⟨_, rfl, rfl, rfl, (SdpNeg.Created.remoteOffer proper capable known).supplied, fun _ => rfl⟩
    · split at created
      · rename_i invalid
        simp only [Prod.mk.injEq] at created
        exact absurd created.1 invalid
      · cases created
        exact ⟨_, rfl, rfl, rfl, (SdpNeg.Created.remoteOffer proper capable known).supplied, fun _ => rfl⟩

theorem setRemoteOffer_spec (fit : Fit table neg) (state : neg.state = .done) {sdp : SdpSession}
    (proper : ProperSession table sdp) :
    stageOf (neg.setRemoteOffer sdp).2 = .considering sdp ∧ inForce (neg.setRemoteOffer sdp).2 = inForce neg ∧
      (neg.setRemoteOffer sdp).2.state = .remoteOffer ∧ Fit table (neg.setRemoteOffer sdp).2 := by
  have supplied := SdpNeg.setRemoteOffer_supplied fit.supplied proper
  unfold SdpNeg.setRemoteOffer at supplied ⊢
  rw [if_neg (not_not_intro state)] at supplied ⊢
  exact ⟨rfl, rfl, rfl, supplied, fun waiting => nomatch waiting⟩

theorem setLocalAnswer_spec (fit : Fit table neg) (state : neg.state = .remoteOffer) {sdp : SdpSession}
    (proper : ProperSession table sdp) :
    stageOf (neg.setLocalAnswer sdp).2 = stageOf neg ∧ inForce (neg.setLocalAnswer sdp).2 = inForce neg ∧
      (neg.setLocalAnswer sdp).2.state = .waitNego ∧ Fit table (neg.setLocalAnswer sdp).2 := by
  have supplied := SdpNeg.setLocalAnswer_supplied fit.supplied proper
  have atHand := fit.supplied.sound.atHand
  rw [state] at atHand
  have parts : stageOf (neg.setLocalAnswer sdp).2 = stageOf neg ∧ inForce (neg.setLocalAnswer sdp).2 = inForce neg ∧
      (neg.setLocalAnswer sdp).2.state = .waitNego ∧ (neg.setLocalAnswer sdp).2.hasRemoteAnswer = false := by
    unfold SdpNeg.setLocalAnswer
    rw [if_neg (not_not_intro state)]
    split
    · exact ⟨by simp [stageOf, state], rfl, rfl, atHand.2.2⟩
    · exact ⟨by simp [stageOf, state], rfl, rfl, atHand.2.2⟩
  obtain ⟨stage, value, waiting, ours⟩ := parts
  exact ⟨stage, value, waiting, supplied, fun _ => ours⟩

theorem cancelOffer_spec (fit : Fit table neg) (open_ : neg.state = .localOffer ∨ neg.state = .remoteOffer) :
    stageOf neg.cancelOffer.2 = .idle ∧ inForce neg.cancelOffer.2 = inForce neg ∧ Fit table neg.cancelOffer.2 := by
  have sound := (SdpNeg.cancelOffer_keeps fit.supplied.sound).1
  have state : neg.cancelOffer.2.state = .done := by
    rcases open_ with state | state <;> simp [SdpNeg.cancelOffer, state]
  refine ⟨stageOf_done state, ?_, .of_idle sound (.inl state)⟩
  rcases open_ with given | given
  · cases active : neg.activeLocalSdp <;> simp [SdpNeg.cancelOffer, given, inForce, active]
  · simp [SdpNeg.cancelOffer, given, inForce]

theorem negotiated_spec (fit : Fit table neg) (state : neg.state = .waitNego) {method : InviteMethod} {reply : InvMessage}
    (made : negotiated method neg = some (after, reply)) :
    ∃ offer, stageOf neg = .considering offer ∧ stageOf after = .idle ∧ Fit table after ∧
      (reply = .failed ∧ inForce after = inForce neg ∨
        ∃ answer, reply = .accepted method answer ∧ AcceptsOffer table offer answer (inForce after)) := by
  have atHand := fit.supplied.sound.atHand
  rw [state] at atHand
  have ours := fit.ours state
  obtain ⟨sdp, capable⟩ := Option.isSome_iff_exists.mp atHand.1
  obtain ⟨offer, offered⟩ := Option.isSome_iff_exists.mp atHand.2.1
  obtain ⟨properOffer, properAnswer⟩ := fit.supplied.answering state ours
  have considering : stageOf neg = .considering offer := by simp [stageOf, state, offered]
  obtain ⟨status, answer, created, replies⟩ :=
    createAnswer_replies neg.prefs (properAnswer sdp capable) (properOffer offer offered)
  by_cases success : status = .success
  · subst success
    have previous : neg.previousSdp.isSome = true := by
      unfold SdpNeg.previousSdp
      split
      · assumption
      · exact atHand.2.2.1
    obtain ⟨numbered, known⟩ := Option.isSome_iff_exists.mp previous
    have performed : neg.negotiate [] = some ({ neg with
        activeLocalSdp := some { answer with origin := { answer.origin with version := numbered.origin.version + 1 } }
        activeRemoteSdp := some offer }.finish .success) := by
      simp only [SdpNeg.negotiate, state, offered, ours, SdpNeg.negotiateOffer, capable, created, known, ne_eq, not_true,
        if_false, Bool.false_eq_true, Option.bind_eq_bind, Option.bind_some]
    have sound := (SdpNeg.negotiate_keeps fit.supplied.sound performed).1
    simp only [negotiated, performed, SdpNeg.finish, Option.bind_eq_bind, Option.bind_some, Option.some.injEq,
      Prod.mk.injEq] at made
    obtain ⟨rfl, rfl⟩ := made
    refine ⟨offer, considering, rfl, .of_idle sound (.inl rfl), .inr ⟨_, rfl, ?_⟩⟩
    exact ⟨properOffer offer offered, replies (createAnswer_valid neg.prefs created), rfl⟩
  · have performed : neg.negotiate [] = some (neg.finish status) := by
      simp only [SdpNeg.negotiate, state, offered, ours, SdpNeg.negotiateOffer, capable, created, ne_eq, not_true,
        if_false, Bool.false_eq_true, Option.bind_eq_bind, Option.bind_some]
    have sound := (SdpNeg.negotiate_keeps fit.supplied.sound performed).1
    simp only [negotiated, performed, SdpNeg.finish, Option.bind_eq_bind, Option.bind_some, Option.some.injEq,
      Prod.mk.injEq] at made
    obtain ⟨rfl, rfl⟩ := made
    exact ⟨offer, considering, rfl, .of_idle sound (.inl rfl), .inl ⟨rfl, rfl⟩⟩

theorem stageOf_proposing {offer : SdpSession} (proposing : stageOf neg = .proposing offer) :
    neg.state = .localOffer ∧ neg.negLocalSdp = some offer := by
  unfold stageOf at proposing
  cases state : neg.state with
  | localOffer =>
    cases known : neg.negLocalSdp with
    | none => simp [state, known] at proposing
    | some given => simpa [state, known] using proposing
  | done => simp [state] at proposing
  | remoteOffer => cases known : neg.negRemoteSdp <;> simp [state, known] at proposing
  | waitNego => cases known : neg.negRemoteSdp <;> simp [state, known] at proposing

theorem checkSdp_answer (fit : Fit table neg) {offer : SdpSession} (proposing : stageOf neg = .proposing offer)
    (sdp : SdpSession) :
    ∃ after, checkSdp (some neg) sdp = some (some after) ∧ stageOf after = .idle ∧ Fit table after ∧
      ConcludesOffer offer sdp (inForce neg) (inForce after) := by
  obtain ⟨state, known⟩ := stageOf_proposing proposing
  have answered := SdpNeg.setRemoteAnswer_keeps fit.supplied.sound sdp
  have waiting : (neg.setRemoteAnswer sdp).2 = { neg with
      state := .waitNego, hasRemoteAnswer := true, negRemoteSdp := some sdp } := by
    simp [SdpNeg.setRemoteAnswer, state]
  rw [waiting] at answered
  have sound := (@SdpNeg.negotiateAnswer_keeps [] _ answered.1 rfl sdp).1
  have done : (SdpNeg.negotiateAnswer [] { neg with
      state := .waitNego, hasRemoteAnswer := true, negRemoteSdp := some sdp } sdp).2.state = .done := by
    unfold SdpNeg.negotiateAnswer
    split
    · rfl
    · split <;> rfl
  refine ⟨_, by simp only [checkSdp, state, waiting, SdpNeg.negotiate]; rfl, stageOf_done done, .of_idle sound (.inl done), ?_⟩
  · unfold ConcludesOffer SdpNeg.negotiateAnswer
    simp only [known]
    rcases processAnswer [] offer sdp with ⟨status, settled, answer⟩
    cases status <;> rfl

end Negotiators

section Actions

def InvAction.Proper (table : Nat → Option Encoding) : InvAction → Prop
  | .offer _ sdp => ProperSession table sdp
  | .rxInvite initial _ => ∀ given, initial = some given → ProperSession table given
  | .rxUpdate chosen _ => ∀ given, chosen = some given → ProperSession table given
  | .answer sdp => ∀ given, sdp = some given → ProperSession table given
  | _ => True

structure Able (table : Nat → Option Encoding) (inv : InvSession) : Prop where
  neg : ∀ neg, inv.neg = some neg → Fit table neg
  requests : ∀ method sdp, .request method sdp ∈ inv.inbox → ProperSession table sdp

abbrev InvMoves (table : Nat → Option Encoding) : InvParty × InvParty → InvParty × InvParty → Prop :=
  Proposals.Moves (AcceptsOffer table) ConcludesOffer

variable {inv theirs mine : InvSession} {sent : Option InvMessage} {allowMediaChange : Bool}

theorem take_spec {message : InvMessage} (taken : inv.take message = some mine) :
    message ∈ inv.inbox ∧ mine = { inv with inbox := inv.inbox.erase message } := by
  unfold InvSession.take at taken
  split at taken
  · rename_i member
    cases taken
    exact ⟨member, rfl⟩
  · cases taken

theorem view_take {message : InvMessage} (member : message ∈ inv.inbox) :
    inv.view.inbox.Perm (message.view :: (inv.inbox.erase message).map InvMessage.view) :=
  (List.perm_cons_erase member).map InvMessage.view

theorem Able.taken (able : Able table inv) (message : InvMessage) :
    Able table { inv with inbox := inv.inbox.erase message } where
  neg := able.neg
  requests method sdp member := able.requests method sdp (List.mem_of_mem_erase member)

theorem Able.post (able : Able table inv) (sent : Option InvMessage)
    (proper : ∀ method sdp, sent = some (.request method sdp) → ProperSession table sdp) : Able table (inv.post sent) where
  neg := able.neg
  requests method sdp member := by
    rcases List.mem_append.mp member with before | now
    · exact able.requests method sdp before
    · exact proper method sdp (by simpa using now)

/-- What is shown of every action: the session stays able, what it sends is proper, and the two
    sessions have moved as parties do. -/
structure Proceeds (table : Nat → Option Encoding) (inv theirs mine : InvSession) (sent : Option InvMessage) : Prop where
  able : Able table mine
  proper : ∀ method sdp, sent = some (.request method sdp) → ProperSession table sdp
  moves : InvMoves table (inv.view, theirs.view) (mine.view, (theirs.post sent).view)

theorem view_some {neg : SdpNeg} (known : inv.neg = some neg) :
    inv.view = { value := inForce neg, stage := stageOf neg, inbox := inv.inbox.map InvMessage.view } := by
  simp [InvSession.view, known]

theorem view_with (neg : SdpNeg) (inbox : List InvMessage) :
    InvSession.view { neg := some neg, inbox } =
      { value := inForce neg, stage := stageOf neg, inbox := inbox.map InvMessage.view } := rfl

theorem view_none (missing : inv.neg = none) :
    inv.view = { value := none, stage := .idle, inbox := inv.inbox.map InvMessage.view } := by
  simp [InvSession.view, missing]

theorem Able.replace (able : Able table inv) {neg : SdpNeg} (fit : Fit table neg) :
    Able table { inv with neg := some neg } where
  neg := by rintro _ ⟨⟩; exact fit
  requests := able.requests

theorem offer_proceeds (able : Able table inv) {method : InviteMethod} {sdp : SdpSession}
    (proper : ProperSession table sdp) (acted : inv.act allowMediaChange (.offer method sdp) = some (mine, sent)) :
    Proceeds table inv theirs mine sent := by
  obtain ⟨neg, known, rest⟩ := Option.bind_eq_some_iff.mp acted
  obtain ⟨⟨after, offer⟩, made, done⟩ := Option.bind_eq_some_iff.mp rest
  cases done
  rcases newOffer_spec (able.neg neg known) proper made with ⟨rfl, rfl⟩ | ⟨fixed, rfl, properOffer, idle, proposing, value, fit⟩
  · have same : ({ inv with neg := some after } : InvSession) = inv := by rw [← known]
    rw [same]
    constructor
    · exact able
    · exact fun _ _ impossible => nomatch impossible
    · simp only [Option.map_none, view_post_none]
      exact .refl
  · constructor
    · exact able.replace fit
    · rintro _ _ ⟨⟩
      exact properOffer
    · rw [Option.map_some, view_post_some, view_some known, view_with, proposing, value, idle]
      exact .single (.propose fixed rfl)

theorem decline_proceeds {method : InviteMethod} {sdp : SdpSession} (able : Able table inv)
    (member : .request method sdp ∈ inv.inbox) :
    Proceeds table inv theirs { inv with inbox := inv.inbox.erase (.request method sdp) } (some .failed) := by
  constructor
  · exact able.taken _
  · exact fun _ _ impossible => nomatch impossible
  · rw [view_post_some]
    exact .single (.decline (view_take member))

theorem rxInvite_proceeds (able : Able table inv) {initial : Option SdpSession} {sdp : SdpSession}
    (capable : ∀ given, initial = some given → ProperSession table given)
    (acted : inv.act allowMediaChange (.rxInvite initial sdp) = some (mine, sent)) : Proceeds table inv theirs mine sent := by
  obtain ⟨read, taken, rest⟩ := Option.bind_eq_some_iff.mp acted
  cases rest
  obtain ⟨member, rfl⟩ := take_spec taken
  have proper := able.requests _ _ member
  have moved := view_take member
  cases known : inv.neg with
  | none =>
    dsimp only
    split
    · rename_i made created
      obtain ⟨neg, rfl, considering, value, fit⟩ := createWRemoteOffer_spec proper capable created
      constructor
      · exact (able.taken _).replace fit
      · exact fun _ _ impossible => nomatch impossible
      · rw [view_post_none, view_with, considering, value]
        rw [view_none known] at moved ⊢
        exact .single (.take moved rfl)
    · have same : ({ neg := none, inbox := inv.inbox.erase (.request .invite sdp) } : InvSession) =
          { inv with inbox := inv.inbox.erase (.request .invite sdp) } := by rw [known]
      rw [same]
      exact decline_proceeds able member
  | some neg =>
    dsimp only
    split
    · have same : ({ neg := some neg, inbox := inv.inbox.erase (.request .invite sdp) } : InvSession) =
          { inv with inbox := inv.inbox.erase (.request .invite sdp) } := by rw [known]
      rw [same]
      exact decline_proceeds able member
    · rename_i state
      rw [ne_eq, not_not] at state
      obtain ⟨considering, value, -, fit⟩ := setRemoteOffer_spec (able.neg neg known) state proper
      constructor
      · exact (able.taken _).replace fit
      · exact fun _ _ impossible => nomatch impossible
      · rw [view_post_none, view_with, considering, value]
        rw [view_some known, stageOf_done state] at moved ⊢
        exact .single (.take moved rfl)

theorem negotiated_proceeds {neg settled : SdpNeg} (fit : Fit table neg) (inbox : List InvMessage)
    (state : neg.state = .waitNego) {method : InviteMethod} {reply : InvMessage}
    (made : negotiated method neg = some (settled, reply)) (theirs : InvSession) :
    Fit table settled ∧ (∀ method sdp, some reply ≠ some (.request method sdp)) ∧
      InvMoves table (InvSession.view { neg := some neg, inbox }, theirs.view)
        (InvSession.view { neg := some settled, inbox }, (theirs.post (some reply)).view) := by
  obtain ⟨offer, considering, idle, after, outcome⟩ := negotiated_spec fit state made
  refine ⟨after, ?_, ?_⟩
  · rcases outcome with ⟨rfl, -⟩ | ⟨answer, rfl, -⟩ <;> exact fun _ _ impossible => nomatch impossible
  · rw [view_post_some, view_with, view_with, idle, considering]
    rcases outcome with ⟨rfl, value⟩ | ⟨answer, rfl, accepted⟩
    · rw [value]
      exact .single (.refuse rfl)
    · exact .single (.accept rfl accepted)

theorem rxUpdate_proceeds (able : Able table inv) {chosen : Option SdpSession} {sdp : SdpSession}
    (capable : ∀ given, chosen = some given → ProperSession table given)
    (acted : inv.act allowMediaChange (.rxUpdate chosen sdp) = some (mine, sent)) : Proceeds table inv theirs mine sent := by
  obtain ⟨read, taken, rest⟩ := Option.bind_eq_some_iff.mp acted
  obtain ⟨member, rfl⟩ := take_spec taken
  obtain ⟨neg, known, more⟩ := Option.bind_eq_some_iff.mp rest
  obtain ⟨⟨after, reply⟩, responded, done⟩ := Option.bind_eq_some_iff.mp more
  cases done
  change inv.neg = some neg at known
  have proper := able.requests _ _ member
  have moved := view_take member
  unfold respondIncomingUpdate at responded
  split at responded
  · cases responded
    have same : ({ neg := some neg, inbox := inv.inbox.erase (.request .update sdp) } : InvSession) =
        { inv with inbox := inv.inbox.erase (.request .update sdp) } := by rw [known]
    rw [same]
    exact decline_proceeds able member
  · rename_i state
    rw [ne_eq, not_not] at state
    obtain ⟨considering, value, offered, fit⟩ := setRemoteOffer_spec (able.neg neg known) state proper
    have ableToo := able.taken (.request .update sdp)
    have first : InvMoves table (inv.view, theirs.view)
        (InvSession.view { neg := some (neg.setRemoteOffer sdp).2, inbox := inv.inbox.erase (.request .update sdp) },
          theirs.view) := by
      rw [view_with, considering, value]
      rw [view_some known, stageOf_done state] at moved ⊢
      exact .single (.take moved rfl)
    dsimp only at responded
    split at responded
    · cases responded
      obtain ⟨idle, kept, fitToo⟩ := cancelOffer_spec fit (.inr offered)
      constructor
      · exact ableToo.replace fitToo
      · exact fun _ _ impossible => nomatch impossible
      · apply first.trans
        rw [view_post_some, view_with, view_with, considering, idle, kept]
        exact .single (.refuse rfl)
    · rename_i given
      obtain ⟨stage, kept, waiting, fitToo⟩ := setLocalAnswer_spec fit offered (capable given rfl)
      obtain ⟨fitLast, noRequest, moves⟩ := negotiated_proceeds fitToo _ waiting responded theirs
      constructor
      · exact ableToo.replace fitLast
      · exact fun method given same => absurd same (noRequest method given)
      · apply first.trans
        have same : InvSession.view
              { neg := some (neg.setRemoteOffer sdp).2, inbox := inv.inbox.erase (.request .update sdp) } =
            InvSession.view
              { neg := some ((neg.setRemoteOffer sdp).2.setLocalAnswer given).2
                inbox := inv.inbox.erase (.request .update sdp) } := by
          rw [view_with, view_with, stage, kept]
        rw [same]
        exact moves

theorem answer_proceeds (able : Able table inv) {chosen : Option SdpSession}
    (capable : ∀ given, chosen = some given → ProperSession table given)
    (acted : inv.act allowMediaChange (.answer chosen) = some (mine, sent)) : Proceeds table inv theirs mine sent := by
  obtain ⟨neg, known, rest⟩ := Option.bind_eq_some_iff.mp acted
  obtain ⟨⟨after, reply⟩, answered, done⟩ := Option.bind_eq_some_iff.mp rest
  cases done
  have fit := able.neg neg known
  unfold processAnswer200 at answered
  split at answered
  · rename_i given state
    obtain ⟨stage, kept, waiting, fitToo⟩ := setLocalAnswer_spec fit state (capable given rfl)
    obtain ⟨fitLast, noRequest, moves⟩ := negotiated_proceeds fitToo inv.inbox waiting answered theirs
    constructor
    · exact able.replace fitLast
    · exact fun method given same => absurd same (noRequest method given)
    · rw [view_with, stage, kept, ← view_some known] at moves
      exact moves
  · rename_i state
    obtain ⟨fitLast, noRequest, moves⟩ := negotiated_proceeds fit inv.inbox state answered theirs
    constructor
    · exact able.replace fitLast
    · exact fun method given same => absurd same (noRequest method given)
    · rw [view_with, ← view_some known] at moves
      exact moves
  · cases answered

theorem reject_proceeds (able : Able table inv) (acted : inv.act allowMediaChange .reject = some (mine, sent)) :
    Proceeds table inv theirs mine sent := by
  obtain ⟨neg, known, rest⟩ := Option.bind_eq_some_iff.mp acted
  obtain ⟨⟨after, reply⟩, rejected, done⟩ := Option.bind_eq_some_iff.mp rest
  cases done
  have fit := able.neg neg known
  unfold processRejection at rejected
  split at rejected
  · rename_i state
    cases rejected
    obtain ⟨idle, kept, fitToo⟩ := cancelOffer_spec fit (.inr state)
    have atHand := fit.supplied.sound.atHand
    rw [state] at atHand
    obtain ⟨offer, offered⟩ := Option.isSome_iff_exists.mp atHand.1
    have considering : stageOf neg = .considering offer := by simp [stageOf, state, offered]
    constructor
    · exact able.replace fitToo
    · exact fun _ _ impossible => nomatch impossible
    · rw [view_post_some, view_some known, view_with, considering, idle, kept]
      exact .single (.refuse rfl)
  · cases rejected

theorem rxAccepted_proceeds (able : Able table inv) {offer : SdpSession} (proposing : inv.view.stage = .proposing offer)
    {method : InviteMethod} {sdp : SdpSession}
    (acted : inv.act allowMediaChange (.rxAccepted method sdp) = some (mine, sent)) : Proceeds table inv theirs mine sent := by
  obtain ⟨read, taken, rest⟩ := Option.bind_eq_some_iff.mp acted
  obtain ⟨member, rfl⟩ := take_spec taken
  obtain ⟨after, accepted, done⟩ := Option.bind_eq_some_iff.mp rest
  cases done
  have moved := view_take member
  cases known : inv.neg with
  | none =>
    rw [view_none known] at proposing
    cases proposing
  | some neg =>
    rw [view_some known] at proposing
    obtain ⟨settled, checked, idle, fit, concluded⟩ := checkSdp_answer (able.neg neg known) proposing sdp
    have outcome : after = some settled := by
      unfold rxAccepted at accepted
      simp only [known] at accepted
      split at accepted
      · exact Option.some.inj (accepted.symm.trans checked)
      · rw [if_pos (by simp [(stageOf_proposing proposing).1])] at accepted
        exact Option.some.inj (accepted.symm.trans checked)
    rw [outcome]
    constructor
    · exact (able.taken _).replace fit
    · exact fun _ _ impossible => nomatch impossible
    · rw [view_post_none, view_with, idle]
      rw [view_some known] at moved ⊢
      exact .single (.conclude moved proposing concluded)

theorem rxFailed_proceeds (able : Able table inv) {offer : SdpSession} (proposing : inv.view.stage = .proposing offer)
    (acted : inv.act allowMediaChange .rxFailed = some (mine, sent)) : Proceeds table inv theirs mine sent := by
  obtain ⟨read, taken, rest⟩ := Option.bind_eq_some_iff.mp acted
  obtain ⟨member, rfl⟩ := take_spec taken
  have moved := view_take member
  cases known : inv.neg with
  | none =>
    rw [view_none known] at proposing
    cases proposing
  | some neg =>
    rw [view_some known] at proposing
    have state := (stageOf_proposing proposing).1
    obtain ⟨idle, kept, fit⟩ := cancelOffer_spec (able.neg neg known) (.inl state)
    simp only [rxFailed, known, Option.map_some, state, if_true, Option.some.injEq, Prod.mk.injEq] at rest
    obtain ⟨rfl, rfl⟩ := rest
    constructor
    · exact (able.taken _).replace fit
    · exact fun _ _ impossible => nomatch impossible
    · rw [view_post_none, view_with, idle, kept]
      rw [view_some known] at moved ⊢
      exact .single (.withdraw moved proposing)

theorem prefer_proceeds (able : Able table inv) {preferRemote answerMultiple : Bool}
    (acted : inv.act allowMediaChange (.prefer preferRemote answerMultiple) = some (mine, sent)) :
    Proceeds table inv theirs mine sent := by
  obtain ⟨neg, known, rest⟩ := Option.bind_eq_some_iff.mp acted
  cases rest
  have fit := able.neg neg known
  constructor
  · apply able.replace
    exact ⟨⟨⟨fit.supplied.sound.initial, fit.supplied.sound.atHand⟩, fit.supplied.offered, fit.supplied.answering⟩, fit.ours⟩
  · exact fun _ _ impossible => nomatch impossible
  · rw [view_post_none, view_some known]
    exact .refl

theorem act_proceeds (able : Able table inv) {action : InvAction} (proper : action.Proper table)
    (replied : ∀ message ∈ inv.inbox, message.view.isProposal = false → ∃ offer, inv.view.stage = .proposing offer)
    (acted : inv.act allowMediaChange action = some (mine, sent)) : Proceeds table inv theirs mine sent := by
  cases action with
  | offer method sdp => exact offer_proceeds able proper acted
  | rxInvite initial sdp => exact rxInvite_proceeds able proper acted
  | rxUpdate chosen sdp => exact rxUpdate_proceeds able proper acted
  | answer chosen => exact answer_proceeds able proper acted
  | reject => exact reject_proceeds able acted
  | rxAccepted method sdp =>
    obtain ⟨read, taken, -⟩ := Option.bind_eq_some_iff.mp acted
    obtain ⟨offer, proposing⟩ := replied _ (take_spec taken).1 rfl
    exact rxAccepted_proceeds able proposing acted
  | rxFailed =>
    obtain ⟨read, taken, -⟩ := Option.bind_eq_some_iff.mp acted
    obtain ⟨offer, proposing⟩ := replied _ (take_spec taken).1 rfl
    exact rxFailed_proceeds able proposing acted
  | prefer preferRemote answerMultiple => exact prefer_proceeds able acted

end Actions

section Dialogs

structure Settling (table : Nat → Option Encoding) (dialog : InvDialog) : Prop where
  able : ∀ side, Able table (dialog side)
  consistent : Consistent (AcceptsOffer table) InForce dialog.view

variable {allowMediaChange : Bool} {before after dialog : InvDialog} {label : Side × InvAction}

/-- The dialog does what the parties of proposals do. -/
theorem dialog_refines (settling : Settling table before) (proper : label.2.Proper table)
    (step : DialogStep allowMediaChange before label after) :
    (∀ side, Able table (after side)) ∧ Proposals.Step (AcceptsOffer table) ConcludesOffer before.view after.view := by
  obtain ⟨⟨mine, sent⟩, acted, done⟩ := Option.bind_eq_some_iff.mp step
  cases done
  have replied : ∀ message ∈ (before label.1).inbox, message.view.isProposal = false →
      ∃ offer, (before label.1).view.stage = .proposing offer := fun message member reply =>
    settling.consistent.replied (List.mem_map_of_mem member) reply
  have proceeds : Proceeds table (before label.1) (before label.1.other) mine sent :=
    act_proceeds (settling.able label.1) proper replied acted
  have apart : label.1.other ≠ label.1 := by
    cases label.1 <;> simp [Side.other]
  constructor
  · intro side
    rcases label.1.eq_or_other side with rfl | rfl
    · simpa using proceeds.able
    · simpa [apart] using (settling.able label.1.other).post sent proceeds.proper
  · refine ⟨label.1, ?_⟩
    simpa [InvDialog.view, apart] using proceeds.moves

theorem Settling.step (settling : Settling table before) (proper : label.2.Proper table)
    (step : DialogStep allowMediaChange before label after) : Settling table after := by
  obtain ⟨able, moved⟩ := dialog_refines settling proper step
  exact ⟨able, moved.consistent InForce.symm concluded_inForce settling.consistent⟩

theorem dialed_settling {offer : SdpSession} (proper : ProperSession table offer) {neg : SdpNeg}
    (created : SdpNeg.createWLocalOffer offer = (.success, some neg)) : Settling table (dialed neg offer) := by
  have supplied := (SdpNeg.Created.localOffer created : SdpNeg.Created (ProperSession table) neg).supplied
  unfold SdpNeg.createWLocalOffer at created
  split at created
  · rename_i invalid
    simp only [Prod.mk.injEq] at created
    exact absurd created.1 invalid
  · cases created
    constructor
    · intro side
      cases side with
      | left => exact ⟨by rintro _ ⟨⟩; exact ⟨supplied, fun waiting => nomatch waiting⟩, fun _ _ member => nomatch member⟩
      | right =>
        refine ⟨fun _ impossible => (nomatch impossible), fun method sdp member => ?_⟩
        cases List.mem_singleton.mp member
        exact proper
    · let silent : InvParty := { value := none, stage := .idle, inbox := [] }
      have fresh : Consistent (AcceptsOffer table) InForce fun _ => silent :=
        .of_fresh (fun _ => ⟨rfl, rfl⟩) fun _ => .nothing
      apply Proposals.Step.consistent InForce.symm concluded_inForce fresh
      exact ⟨.left, .single (.propose offer rfl)⟩

theorem run_settling {labels : List (Side × InvAction)} (settling : Settling table before)
    (run : Execution (DialogStep allowMediaChange) before labels dialog) (proper : ∀ label ∈ labels, label.2.Proper table) :
    Settling table dialog := by
  induction run with
  | stop => exact settling
  | next _ step ih =>
    have earlier := ih fun label member => proper label (List.mem_append_left _ member)
    exact earlier.step (proper _ (by simp)) step

def play (allowMediaChange : Bool) (dialog : InvDialog) : List (Side × InvAction) → Option InvDialog
  | [] => some dialog
  | label :: rest => do play allowMediaChange (← dialog.next allowMediaChange label) rest

theorem play_execution {labels : List (Side × InvAction)} (played : play allowMediaChange before labels = some after) :
    Execution (DialogStep allowMediaChange) before labels after := by
  induction labels generalizing before with
  | nil =>
    cases played
    exact .stop
  | cons label rest ih =>
    obtain ⟨middle, step, later⟩ := Option.bind_eq_some_iff.mp played
    exact (Execution.single step).trans (ih later)

def softPhoneAnswer : SdpSession :=
  let answer := sessionOf "10.0.0.2" [audioLine ["0", "101"] [rtpmapAttr "0 PCMU/8000",
    rtpmapAttr "101 telephone-event/8000", { name := pjStr "recvonly", value := [] }]]
  { answer with origin := { answer.origin with version := 2 } }

def answeredCall : List (Side × InvAction) :=
  [(.right, .rxInvite (some softPhone) deskPhone), (.right, .answer none)]

theorem answeredCall_proper : ∀ label ∈ answeredCall, label.2.Proper audioTypes := by
  intro label member
  simp only [answeredCall, List.mem_cons, List.not_mem_nil, or_false] at member
  rcases member with rfl | rfl
  · rintro _ ⟨⟩
    exact telephones_proper.2
  · exact fun _ impossible => nomatch impossible

theorem calling_created : SdpNeg.createWLocalOffer deskPhone = (.success, some SdpNeg.calling) := by
  decide +kernel

end Dialogs

end TiSIP.Pjsip
