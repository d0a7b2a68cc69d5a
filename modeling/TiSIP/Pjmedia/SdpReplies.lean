import TiSIP.Pjmedia.SdpExchange
import TiSIP.Pjmedia.NegotiatorRuns

namespace TiSIP.Pjmedia

section Offered

variable {registered : List FmtMatchCb} {prefs : Preferences} {om im : SdpMedia}

/-- A format of an answer is an offered one, or a number that an offered one stands for. -/
def Names (om : SdpMedia) (fmt : List UInt8) : Prop :=
  ∃ offered ∈ om.fmt, offered = fmt ∨
    isStandard offered = true ∧ isStandard fmt = true ∧ payloadType offered = payloadType fmt

def AllNamed (om : SdpMedia) (found : Matches) : Prop := ∀ pt ∈ found.pts, Names om pt.1

theorem Names.of_mem {fmt : List UInt8} (member : fmt ∈ om.fmt) : Names om fmt := ⟨fmt, member, .inl rfl⟩

theorem AllNamed.add {found after : Matches} (named : AllNamed om found) {pt : List UInt8 × List UInt8}
    (pts : after.pts = found.pts ++ [pt]) (last : Names om pt.1) : AllNamed om after := by
  intro other member
  rw [pts] at member
  rcases List.mem_append.mp member with earlier | now
  · exact named other earlier
  · rw [List.mem_singleton.mp now]
    exact last

theorem names_oriented {fmt other : List UInt8} (mine : fmt ∈ (master prefs om im).fmt)
    (held : other ∈ (slave prefs om im).fmt) : Names om (oriented prefs fmt other).1 := by
  unfold master at mine
  unfold slave at held
  unfold oriented
  split
  · rename_i prefer
    rw [if_pos prefer] at mine
    exact .of_mem mine
  · rename_i prefer
    rw [if_neg prefer] at held
    exact .of_mem held

theorem names_static {fmt other : List UInt8} (mine : fmt ∈ (master prefs om im).fmt)
    (standard : isStandard fmt = true) (held : other ∈ (slave prefs om im).fmt)
    (caught : (payloadType other == payloadType fmt && isStandard other) = true) : Names om other := by
  rw [Bool.and_eq_true, beq_iff_eq] at caught
  unfold master at mine
  unfold slave at held
  by_cases prefer : prefs.preferRemoteCodecOrder = true
  · rw [if_pos prefer] at mine
    exact ⟨fmt, mine, .inr ⟨standard, caught.2, caught.1.symm⟩⟩
  · rw [if_neg prefer] at held
    exact .of_mem held

theorem slaveFormat_mem {i : Nat} {or_ : SdpRtpmap} {isCodec : Bool} {other : List UInt8}
    (found : slaveFormat registered prefs om im i or_ isCodec = some other) : other ∈ (slave prefs om im).fmt := by
  unfold slaveFormat at found
  obtain ⟨pair, caught, rfl⟩ := Option.map_eq_some_iff.mp found
  exact List.fst_mem_of_mem_zipIdx (List.mem_of_find?_eq_some caught)

theorem matchFormat_named {found after : Matches} (named : AllNamed om found) {fmt : List UInt8}
    (mine : fmt ∈ (master prefs om im).fmt) {i : Nat}
    (step : matchFormat registered prefs om im i fmt found = .ok after) : AllNamed om after := by
  unfold matchFormat at step
  split at step
  · rename_i standard
    split at step
    · cases step
      unfold matchStatic
      dsimp only
      split
      · exact named
      · split
        · rename_i other caught
          have held := List.mem_of_find?_eq_some caught
          have same := List.find?_some caught
          exact named.add rfl (names_static mine standard held same)
        · exact named
    · split at step
      · cases step
      · rename_i a _
        dsimp only at step
        split at step
        · cases step
          unfold matchTelephoneEvent
          split
          · exact named
          · split
            · rename_i other caught
              exact named.add rfl (names_oriented mine (slaveFormat_mem caught))
            · exact named
        · cases step
          unfold matchDynamic
          dsimp only
          split
          · exact named
          · split
            · rename_i other caught
              exact named.add rfl (names_oriented mine (slaveFormat_mem caught))
            · exact named
  · cases step
    unfold matchOther
    dsimp only
    split
    · exact named
    · split
      · rename_i other caught
        exact named.add rfl (names_oriented mine (List.mem_of_find?_eq_some caught))
      · exact named

theorem matchFormats_named (rest : List (List UInt8)) {found after : Matches} (named : AllNamed om found)
    (mine : ∀ fmt ∈ rest, fmt ∈ (master prefs om im).fmt) {i : Nat}
    (run : matchFormats registered prefs om im i rest found = .ok after) : AllNamed om after := by
  induction rest generalizing found i with
  | nil =>
    cases run
    exact named
  | cons fmt rest ih =>
    rw [matchFormats] at run
    cases step : matchFormat registered prefs om im i fmt found with
    | error status =>
      rw [step] at run
      cases run
    | ok middle =>
      rw [step] at run
      exact ih (matchFormat_named named (mine fmt List.mem_cons_self) step)
        (fun other member => mine other (List.mem_cons_of_mem _ member)) run

theorem matchOffer_named {am : SdpMedia} {initial : SdpSession}
    (matched : matchOffer registered prefs om im initial = some (.ok am)) :
    om.port = 0 ∧ am = mediaCloneDeactivate om im initial ∨
      om.port ≠ 0 ∧ am.media = im.media ∧ am.transport = im.transport ∧ am.port = im.port ∧
        (am.port ≠ 0 → ∀ fmt ∈ am.fmt, Names om fmt) := by
  unfold matchOffer at matched
  split at matched
  · rename_i port
    cases matched
    exact .inl ⟨port, rfl⟩
  · rename_i port
    right
    split at matched
    · rename_i rejected
      cases matched
      exact ⟨port, rfl, rfl, rfl, fun active => absurd rejected active⟩
    · split at matched
      · cases matched
      · rename_i found run
        split at matched
        · cases matched
        · split at matched
          · cases matched
          · obtain ⟨line, made, ok⟩ := Option.map_eq_some_iff.mp matched
            cases ok
            have named := matchFormats_named _ (show AllNamed om .none by simp [AllNamed, Matches.none])
              (fun _ member => member) run
            obtain ⟨fmts, -, done⟩ := Option.bind_eq_some_iff.mp made
            cases done
            obtain ⟨media, linePort, transport, fmt⟩ := updateMediaDirection_line om
              (applyAnswerSymmetricPt { im with
                fmt := fmts.take found.pts.length
                attr := (fmts.drop found.pts.length).foldl removeFormatAttrs im.attr } found.pts)
            refine ⟨port, media, transport, linePort, fun _ listed member => ?_⟩
            rw [fmt] at member
            obtain ⟨pt, held, rfl⟩ := List.mem_map.mp member
            exact named pt held

end Offered

section Seats

variable {registered : List FmtMatchCb} {prefs : Preferences} {initial : SdpSession}

structure Reply where
  line : SdpMedia
  seat : Option Nat

structure Reflects (initial : SdpSession) (om : SdpMedia) (reply : Reply) : Prop where
  media : reply.line.media = om.media
  transport : reply.line.transport = om.transport
  offered : reply.line.port ≠ 0 → om.port ≠ 0
  formats : reply.line.port ≠ 0 → ∀ fmt ∈ reply.line.fmt, Names om fmt
  seated : reply.line.port ≠ 0 → ∃ j im, reply.seat = some j ∧ initial.media[j]? = some im ∧
    im.media = om.media ∧ im.transport = om.transport ∧ reply.line.port = im.port

theorem reflects_declined (om localMed : SdpMedia) (seat : Option Nat) :
    Reflects initial om { line := mediaCloneDeactivate om localMed initial, seat } := by
  obtain ⟨media, transport, port⟩ := mediaCloneDeactivate_line om localMed initial
  exact ⟨media, transport, fun active => absurd port active, fun active => absurd port active,
    fun active => absurd port active⟩

theorem answerLine_reflects {om : SdpMedia} {used : List Nat} {lines : List (SdpMedia × Nat)}
    (known : ∀ line ∈ lines, initial.media[line.2]? = some line.1) {status left : SdpStatus} {am : SdpMedia} {j : Nat}
    (searched : answerLine registered prefs initial om used lines status = some (left, some (am, j))) :
    j ∉ used ∧ Reflects initial om { line := am, seat := some j } := by
  induction lines generalizing status with
  | nil => cases searched
  | cons line lines ih =>
    obtain ⟨im, index⟩ := line
    have rest := fun {status : SdpStatus} =>
      @ih (fun other member => known other (List.mem_cons_of_mem _ member)) status
    rw [answerLine] at searched
    split at searched
    · rename_i fits
      obtain ⟨result, matched, done⟩ := Option.bind_eq_some_iff.mp searched
      cases result with
      | error refused => exact rest done
      | ok made =>
        cases done
        refine ⟨fits.2.2, ?_⟩
        rcases matchOffer_named matched with ⟨-, rfl⟩ | ⟨port, media, transport, linePort, named⟩
        · exact reflects_declined om im _
        · constructor
          · rw [media, fits.1]
          · rw [transport, fits.2.1]
          · exact fun _ => port
          · exact named
          · exact fun _ => ⟨_, im, rfl, known (im, _) List.mem_cons_self, fits.1.symm, fits.2.1.symm, linePort⟩
    · exact rest searched

theorem answerLines_reflect (oms : List SdpMedia) {used : List Nat} {status left : SdpStatus} {answers : List SdpMedia}
    (run : answerLines registered prefs initial oms used status = some (left, answers)) :
    ∃ replies : List Reply, replies.map Reply.line = answers ∧ List.Forall₂ (Reflects initial) oms replies ∧
      (replies.filterMap Reply.seat).Nodup ∧ ∀ seat ∈ replies.filterMap Reply.seat, seat ∉ used := by
  induction oms generalizing used status answers with
  | nil =>
    cases run
    exact ⟨[], rfl, .nil, by simp, by simp⟩
  | cons om oms ih =>
    rw [answerLines] at run
    obtain ⟨⟨middle, found⟩, searched, rest⟩ := Option.bind_eq_some_iff.mp run
    have known : ∀ line ∈ initial.media.zipIdx, initial.media[line.2]? = some line.1 := fun line member =>
      List.mem_zipIdx_iff_getElem?.mp member
    cases found with
    | none =>
      obtain ⟨⟨last, others⟩, later, done⟩ := Option.bind_eq_some_iff.mp rest
      cases done
      obtain ⟨replies, lines, mirrors, distinct, fresh⟩ := ih later
      refine ⟨{ line := mediaCloneDeactivate om om initial, seat := none } :: replies, ?_, ?_, ?_, ?_⟩
      · rw [List.map_cons, lines]
      · exact .cons (reflects_declined om om none) mirrors
      · simpa using distinct
      · simpa using fresh
    | some pair =>
      obtain ⟨am, j⟩ := pair
      obtain ⟨⟨last, others⟩, later, done⟩ := Option.bind_eq_some_iff.mp rest
      cases done
      obtain ⟨replies, lines, mirrors, distinct, fresh⟩ := ih later
      obtain ⟨unused, mirror⟩ := answerLine_reflects known searched
      have seats : (({ line := am, seat := some j } : Reply) :: replies).filterMap Reply.seat =
          j :: replies.filterMap Reply.seat := rfl
      refine ⟨{ line := am, seat := some j } :: replies, ?_, ?_, ?_, ?_⟩
      · rw [List.map_cons, lines]
      · exact .cons mirror mirrors
      · rw [seats, List.nodup_cons]
        exact ⟨fun again => fresh j again List.mem_cons_self, distinct⟩
      · rw [seats]
        intro seat member
        rcases List.mem_cons.mp member with rfl | later
        · exact unused
        · exact fun before => fresh seat later (List.mem_cons_of_mem _ before)

theorem createAnswer_lines {offer answer : SdpSession} {status : SdpStatus}
    (created : createAnswer registered prefs initial offer = some (status, answer)) (valid : sdpValidate offer = .success) :
    ∃ left, answerLines registered prefs initial offer.media [] (sdpValidate offer) = some (left, answer.media) := by
  unfold createAnswer at created
  dsimp only at created
  rw [if_neg (not_not_intro valid)] at created
  obtain ⟨⟨left, answers⟩, run, done⟩ := Option.bind_eq_some_iff.mp created
  cases done
  exact ⟨left, run⟩

/-- An answer has a line for every line of a valid offer, in the order of the offer and of the same
    type and transport. A line that is in use answers one that was offered in use, out of a local line
    that no other line is made of, and with formats that were offered. -/
theorem createAnswer_mirrors {offer answer : SdpSession} {status : SdpStatus}
    (created : createAnswer registered prefs initial offer = some (status, answer)) (valid : sdpValidate offer = .success) :
    ∃ replies : List Reply, replies.map Reply.line = answer.media ∧
      List.Forall₂ (Reflects initial) offer.media replies ∧ (replies.filterMap Reply.seat).Nodup := by
  obtain ⟨left, run⟩ := createAnswer_lines created valid
  obtain ⟨replies, lines, mirrors, distinct, -⟩ := answerLines_reflect offer.media run
  exact ⟨replies, lines, mirrors, distinct⟩

theorem softPhone_mirrors : ∃ status answer replies,
    createAnswer [] SdpNeg.defaultPreferences softPhone deskPhone = some (status, answer) ∧
      replies.map Reply.line = answer.media ∧ List.Forall₂ (Reflects softPhone) deskPhone.media replies ∧
      (replies.filterMap Reply.seat).Nodup := by
  have answered : (createAnswer [] SdpNeg.defaultPreferences softPhone deskPhone).isSome = true := by decide +kernel
  obtain ⟨⟨status, answer⟩, created⟩ := Option.isSome_iff_exists.mp answered
  obtain ⟨replies, mirrors⟩ := createAnswer_mirrors created (by decide +kernel)
  exact ⟨status, answer, replies, created, mirrors⟩

end Seats

section Unrelated

variable (registered others : List FmtMatchCb) (prefs : Preferences) {initial offer : SdpSession}

def Unrelated (initial offer : SdpSession) : Prop :=
  ∀ om ∈ offer.media, ∀ im ∈ initial.media, ¬ (om.media = im.media ∧ om.transport = im.transport)

theorem answerLine_unrelated {om : SdpMedia} (lines : List (SdpMedia × Nat))
    (unrelated : ∀ line ∈ lines, ¬ (om.media = line.1.media ∧ om.transport = line.1.transport)) (used : List Nat)
    (status : SdpStatus) : answerLine registered prefs initial om used lines status = some (status, none) := by
  induction lines with
  | nil => rfl
  | cons line lines ih =>
    have other : ¬ (om.media = line.1.media ∧ om.transport = line.1.transport ∧ line.2 ∉ used) := fun fits =>
      unrelated line List.mem_cons_self ⟨fits.1, fits.2.1⟩
    rw [answerLine, if_neg other]
    exact ih fun other member => unrelated other (List.mem_cons_of_mem _ member)

theorem answerLines_unrelated (oms : List SdpMedia)
    (unrelated : ∀ om ∈ oms, ∀ im ∈ initial.media, ¬ (om.media = im.media ∧ om.transport = im.transport))
    (used : List Nat) (status : SdpStatus) :
    answerLines registered prefs initial oms used status =
      some (status, oms.map fun om => mediaCloneDeactivate om om initial) := by
  induction oms generalizing used status with
  | nil => rfl
  | cons om oms ih =>
    have apart : ∀ line ∈ initial.media.zipIdx, ¬ (om.media = line.1.media ∧ om.transport = line.1.transport) :=
      fun line member => unrelated om List.mem_cons_self line.1 (List.fst_mem_of_mem_zipIdx member)
    rw [answerLines, answerLine_unrelated registered prefs _ apart used status]
    simp only [Option.bind_eq_bind, Option.bind_some]
    rw [ih fun other member => unrelated other (List.mem_cons_of_mem _ member)]
    rfl

theorem processLines_declined (session : SdpSession) {oms ams : List SdpMedia}
    (declined : List.Forall₂ (fun om am : SdpMedia => am.media = om.media ∧ am.transport = om.transport ∧ am.port = 0)
      oms ams) :
    ∃ settled, processLines others session oms ams = .ok (settled, ams, false) := by
  induction declined with
  | nil => exact ⟨[], rfl⟩
  | @cons om am oms ams first _ ih =>
    obtain ⟨settled, run⟩ := ih
    obtain ⟨media, transport, port⟩ := first
    have line : processMAnswer others om am = (.success, mediaDeactivate om, am) := by
      simp [processMAnswer, media, transport, transportCmp_self, port]
    exact ⟨mediaDeactivate om :: settled, by rw [processLines, line]; simp only [run]; rfl⟩

/-- The status of the validation is left in the one that is returned: an offer that has nothing in
    common with the local description is answered with success though no line is in use, and the
    answer leaves the offerer without media. -/
theorem unrelated_offer_settles {neg : SdpNeg} (waiting : neg.state = .waitNego) (ours : neg.hasRemoteAnswer = false)
    (capable : neg.negLocalSdp = some initial) (offered : neg.negRemoteSdp = some offer)
    (numbered : neg.previousSdp.isSome = true) (valid : sdpValidate offer = .success) (unrelated : Unrelated initial offer) :
    ∃ answer after, neg.negotiate registered = some (.success, after) ∧ after.activeLocalSdp = some answer ∧
      answer.active = false ∧ (processAnswer others offer answer).1 = .sdpNegENoMedia := by
  obtain ⟨previous, known⟩ := Option.isSome_iff_exists.mp numbered
  have lines := answerLines_unrelated registered neg.prefs offer.media unrelated [] .success
  have answered : ∃ answer : SdpSession, answer =
      { initial with
        origin := { initial.origin with version := previous.origin.version + 1 }
        media := offer.media.map fun om => mediaCloneDeactivate om om initial } := ⟨_, rfl⟩
  obtain ⟨answer, whole⟩ := answered
  have silent : (offer.media.map fun om => mediaCloneDeactivate om om initial).any (fun am => am.port != 0) = false := by
    simp only [List.any_eq_false, List.mem_map]
    rintro am ⟨om, -, rfl⟩
    simp [(mediaCloneDeactivate_line om om initial).2.2]
  have created : createAnswer registered neg.prefs initial offer =
      some (.success, { initial with media := offer.media.map fun om => mediaCloneDeactivate om om initial }) := by
    unfold createAnswer
    simp only [valid, ne_eq, not_true, if_false, lines, Option.bind_eq_bind, Option.bind_some, silent]
    rfl
  have negotiated : neg.negotiate registered =
      some ({ neg with activeLocalSdp := some answer, activeRemoteSdp := some offer }.finish .success) := by
    simp only [SdpNeg.negotiate, waiting, offered, ours, SdpNeg.negotiateOffer, capable, created, known, whole, ne_eq,
      not_true, if_false, Bool.false_eq_true, Option.bind_eq_bind, Option.bind_some]
  refine ⟨answer, _, negotiated, rfl, ?_, ?_⟩
  · rw [whole]
    exact silent
  · have declined : List.Forall₂ (fun om am : SdpMedia => am.media = om.media ∧ am.transport = om.transport ∧ am.port = 0)
        offer.media answer.media := by
      rw [whole, List.forall₂_map_right_iff, List.forall₂_same]
      exact fun om _ => mediaCloneDeactivate_line om om initial
    obtain ⟨settled, run⟩ := processLines_declined others offer declined
    unfold processAnswer
    rw [run]
    rfl

def whiteboard : SdpSession :=
  sessionOf "10.0.0.3" [{ audioLine ["wb"] [] with media := pjStr "application", transport := pjStr "UDP" }]

theorem whiteboard_offer_settles : ∃ answer after,
    { SdpNeg.zalloc .waitNego with
      initialSdp := some softPhone, negLocalSdp := some softPhone, negRemoteSdp := some whiteboard }.negotiate [] =
        some (.success, after) ∧
      after.activeLocalSdp = some answer ∧ answer.active = false ∧
      (processAnswer [] whiteboard answer).1 = .sdpNegENoMedia :=
  unrelated_offer_settles [] [] rfl rfl rfl rfl rfl (by decide +kernel) (by unfold Unrelated; decide +kernel)

end Unrelated

end TiSIP.Pjmedia
