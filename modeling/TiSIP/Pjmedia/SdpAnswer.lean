import TiSIP.Pjmedia.SdpMatch

namespace TiSIP.Pjmedia

open Pjlib Rearrange

section Found

variable {prefs : Preferences}

def ours (prefs : Preferences) (pt : List UInt8 × List UInt8) : List UInt8 :=
  if prefs.preferRemoteCodecOrder then pt.1 else pt.2

def theirs (prefs : Preferences) (pt : List UInt8 × List UInt8) : List UInt8 :=
  if prefs.preferRemoteCodecOrder then pt.2 else pt.1

@[simp]
theorem ours_oriented (prefs : Preferences) (left right : List UInt8) : ours prefs (oriented prefs left right) = left := by
  unfold ours oriented
  split <;> rfl

@[simp]
theorem theirs_oriented (prefs : Preferences) (left right : List UInt8) :
    theirs prefs (oriented prefs left right) = right := by
  unfold theirs oriented
  split <;> rfl

theorem ours_same (prefs : Preferences) (fmt : List UInt8) : ours prefs (fmt, fmt) = fmt := by
  unfold ours
  split <;> rfl

theorem theirs_same (prefs : Preferences) (fmt : List UInt8) : theirs prefs (fmt, fmt) = fmt := by
  unfold theirs
  split <;> rfl

structure Found (prefs : Preferences) (m s : SdpMedia) (seen : List (List UInt8)) (found : Matches) : Prop where
  order : (found.pts.map (ours prefs)).Sublist seen
  twins : ∀ pt ∈ found.pts, theirs prefs pt ∈ s.fmt ∧ s.coding (theirs prefs pt) = m.coding (ours prefs pt)
  useful : found.foundMatchingCodec = true ∨ found.foundMatchingOther = true →
    ∃ pt ∈ found.pts, (m.coding (ours prefs pt)).isEvent = false
  wanted : ∀ fmt ∈ seen, (m.coding fmt).isEvent = false → found.masterHasCodec = true ∨ found.masterHasOther = true

variable {m s : SdpMedia} {seen : List (List UInt8)} {found after : Matches} {fmt : List UInt8}

theorem Found.none (prefs : Preferences) (m s : SdpMedia) : Found prefs m s [] .none where
  order := by simp [Matches.none]
  twins := by simp [Matches.none]
  useful := by simp [Matches.none]
  wanted := by simp

structure Noted (m : SdpMedia) (fmt : List UInt8) (found after : Matches) : Prop where
  codec : found.masterHasCodec = true → after.masterHasCodec = true
  other : found.masterHasOther = true → after.masterHasOther = true
  wanted : (m.coding fmt).isEvent = false → after.masterHasCodec = true ∨ after.masterHasOther = true

theorem Noted.all (noted : Noted m fmt found after) (known : Found prefs m s seen found) :
    ∀ other ∈ seen ++ [fmt], (m.coding other).isEvent = false →
      after.masterHasCodec = true ∨ after.masterHasOther = true := by
  intro other member useful
  rcases List.mem_append.mp member with earlier | last
  · exact (known.wanted other earlier useful).imp noted.codec noted.other
  · rw [List.mem_singleton.mp last] at useful
    exact noted.wanted useful

theorem Found.skip (known : Found prefs m s seen found) (noted : Noted m fmt found after) (pts : after.pts = found.pts)
    (codec : after.foundMatchingCodec = found.foundMatchingCodec)
    (other : after.foundMatchingOther = found.foundMatchingOther) : Found prefs m s (seen ++ [fmt]) after where
  order := by
    rw [pts]
    exact known.order.trans (List.sublist_append_left _ _)
  twins := by
    rw [pts]
    exact known.twins
  useful := by
    rw [pts, codec, other]
    exact known.useful
  wanted := noted.all known

theorem Found.take (known : Found prefs m s seen found) (noted : Noted m fmt found after) (pt : List UInt8 × List UInt8)
    (pts : after.pts = found.pts ++ [pt]) (mine : ours prefs pt = fmt) (held : theirs prefs pt ∈ s.fmt)
    (same : s.coding (theirs prefs pt) = m.coding fmt)
    (useful : after.foundMatchingCodec = true ∨ after.foundMatchingOther = true →
      (found.foundMatchingCodec = true ∨ found.foundMatchingOther = true) ∨ (m.coding fmt).isEvent = false) :
    Found prefs m s (seen ++ [fmt]) after where
  order := by
    rw [pts, List.map_append, List.map_singleton, mine]
    exact known.order.append (.refl _)
  twins other member := by
    rw [pts] at member
    rcases List.mem_append.mp member with earlier | last
    · exact known.twins other earlier
    · rw [List.mem_singleton.mp last, mine]
      exact ⟨held, same⟩
  useful flags := by
    rw [pts]
    rcases useful flags with earlier | now
    · obtain ⟨other, member, event⟩ := known.useful earlier
      exact ⟨other, List.mem_append_left _ member, event⟩
    · exact ⟨pt, by simp, by rw [mine]; exact now⟩
  wanted := noted.all known

end Found

section Loop

variable {table : Nat → Option Encoding} {prefs : Preferences} {offer preanswer : SdpMedia}

theorem find_zipIdx {Item : Type} (holds : Item → Bool) (items : List Item) (first : Nat) :
    ((items.zipIdx first).find? fun pair => holds pair.1).map Prod.fst = items.find? holds := by
  have mapped : (items.zipIdx first).map Prod.fst = items := List.zipIdx_map_fst first items
  conv_rhs => rw [← mapped, List.find?_map]
  rfl

theorem slaveFormat_eq (i : Nat) (or_ : SdpRtpmap) (isCodec : Bool) :
    slaveFormat [] prefs offer preanswer i or_ isCodec = (slave prefs offer preanswer).fmt.find? fun fmt =>
      ((slave prefs offer preanswer).findAttr2 "rtpmap" (some fmt)).any fun a => rtpmapMatches or_ (attrGetRtpmap a) := by
  symm
  apply (find_zipIdx _ _ 0).symm.trans
  unfold slaveFormat
  dsimp only
  congr 2
  funext pair
  cases (slave prefs offer preanswer).findAttr2 "rtpmap" (some pair.1) with
  | none => rfl
  | some a => simp [customFmtMatch]

theorem coding_eq_static {m s : SdpMedia} {fmt other : List UInt8} (standard : isStandard fmt = true)
    (static : payloadType fmt < 96) :
    s.coding other = m.coding fmt ↔ payloadType other = payloadType fmt ∧ isStandard other = true := by
  unfold SdpMedia.coding codingIn
  simp only [standard, static, if_true]
  split
  · rename_i also
    split
    · simp [also]
    · simp only [reduceCtorEq, false_iff, not_and]
      omega
  · rename_i not
    simp [not]

theorem coding_eq_named {m s : SdpMedia} {fmt other : List UInt8} (named : isStandard fmt = false) :
    s.coding other = m.coding fmt ↔ other = fmt := by
  constructor
  · intro same
    unfold SdpMedia.coding codingIn at same
    rw [named] at same
    split at same
    · split at same <;> cases same
    · simpa using same
  · rintro rfl
    simp [SdpMedia.coding, codingIn, named]

theorem slaveFormat_twin (proper : Proper table (master prefs offer preanswer))
    (other : Proper table (slave prefs offer preanswer)) {fmt : List UInt8} (dynamic : 96 ≤ payloadType fmt)
    {attr : SdpAttr} (found : (master prefs offer preanswer).findAttr2 "rtpmap" (some fmt) = some attr) (i : Nat)
    (isCodec : Bool) :
    slaveFormat [] prefs offer preanswer i (attrGetRtpmap attr) isCodec =
      (slave prefs offer preanswer).fmt.find? fun other =>
        decide ((slave prefs offer preanswer).coding other = (master prefs offer preanswer).coding fmt) := by
  rw [SdpMedia.findAttr2, attrFind_rtpmap] at found
  obtain ⟨member, numbered⟩ := (Keyed.find_eq_some_iff proper.catalogue.once).mp found
  rw [slaveFormat_eq]
  congr 1
  funext twin
  rw [Bool.eq_iff_iff, decide_eq_true_iff]
  unfold SdpMedia.coding
  rw [proper.catalogue.same_dynamic other.catalogue member numbered dynamic, SdpMedia.findAttr2, attrFind_rtpmap,
    Option.any_eq_true]
  constructor
  · rintro ⟨a, known, held⟩
    have inside := List.mem_of_find?_eq_some known
    exact ⟨a, known, (rtpmapMatches_iff (proper.catalogue.plain attr member) (other.catalogue.plain a inside)).mp held⟩
  · rintro ⟨a, known, held⟩
    have inside := List.mem_of_find?_eq_some known
    exact ⟨a, known, (rtpmapMatches_iff (proper.catalogue.plain attr member) (other.catalogue.plain a inside)).mpr held⟩

theorem matchStatic_found (proper : Proper table (master prefs offer preanswer))
    (other : Proper table (slave prefs offer preanswer)) {seen : List (List UInt8)} {found : Matches}
    (known : Found prefs (master prefs offer preanswer) (slave prefs offer preanswer) seen found) {fmt : List UInt8}
    (member : fmt ∈ (master prefs offer preanswer).fmt) (standard : isStandard fmt = true) (static : payloadType fmt < 96) :
    Found prefs (master prefs offer preanswer) (slave prefs offer preanswer) (seen ++ [fmt])
      (matchStatic prefs offer preanswer fmt found) := by
  unfold matchStatic
  dsimp only
  split
  · exact known.skip ⟨fun _ => rfl, id, fun _ => .inl rfl⟩ rfl rfl rfl
  · split
    · rename_i twin taken
      have held := List.mem_of_find?_eq_some taken
      have caught := List.find?_some taken
      simp only [Bool.and_eq_true, beq_iff_eq] at caught
      have numeral := proper.catalogue.numerals fmt member standard
      have same := other.catalogue.payload_eq held numeral caught.2 caught.1
      refine known.take ⟨fun _ => rfl, id, fun _ => .inl rfl⟩ (twin, twin) rfl ?_ ?_ ?_ ?_
      · rw [ours_same, same]
      · rw [theirs_same]
        exact held
      · rw [theirs_same]
        exact (coding_eq_static standard static).mpr caught
      · exact fun _ => .inr (isEvent_static _ static)
    · exact known.skip ⟨fun _ => rfl, id, fun _ => .inl rfl⟩ rfl rfl rfl

theorem matchTelephoneEvent_found (proper : Proper table (master prefs offer preanswer))
    (other : Proper table (slave prefs offer preanswer)) {seen : List (List UInt8)} {found : Matches}
    (known : Found prefs (master prefs offer preanswer) (slave prefs offer preanswer) seen found) {fmt : List UInt8}
    (dynamic : 96 ≤ payloadType fmt) {attr : SdpAttr}
    (mapped : (master prefs offer preanswer).findAttr2 "rtpmap" (some fmt) = some attr)
    (event : ((master prefs offer preanswer).coding fmt).isEvent = true) (i : Nat) :
    Found prefs (master prefs offer preanswer) (slave prefs offer preanswer) (seen ++ [fmt])
      (matchTelephoneEvent [] prefs offer preanswer i fmt (attrGetRtpmap attr) found) := by
  have noted : ∀ after : Matches, after.masterHasCodec = found.masterHasCodec →
      after.masterHasOther = found.masterHasOther → Noted (master prefs offer preanswer) fmt found after := by
    intro after codec named
    constructor
    · rw [codec]
      exact id
    · rw [named]
      exact id
    · rw [event]
      exact fun impossible => absurd impossible (by decide)
  unfold matchTelephoneEvent
  rw [slaveFormat_twin proper other dynamic mapped]
  split
  · exact known.skip (noted _ rfl rfl) rfl rfl rfl
  · split
    · rename_i twin taken
      have same : (slave prefs offer preanswer).coding twin = (master prefs offer preanswer).coding fmt := by
        simpa using List.find?_some taken
      refine known.take (noted _ rfl rfl) (oriented prefs fmt twin) rfl (ours_oriented _ _ _) ?_ ?_ ?_
      · rw [theirs_oriented]
        exact List.mem_of_find?_eq_some taken
      · rw [theirs_oriented]
        exact same
      · exact fun flags => .inl flags
    · exact known.skip (noted _ rfl rfl) rfl rfl rfl

theorem matchDynamic_found (proper : Proper table (master prefs offer preanswer))
    (other : Proper table (slave prefs offer preanswer)) {seen : List (List UInt8)} {found : Matches}
    (known : Found prefs (master prefs offer preanswer) (slave prefs offer preanswer) seen found) {fmt : List UInt8}
    (dynamic : 96 ≤ payloadType fmt) {attr : SdpAttr}
    (mapped : (master prefs offer preanswer).findAttr2 "rtpmap" (some fmt) = some attr)
    (event : ((master prefs offer preanswer).coding fmt).isEvent = false) (i : Nat) :
    Found prefs (master prefs offer preanswer) (slave prefs offer preanswer) (seen ++ [fmt])
      (matchDynamic [] prefs offer preanswer i fmt (attrGetRtpmap attr) found) := by
  unfold matchDynamic
  rw [slaveFormat_twin proper other dynamic mapped]
  dsimp only
  split
  · exact known.skip ⟨fun _ => rfl, id, fun _ => .inl rfl⟩ rfl rfl rfl
  · split
    · rename_i twin taken
      have same : (slave prefs offer preanswer).coding twin = (master prefs offer preanswer).coding fmt := by
        simpa using List.find?_some taken
      refine known.take ⟨fun _ => rfl, id, fun _ => .inl rfl⟩ (oriented prefs fmt twin) rfl (ours_oriented _ _ _) ?_ ?_ ?_
      · rw [theirs_oriented]
        exact List.mem_of_find?_eq_some taken
      · rw [theirs_oriented]
        exact same
      · exact fun _ => .inr event
    · exact known.skip ⟨fun _ => rfl, id, fun _ => .inl rfl⟩ rfl rfl rfl

theorem matchOther_found {seen : List (List UInt8)} {found : Matches}
    (known : Found prefs (master prefs offer preanswer) (slave prefs offer preanswer) seen found) {fmt : List UInt8}
    (named : isStandard fmt = false) :
    Found prefs (master prefs offer preanswer) (slave prefs offer preanswer) (seen ++ [fmt])
      (matchOther prefs offer preanswer fmt found) := by
  have event : ((master prefs offer preanswer).coding fmt).isEvent = false := by
    simp [SdpMedia.coding, codingIn, named, Coding.isEvent]
  unfold matchOther
  dsimp only
  split
  · exact known.skip ⟨id, fun _ => rfl, fun _ => .inr rfl⟩ rfl rfl rfl
  · split
    · rename_i twin taken
      have same : twin = fmt := by simpa using List.find?_some taken
      refine known.take ⟨id, fun _ => rfl, fun _ => .inr rfl⟩ (oriented prefs fmt twin) rfl (ours_oriented _ _ _) ?_ ?_ ?_
      · rw [theirs_oriented]
        exact List.mem_of_find?_eq_some taken
      · rw [theirs_oriented]
        exact (coding_eq_named named).mpr same
      · exact fun _ => .inr event
    · exact known.skip ⟨id, fun _ => rfl, fun _ => .inr rfl⟩ rfl rfl rfl

theorem matchFormat_found (proper : Proper table (master prefs offer preanswer))
    (other : Proper table (slave prefs offer preanswer)) {seen : List (List UInt8)} {found : Matches}
    (known : Found prefs (master prefs offer preanswer) (slave prefs offer preanswer) seen found) {fmt : List UInt8}
    (member : fmt ∈ (master prefs offer preanswer).fmt) (i : Nat) :
    ∃ after, matchFormat [] prefs offer preanswer i fmt found = .ok after ∧
      Found prefs (master prefs offer preanswer) (slave prefs offer preanswer) (seen ++ [fmt]) after := by
  unfold matchFormat
  by_cases standard : isStandard fmt = true
  · rw [if_pos standard]
    by_cases static : payloadType fmt < 96
    · rw [if_pos static]
      exact ⟨_, rfl, matchStatic_found proper other known member standard static⟩
    · rw [if_neg static]
      obtain ⟨attr, held, numbered⟩ := proper.catalogue.described fmt member (by omega)
      have mapped : (master prefs offer preanswer).findAttr2 "rtpmap" (some fmt) = some attr := by
        rw [SdpMedia.findAttr2, attrFind_rtpmap]
        exact (Keyed.find_eq_some_iff proper.catalogue.once).mpr ⟨held, numbered⟩
      have event : isTelephoneEvent (attrGetRtpmap attr) = ((master prefs offer preanswer).coding fmt).isEvent := by
        rw [SdpMedia.coding, codingIn_mapped proper.catalogue.once held numbered (by omega), isTelephoneEvent_eq]
        rfl
      rw [mapped]
      dsimp only
      rw [event]
      split
      · rename_i isEvent
        exact ⟨_, rfl, matchTelephoneEvent_found proper other known (by omega) mapped isEvent i⟩
      · rename_i isCodec
        exact ⟨_, rfl, matchDynamic_found proper other known (by omega) mapped (by simpa using isCodec) i⟩
  · rw [if_neg standard]
    exact ⟨_, rfl, matchOther_found known (by simpa using standard)⟩

theorem matchFormats_found (proper : Proper table (master prefs offer preanswer))
    (other : Proper table (slave prefs offer preanswer)) (rest : List (List UInt8)) {seen : List (List UInt8)}
    {found : Matches} (known : Found prefs (master prefs offer preanswer) (slave prefs offer preanswer) seen found)
    (members : ∀ fmt ∈ rest, fmt ∈ (master prefs offer preanswer).fmt) (i : Nat) :
    ∃ after, matchFormats [] prefs offer preanswer i rest found = .ok after ∧
      Found prefs (master prefs offer preanswer) (slave prefs offer preanswer) (seen ++ rest) after := by
  induction rest generalizing seen found i with
  | nil => exact ⟨found, rfl, by simpa using known⟩
  | cons fmt rest ih =>
    obtain ⟨middle, step, reached⟩ := matchFormat_found proper other known (members fmt List.mem_cons_self) i
    obtain ⟨after, run, final⟩ := ih reached (fun other member => members other (List.mem_cons_of_mem _ member)) (i + 1)
    rw [List.append_assoc] at final
    refine ⟨after, ?_, final⟩
    rw [matchFormats, step]
    exact run

end Loop

section Answer

variable {table : Nat → Option Encoding} {prefs : Preferences} {om im am : SdpMedia}
  {pts : List (List UInt8 × List UInt8)}

theorem nodup_map_of_nodup_map {Pair Left Right : Type} {left : Pair → Left} {right : Pair → Right} {pairs : List Pair}
    (distinct : (pairs.map left).Nodup)
    (determined : ∀ first ∈ pairs, ∀ second ∈ pairs, right first = right second → left first = left second) :
    (pairs.map right).Nodup := by
  apply List.Nodup.map_on
  · intro first inside second alsoInside same
    exact List.inj_on_of_nodup_map distinct inside alsoInside (determined first inside second alsoInside same)
  · exact List.Nodup.of_map left distinct

structure Pairs (om im : SdpMedia) (pts : List (List UInt8 × List UInt8)) : Prop where
  offered : ∀ pt ∈ pts, pt.1 ∈ om.fmt
  capable : ∀ pt ∈ pts, pt.2 ∈ im.fmt
  same : ∀ pt ∈ pts, im.coding pt.2 = om.coding pt.1
  firsts : (pts.map Prod.fst).Nodup
  seconds : (pts.map Prod.snd).Nodup
  useful : ∃ pt ∈ pts, (om.coding pt.1).isEvent = false

theorem Found.pairs (offered : Proper table om) (capable : Proper table im) {found : Matches}
    (known : Found prefs (master prefs om im) (slave prefs om im) (master prefs om im).fmt found)
    (useful : found.foundMatchingCodec = true ∨ found.foundMatchingOther = true) : Pairs om im found.pts := by
  obtain ⟨pt, member, event⟩ := known.useful useful
  have order := known.order
  have twins := known.twins
  have listed : ∀ pt ∈ found.pts, ours prefs pt ∈ (master prefs om im).fmt := fun pt member =>
    order.subset (List.mem_map_of_mem member)
  cases prefer : prefs.preferRemoteCodecOrder with
  | true =>
    have mine : ∀ pt, ours prefs pt = pt.1 := fun pt => by simp [ours, prefer]
    have others : ∀ pt, theirs prefs pt = pt.2 := fun pt => by simp [theirs, prefer]
    have first : master prefs om im = om := by simp [master, prefer]
    have second : slave prefs om im = im := by simp [slave, prefer]
    simp only [mine, others, first, second] at twins listed event order
    have firsts : (found.pts.map Prod.fst).Nodup := by
      have named : found.pts.map (ours prefs) = found.pts.map Prod.fst := List.map_congr_left fun pt _ => mine pt
      rw [← named]
      exact offered.catalogue.distinct.sublist order
    refine ⟨listed, fun pt member => (twins pt member).1, fun pt member => (twins pt member).2, firsts, ?_,
      pt, member, event⟩
    apply nodup_map_of_nodup_map firsts
    intro first inside second alsoInside same
    apply offered.catalogue.coding_injective (listed first inside) (listed second alsoInside)
    exact ((twins first inside).2.symm.trans (congrArg _ same)).trans (twins second alsoInside).2
  | false =>
    have mine : ∀ pt, ours prefs pt = pt.2 := fun pt => by simp [ours, prefer]
    have others : ∀ pt, theirs prefs pt = pt.1 := fun pt => by simp [theirs, prefer]
    have first : master prefs om im = im := by simp [master, prefer]
    have second : slave prefs om im = om := by simp [slave, prefer]
    simp only [mine, others, first, second] at twins listed event order
    have seconds : (found.pts.map Prod.snd).Nodup := by
      have named : found.pts.map (ours prefs) = found.pts.map Prod.snd := List.map_congr_left fun pt _ => mine pt
      rw [← named]
      exact capable.catalogue.distinct.sublist order
    refine ⟨fun pt member => (twins pt member).1, listed, fun pt member => (twins pt member).2.symm, ?_, seconds,
      pt, member, by rw [(twins pt member).2]; exact event⟩
    apply nodup_map_of_nodup_map seconds
    intro first inside second alsoInside same
    apply capable.catalogue.coding_injective (listed first inside) (listed second alsoInside)
    exact ((twins first inside).2.symm.trans (congrArg _ same)).trans (twins second alsoInside).2

theorem Pairs.renames (offered : Proper table om) (capable : Proper table im) (pairs : Pairs om im pts) :
    Renames (pts.map Prod.snd) pts where
  olds := rfl
  news := pairs.firsts
  dynamic pt member := by
    have same := pairs.same pt member
    have numerals := capable.catalogue.numerals pt.2 (pairs.capable pt member)
    have also := offered.catalogue.numerals pt.1 (pairs.offered pt member)
    unfold SdpMedia.coding codingIn at same
    by_cases standard : isStandard pt.2 = true
    · by_cases alsoStandard : isStandard pt.1 = true
      · by_cases static : payloadType pt.2 < 96
        · by_cases alsoStatic : payloadType pt.1 < 96
          · simp only [standard, alsoStandard, static, alsoStatic, if_true, Coding.assigned.injEq] at same
            exact .inl ((also alsoStandard).eq (numerals standard) same.symm)
          · simp [standard, alsoStandard, static, alsoStatic] at same
        · by_cases alsoStatic : payloadType pt.1 < 96
          · simp [standard, alsoStandard, static, alsoStatic] at same
          · exact .inr ⟨also alsoStandard, by omega, by omega⟩
      · by_cases static : payloadType pt.2 < 96 <;> simp [standard, alsoStandard, static] at same
    · by_cases alsoStandard : isStandard pt.1 = true
      · by_cases alsoStatic : payloadType pt.1 < 96 <;> simp [standard, alsoStandard, alsoStatic] at same
      · simp only [standard, alsoStandard, Bool.false_eq_true, if_false, Coding.named.injEq] at same
        exact .inl same.symm

structure Answers (table : Nat → Option Encoding) (om im am : SdpMedia) : Prop where
  media : am.media = im.media
  transport : am.transport = im.transport
  port : am.port = im.port
  proper : Proper table am
  drawn : ∀ fmt ∈ am.fmt, fmt ∈ om.fmt ∧ am.coding fmt = om.coding fmt
  dir : localDir am = (localDir im).meet (localDir om).mirror

theorem Catalogued.rewritable {fmts : List (List UInt8)} {attrs : List SdpAttr} (catalogue : Catalogued table fmts attrs)
    (renames : Renames fmts pts) : Rewritable attrs pts where
  once := catalogue.once
  changing pt member changes := by
    rcases renames.dynamic pt member with same | ⟨-, -, dynamic⟩
    · exact absurd same.symm changes
    · exact isStandard_of_payload (by omega)
  apart := by
    have distinct : (pts.map Prod.snd).Nodup := renames.olds ▸ catalogue.distinct
    apply (List.pairwise_map.mp distinct).imp_of_mem
    intro first second left right different standard also same
    apply different
    exact catalogue.payload_eq (renames.old_mem left) (catalogue.numerals _ (renames.old_mem right) also) standard same
  written pt member standard attr held numbered := by
    obtain ⟨fmt, listed, numeral, known, text, value⟩ := catalogue.standard held
    have same := catalogue.payload_eq (renames.old_mem member) numeral standard (numbered.symm.trans known)
    rw [value, same]
    exact List.prefix_append _ _

theorem answerWith_spec (offered : Proper table om) (capable : Proper table im) (pairs : Pairs om im pts) :
    ∃ am, answerWith om im pts = some am ∧ Answers table om im am := by
  have enough : (pts.map Prod.snd).Subperm im.fmt := by
    apply List.Nodup.subperm pairs.seconds
    intro fmt member
    obtain ⟨pt, held, rfl⟩ := List.mem_map.mp member
    exact pairs.capable pt held
  obtain ⟨fmts, moved⟩ := bringForward_isSome enough
  obtain ⟨same, rest, split⟩ := bringForward_spec moved
  have kept : fmts.take pts.length = pts.map Prod.snd := by
    rw [← split]
    simp
  have gone : fmts.drop pts.length = rest := by
    rw [← split]
    simp
  have renames := pairs.renames offered capable
  have parts : im.fmt.Perm (pts.map Prod.snd ++ rest) := by
    rw [split]
    exact same.symm
  have restricted := capable.catalogue.restrict parts
  have directed := capable.directed.removeFormats rest
  have maps := rtpmaps_removeFormats capable.catalogue.once rest
  have answered : ∃ answer : SdpMedia,
      answer = { im with fmt := pts.map Prod.snd, attr := rest.foldl removeFormatAttrs im.attr } := ⟨_, rfl⟩
  obtain ⟨answer, whole⟩ := answered
  have attrs : answer.attr = rest.foldl removeFormatAttrs im.attr := by rw [whole]
  have result : answerWith om im pts = some (updateMediaDirection om (applyAnswerSymmetricPt answer pts)) := by
    simp only [answerWith, moved, kept, gone, whole, Option.bind_eq_bind, Option.bind_some]
  rw [← attrs] at directed maps
  obtain ⟨stillDirected, directionsSame⟩ := directed.symmetricPt pts
  have rewritten := rewriteFormats_rtpmaps pts (answer.attr, []) (by rw [maps]; exact restricted.rewritable renames)
  have mapped : (rtpmaps (updateMediaDirection om (applyAnswerSymmetricPt answer pts)).attr).Perm
      ((without rest (rtpmaps im.attr)).map (renamed pts)) := by
    rw [rtpmaps_update, applyAnswerSymmetricPt_attr directed.fits, rtpmaps, List.filter_append]
    rw [maps] at rewritten
    exact rewritten
  obtain ⟨mediaSame, portSame, transportSame, fmtSame⟩ :=
    updateMediaDirection_line om (applyAnswerSymmetricPt answer pts)
  have listed : (updateMediaDirection om (applyAnswerSymmetricPt answer pts)).fmt = pts.map Prod.fst := fmtSame
  have renamedCatalogue := restricted.rename renames
  have codes : ∀ pt ∈ pts, (updateMediaDirection om (applyAnswerSymmetricPt answer pts)).coding pt.1 = om.coding pt.1 := by
    intro pt member
    rw [SdpMedia.coding, renamedCatalogue.coding_perm mapped (List.mem_map_of_mem member),
      restricted.coding_rename renames member,
      capable.catalogue.coding_restrict parts (List.mem_map_of_mem member)]
    exact pairs.same pt member
  refine ⟨_, result, ?_⟩
  constructor
  · rw [mediaSame, applyAnswerSymmetricPt, whole]
  · rw [transportSame, applyAnswerSymmetricPt, whole]
  · rw [portSame, applyAnswerSymmetricPt, whole]
  · constructor
    · rw [listed]
      exact renamedCatalogue.perm mapped
    · obtain ⟨pt, member, event⟩ := pairs.useful
      refine ⟨pt.1, ?_, ?_⟩
      · rw [listed]
        exact List.mem_map_of_mem member
      · rw [codes pt member]
        exact event
    · exact stillDirected.update om
  · intro fmt member
    rw [listed] at member
    obtain ⟨pt, held, rfl⟩ := List.mem_map.mp member
    exact ⟨pairs.offered pt held, codes pt held⟩
  · rw [localDir_update stillDirected, adjustedDir_eq offered.directed]
    congr 1
    apply localDir_congr
    rw [directionsSame, attrs]
    exact directions_removeFormats rest im.attr

theorem master_proper (offered : Proper table om) (capable : Proper table im) : Proper table (master prefs om im) := by
  unfold master
  split <;> assumption

theorem slave_proper (offered : Proper table om) (capable : Proper table im) : Proper table (slave prefs om im) := by
  unfold slave
  split <;> assumption

variable (prefs) in
theorem matchOffer_spec (offered : Proper table om) (capable : Proper table im) (offeredPort : om.port ≠ 0)
    (capablePort : im.port ≠ 0) (initial : SdpSession) :
    (∃ status, matchOffer [] prefs om im initial = some (.error status)) ∨
      ∃ am, matchOffer [] prefs om im initial = some (.ok am) ∧ Answers table om im am := by
  have proper : Proper table (master prefs om im) := master_proper offered capable
  obtain ⟨found, run, known⟩ := matchFormats_found proper (slave_proper offered capable) (master prefs om im).fmt
    (.none prefs _ _) (fun _ member => member) 0
  obtain ⟨fmt, listed, event⟩ := proper.media
  have wanted := known.wanted fmt (by simpa using listed) event
  unfold matchOffer
  simp only [offeredPort, capablePort, if_false, run]
  by_cases codec : found.masterHasCodec = true ∧ found.foundMatchingCodec = false
  · left
    exact ⟨.sdpNegNoAnsCodec, by simp [codec.1, codec.2]⟩
  · by_cases other : found.masterHasOther = true ∧ found.foundMatchingOther = false
    · left
      have codecs : ¬ (found.masterHasCodec && !found.foundMatchingCodec) = true := by simpa using codec
      exact ⟨.sdpNegNoAnsUnknown, by rw [if_neg codecs]; simp [other.1, other.2]⟩
    · right
      have useful : found.foundMatchingCodec = true ∨ found.foundMatchingOther = true := by
        rcases wanted with has | has
        · left
          by_contra missed
          exact codec ⟨has, by simpa using missed⟩
        · right
          by_contra missed
          exact other ⟨has, by simpa using missed⟩
      have codecs : ¬ (found.masterHasCodec && !found.foundMatchingCodec) = true := by simpa using codec
      have others : ¬ (found.masterHasOther && !found.foundMatchingOther) = true := by simpa using other
      obtain ⟨am, answered, answers⟩ := answerWith_spec offered capable (known.pairs offered capable useful)
      exact ⟨am, by rw [if_neg codecs, if_neg others, answered]; rfl, answers⟩

end Answer

end TiSIP.Pjmedia
