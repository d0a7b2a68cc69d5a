import TiSIP.Pjmedia.SdpFormats

namespace TiSIP.Pjmedia

open Pjlib Rearrange
open Pjsua (asciiLower)

section Rtpmaps

theorem pjStricmp_iff (left right : List UInt8) :
    pjStricmp left right = true ↔ left.map asciiLower = right.map asciiLower := by
  simp [pjStricmp]

theorem encoding_eq_iff (left right : SdpRtpmap) :
    right.encoding = left.encoding ↔ pjStricmp left.encName right.encName = true ∧ left.clockRate = right.clockRate ∧
      pjStricmp left.param right.param = true := by
  simp only [SdpRtpmap.encoding, Prod.mk.injEq, pjStricmp_iff]
  constructor <;> rintro ⟨name, rate, param⟩ <;> exact ⟨name.symm, rate.symm, param.symm⟩

variable {or_ other : SdpRtpmap}

theorem rtpmapMatches_iff (left : or_.param ≠ pjStr "1") (right : other.param ≠ pjStr "1") :
    rtpmapMatches or_ other = true ↔ other.encoding = or_.encoding := by
  rw [encoding_eq_iff]
  simp [rtpmapMatches, left, right, and_assoc]

theorem rtpmapAnswers_iff (right : other.param ≠ pjStr "1") :
    rtpmapAnswers or_ other = true ↔ other.encoding = or_.encoding := by
  rw [encoding_eq_iff]
  simp [rtpmapAnswers, right, and_assoc]

theorem isTelephoneEvent_eq (rtpmap : SdpRtpmap) :
    isTelephoneEvent rtpmap = (Coding.mapped (some rtpmap.encoding)).isEvent := rfl

end Rtpmaps

section SymmetricPt

abbrev SplitAttrs : Type := List SdpAttr × List SdpAttr

structure Parted (before after : SplitAttrs) : Prop where
  total : after.1.length + after.2.length = before.1.length + before.2.length
  staying : directions after.1 = directions before.1
  taken : directions after.2 = directions before.2

theorem Parted.refl (attrs : SplitAttrs) : Parted attrs attrs := ⟨rfl, rfl, rfl⟩

theorem Parted.trans {before middle after : SplitAttrs} (first : Parted before middle) (second : Parted middle after) :
    Parted before after :=
  ⟨second.total.trans first.total, second.staying.trans first.staying, second.taken.trans first.taken⟩

theorem takeRewritten_parted {name : String} (apart : ∀ attr : SdpAttr, attr.name = pjStr name → isDirection attr = false)
    (oldPt newPt : List UInt8) (attrs : SplitAttrs) : Parted attrs (takeRewritten name oldPt newPt attrs) := by
  unfold takeRewritten
  split
  · exact .refl attrs
  · rename_i found taken
    have held := List.find?_some taken
    have inside := List.mem_of_find?_eq_some taken
    constructor
    · have shorter := List.length_eraseP_of_mem inside held
      have some := List.length_pos_of_mem inside
      simp only [attrRemoveFound, List.length_append, List.length_singleton]
      omega
    · exact directions_removeFound attrs.1 oldPt apart
    · have not : isDirection { found with value := rewritePt found.value oldPt newPt } = false :=
        apart _ (@attrMatches_name name (some oldPt) found held)
      simp [directions, List.filter_append, not]

theorem rewriteFormat_parted (attrs : SplitAttrs) (pt : List UInt8 × List UInt8) :
    Parted attrs (rewriteFormat attrs pt) := by
  unfold rewriteFormat
  split
  · exact .refl attrs
  · exact (takeRewritten_parted rtpmap_not_direction _ _ _).trans (takeRewritten_parted fmtp_not_direction _ _ _)

theorem rewriteFormats_parted (pts : List (List UInt8 × List UInt8)) (attrs : SplitAttrs) :
    Parted attrs (pts.foldl rewriteFormat attrs) := by
  induction pts generalizing attrs with
  | nil => exact .refl attrs
  | cons pt pts ih => exact (rewriteFormat_parted attrs pt).trans (ih _)

theorem takeRtpmap_staying {attrs : SplitAttrs} (once : Keyed.Distinct number (rtpmaps attrs.1)) (oldPt newPt : List UInt8) :
    rtpmaps (takeRewritten "rtpmap" oldPt newPt attrs).1 =
      (rtpmaps attrs.1).filter fun attr => number attr != payloadType oldPt := by
  unfold takeRewritten
  rw [attrFind_rtpmap]
  split
  · rename_i missed
    symm
    apply List.filter_eq_self.mpr
    intro attr member
    simpa using List.find?_eq_none.mp missed attr member
  · rw [rtpmaps_removeFound, Keyed.erase_eq_filter once]

theorem takeRtpmap_taken {attrs : SplitAttrs} (once : Keyed.Distinct number (rtpmaps attrs.1)) (oldPt newPt : List UInt8) :
    rtpmaps (takeRewritten "rtpmap" oldPt newPt attrs).2 =
      rtpmaps attrs.2 ++ ((rtpmaps attrs.1).filter fun attr => number attr == payloadType oldPt).map fun attr =>
        { attr with value := rewritePt attr.value oldPt newPt } := by
  unfold takeRewritten
  rw [attrFind_rtpmap, Keyed.filter_eq_find once]
  split
  · rename_i missed
    simp [missed]
  · rename_i found taken
    have rtpmap : isRtpmap { found with value := rewritePt found.value oldPt newPt } = true :=
      (List.mem_filter.mp (List.mem_of_find?_eq_some taken)).2
    have last : rtpmaps [{ found with value := rewritePt found.value oldPt newPt }] =
        [{ found with value := rewritePt found.value oldPt newPt }] := by
      rw [rtpmaps, List.filter_singleton, rtpmap]
      rfl
    rw [taken, rtpmaps, List.filter_append]
    exact congrArg _ last

theorem takeFmtp_rtpmaps (attrs : SplitAttrs) (oldPt newPt : List UInt8) :
    rtpmaps (takeRewritten "fmtp" oldPt newPt attrs).1 = rtpmaps attrs.1 ∧
      rtpmaps (takeRewritten "fmtp" oldPt newPt attrs).2 = rtpmaps attrs.2 := by
  unfold takeRewritten
  split
  · exact ⟨rfl, rfl⟩
  · rename_i found taken
    have named := attrMatches_name (List.find?_some taken)
    have not : isRtpmap { found with value := rewritePt found.value oldPt newPt } = false := by
      simp only [isRtpmap, named]
      decide
    exact ⟨rtpmaps_removeFmtp attrs.1 oldPt, by simp [rtpmaps, List.filter_append, not]⟩

structure Rewritable (attrs : List SdpAttr) (pts : List (List UInt8 × List UInt8)) : Prop where
  once : Keyed.Distinct number attrs
  changing : ∀ pt ∈ pts, pt.2 ≠ pt.1 → isStandard pt.2 = true
  apart : pts.Pairwise fun first second =>
    isStandard first.2 = true → isStandard second.2 = true → payloadType first.2 ≠ payloadType second.2
  written : ∀ pt ∈ pts, isStandard pt.2 = true → ∀ attr ∈ attrs, number attr = payloadType pt.2 → pt.2 <+: attr.value

theorem renamed_cons (pt : List UInt8 × List UInt8) (pts : List (List UInt8 × List UInt8)) (attr : SdpAttr) :
    renamed (pt :: pts) attr =
      if isStandard pt.2 = true ∧ number attr = payloadType pt.2 then
        { attr with value := rewritePt attr.value pt.2 pt.1 }
      else renamed pts attr := by
  unfold renamed
  rw [List.find?_cons]
  by_cases caught : isStandard pt.2 = true ∧ number attr = payloadType pt.2
  · have hit : (isStandard pt.2 && payloadType pt.2 == number attr) = true := by
      rw [caught.1, caught.2, Bool.true_and, beq_self_eq_true]
    rw [hit, if_pos caught]
  · have missed : (isStandard pt.2 && payloadType pt.2 == number attr) = false := by
      cases standard : isStandard pt.2 with
      | false => rfl
      | true =>
        rw [Bool.true_and, beq_eq_false_iff_ne]
        exact fun same => caught ⟨standard, same.symm⟩
    rw [missed, if_neg caught]

theorem Rewritable.renamed_eq {attrs : List SdpAttr} {pt : List UInt8 × List UInt8}
    {pts : List (List UInt8 × List UInt8)} (rewritable : Rewritable attrs (pt :: pts)) {attr : SdpAttr}
    (standard : isStandard pt.2 = true) (numbered : number attr = payloadType pt.2) : renamed pts attr = attr := by
  unfold renamed
  split
  · rename_i other found
    have caught := List.find?_some found
    simp only [Bool.and_eq_true, beq_iff_eq] at caught
    have apart := (List.pairwise_cons.mp rewritable.apart).1 other (List.mem_of_find?_eq_some found) standard caught.1
    exact absurd (numbered.symm.trans caught.2.symm) apart
  · rfl

theorem rewritePt_self {value pt : List UInt8} (front : pt <+: value) : rewritePt value pt pt = value := by
  obtain ⟨rest, rfl⟩ := front
  simp [rewritePt]

theorem Rewritable.unchanged {attrs : List SdpAttr} {pt : List UInt8 × List UInt8}
    {pts : List (List UInt8 × List UInt8)} (rewritable : Rewritable attrs (pt :: pts)) (same : pt.2 = pt.1)
    {attr : SdpAttr} (member : attr ∈ attrs) : renamed (pt :: pts) attr = renamed pts attr := by
  rw [renamed_cons]
  split
  · rename_i caught
    have front := rewritable.written pt List.mem_cons_self caught.1 attr member caught.2
    rw [rewritable.renamed_eq caught.1 caught.2, ← same, rewritePt_self front]
  · rfl

theorem Rewritable.rest {attrs others : List SdpAttr} {pt : List UInt8 × List UInt8}
    {pts : List (List UInt8 × List UInt8)} (rewritable : Rewritable attrs (pt :: pts)) (fewer : others.Sublist attrs) :
    Rewritable others pts where
  once := rewritable.once.sublist fewer
  changing other member := rewritable.changing other (List.mem_cons_of_mem _ member)
  apart := (List.pairwise_cons.mp rewritable.apart).2
  written other member standard attr held :=
    rewritable.written other (List.mem_cons_of_mem _ member) standard attr (fewer.subset held)

theorem rewriteFormats_rtpmaps (pts : List (List UInt8 × List UInt8)) (attrs : SplitAttrs)
    (rewritable : Rewritable (rtpmaps attrs.1) pts) :
    (rtpmaps (pts.foldl rewriteFormat attrs).1 ++ rtpmaps (pts.foldl rewriteFormat attrs).2).Perm
      (rtpmaps attrs.2 ++ (rtpmaps attrs.1).map (renamed pts)) := by
  induction pts generalizing attrs with
  | nil =>
    have same : (rtpmaps attrs.1).map (renamed []) = rtpmaps attrs.1 := List.map_id'' (fun _ => rfl) _
    rw [same]
    exact List.perm_append_comm
  | cons pt pts ih =>
    rw [List.foldl_cons]
    by_cases same : pt.2 = pt.1
    · have skipped : rewriteFormat attrs pt = attrs := by simp [rewriteFormat, same]
      have mapped : (rtpmaps attrs.1).map (renamed (pt :: pts)) = (rtpmaps attrs.1).map (renamed pts) :=
        List.map_congr_left fun attr member => rewritable.unchanged same member
      rw [skipped, mapped]
      exact ih attrs (rewritable.rest (.refl _))
    · have standard := rewritable.changing pt List.mem_cons_self same
      have fmtp := takeFmtp_rtpmaps (takeRewritten "rtpmap" pt.2 pt.1 attrs) pt.2 pt.1
      have staying := fmtp.1.trans (takeRtpmap_staying rewritable.once pt.2 pt.1)
      have taken := fmtp.2.trans (takeRtpmap_taken rewritable.once pt.2 pt.1)
      have step : rewriteFormat attrs pt =
          takeRewritten "fmtp" pt.2 pt.1 (takeRewritten "rtpmap" pt.2 pt.1 attrs) := by
        simp [rewriteFormat, same]
      rw [← step] at staying taken
      have rest := ih (rewriteFormat attrs pt) (by rw [staying]; exact rewritable.rest List.filter_sublist)
      rw [staying, taken, List.append_assoc] at rest
      apply rest.trans
      apply List.Perm.append_left
      have caught : ((rtpmaps attrs.1).filter fun attr => number attr == payloadType pt.2).map (renamed (pt :: pts)) =
          ((rtpmaps attrs.1).filter fun attr => number attr == payloadType pt.2).map fun attr =>
            { attr with value := rewritePt attr.value pt.2 pt.1 } := by
        apply List.map_congr_left
        intro attr member
        have numbered := (List.mem_filter.mp member).2
        rw [beq_iff_eq] at numbered
        rw [renamed_cons, if_pos ⟨standard, numbered⟩]
      have missed : ((rtpmaps attrs.1).filter fun attr => number attr != payloadType pt.2).map (renamed (pt :: pts)) =
          ((rtpmaps attrs.1).filter fun attr => number attr != payloadType pt.2).map (renamed pts) := by
        apply List.map_congr_left
        intro attr member
        have numbered := (List.mem_filter.mp member).2
        rw [bne_iff_ne] at numbered
        rw [renamed_cons, if_neg fun both => numbered both.2]
      rw [← caught, ← missed, ← List.map_append]
      exact (List.filter_append_perm (fun attr => number attr == payloadType pt.2) (rtpmaps attrs.1)).map _

theorem attrAdd_fits (more attrs : List SdpAttr) (fits : attrs.length + more.length ≤ maxSdpAttr) :
    more.foldl attrAdd attrs = attrs ++ more := by
  induction more generalizing attrs with
  | nil => simp
  | cons attr more ih =>
    simp only [List.length_cons] at fits
    have room : attrAdd attrs attr = attrs ++ [attr] := by
      rw [attrAdd, if_pos (by omega)]
    rw [List.foldl_cons, room, ih _ (by simp only [List.length_append, List.length_singleton]; omega)]
    simp

theorem applyAnswerSymmetricPt_attr {answer : SdpMedia} (fits : answer.attr.length ≤ maxSdpAttr)
    (pts : List (List UInt8 × List UInt8)) :
    (applyAnswerSymmetricPt answer pts).attr =
      (pts.foldl rewriteFormat (answer.attr, [])).1 ++ (pts.foldl rewriteFormat (answer.attr, [])).2 := by
  have parted := rewriteFormats_parted pts (answer.attr, [])
  apply attrAdd_fits
  rw [parted.total]
  simpa using fits

theorem Directed.symmetricPt {answer : SdpMedia} (directed : Directed answer.attr) (pts : List (List UInt8 × List UInt8)) :
    Directed (applyAnswerSymmetricPt answer pts).attr ∧
      directions (applyAnswerSymmetricPt answer pts).attr = directions answer.attr := by
  have parted := rewriteFormats_parted pts (answer.attr, [])
  have same : directions (applyAnswerSymmetricPt answer pts).attr = directions answer.attr := by
    rw [applyAnswerSymmetricPt_attr directed.fits, directions, List.filter_append]
    have staying := parted.staying
    have taken := parted.taken
    simp only [directions, List.filter_nil] at staying taken
    rw [staying, taken, List.append_nil]
    rfl
  refine ⟨directed.congr same ?_, same⟩
  rw [applyAnswerSymmetricPt_attr directed.fits, List.length_append, parted.total]
  simp

end SymmetricPt

end TiSIP.Pjmedia
