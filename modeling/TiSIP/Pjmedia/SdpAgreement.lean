import TiSIP.Pjmedia.SdpAnswer

namespace TiSIP.Pjmedia

open Pjlib Rearrange

section Formats

variable {table : Nat → Option Encoding} {om am : SdpMedia}

theorem findIdx_congr {Item : Type} {first second : Item → Bool} {items : List Item}
    (same : ∀ item ∈ items, first item = second item) : items.findIdx? first = items.findIdx? second := by
  induction items with
  | nil => rfl
  | cons item items ih =>
    rw [List.findIdx?_cons, List.findIdx?_cons, same item List.mem_cons_self,
      ih fun other member => same other (List.mem_cons_of_mem _ member)]

theorem findIdx_zipIdx {Item : Type} (holds : Item → Bool) (items : List Item) (first : Nat) :
    ((items.zipIdx first).findIdx? fun pair => holds pair.1) = items.findIdx? holds := by
  have mapped : (items.zipIdx first).map Prod.fst = items := List.zipIdx_map_fst first items
  conv_rhs => rw [← mapped, List.findIdx?_map]
  rfl

def Drawn (om am : SdpMedia) : Prop := ∀ fmt ∈ am.fmt, fmt ∈ om.fmt ∧ am.coding fmt = om.coding fmt

theorem answerIndex_eq (offered : Proper table om) (answered : Proper table am) (drawn : Drawn om am) {fmt : List UInt8}
    (member : fmt ∈ om.fmt) (current : SdpMedia)
    (mapped : 96 ≤ payloadType fmt → ∃ attr ∈ rtpmaps om.attr, number attr = payloadType fmt ∧
      current.findAttr2 "rtpmap" (some fmt) = some attr) (i : Nat) :
    answerIndex [] current am i fmt = .ok (am.fmt.findIdx? fun other => other == fmt) := by
  unfold answerIndex
  by_cases static : payloadType fmt < 96
  · rw [if_pos static]
  · obtain ⟨attr, held, numbered, found⟩ := mapped (by omega)
    rw [if_neg static, found]
    dsimp only
    congr 1
    apply Eq.trans _ ((findIdx_zipIdx _ _ 0).trans (findIdx_congr _))
    · exact fun other => (am.findAttr2 "rtpmap" (some other)).any fun a =>
        rtpmapAnswers (attrGetRtpmap attr) (attrGetRtpmap a)
    · congr 1
      funext pair
      cases am.findAttr2 "rtpmap" (some pair.1) with
      | none => rfl
      | some a => simp [customFmtMatch]
    · intro other listed
      have same : am.coding other = om.coding fmt ↔ other = fmt := by
        rw [(drawn other listed).2]
        constructor
        · exact offered.catalogue.coding_injective (drawn other listed).1 member
        · exact fun equal => congrArg _ equal
      rw [Bool.eq_iff_iff, beq_iff_eq, ← same]
      unfold SdpMedia.coding
      rw [offered.catalogue.same_dynamic answered.catalogue held numbered (by omega), SdpMedia.findAttr2,
        attrFind_rtpmap, Option.any_eq_true]
      constructor
      · rintro ⟨a, known, matched⟩
        have plain := answered.catalogue.plain a (List.mem_of_find?_eq_some known)
        exact ⟨a, known, (rtpmapAnswers_iff plain).mp matched⟩
      · rintro ⟨a, known, matched⟩
        have plain := answered.catalogue.plain a (List.mem_of_find?_eq_some known)
        exact ⟨a, known, (rtpmapAnswers_iff plain).mpr matched⟩

theorem keepMatching_spec (offered : Proper table om) (answered : Proper table am) (drawn : Drawn om am)
    (rest : List (List UInt8)) (kept : List (List UInt8 × Nat)) (gone : List (List UInt8))
    (parts : om.fmt.Perm (kept.map Prod.fst ++ rest ++ gone)) :
    ∃ more, keepMatching [] om am kept rest (gone.foldl removeFormatAttrs om.attr) =
        .ok (kept ++ more, (gone ++ rest.filter fun fmt => !am.fmt.contains fmt).foldl removeFormatAttrs om.attr) ∧
      more.map Prod.fst = rest.filter am.fmt.contains ∧ ∀ pair ∈ more, am.fmt[pair.2]? = some pair.1 := by
  induction rest generalizing kept gone with
  | nil => exact ⟨[], by simp [keepMatching], rfl, by simp⟩
  | cons fmt rest ih =>
    have member : fmt ∈ om.fmt := parts.mem_iff.mpr (by simp)
    have whole : om.fmt.Perm ((kept.map Prod.fst ++ fmt :: rest) ++ gone) := by simpa using parts
    have index := answerIndex_eq offered answered drawn member
      { om with fmt := kept.map Prod.fst ++ fmt :: rest, attr := gone.foldl removeFormatAttrs om.attr } (by
        intro dynamic
        obtain ⟨attr, held, numbered⟩ := offered.catalogue.described fmt member dynamic
        refine ⟨attr, held, numbered, ?_⟩
        have stays := offered.catalogue.stays whole (by simp) dynamic held numbered
        have once := (offered.catalogue.restrict whole).once
        rw [SdpMedia.findAttr2, attrFind_rtpmap, rtpmaps_removeFormats offered.catalogue.once]
        exact (Keyed.find_eq_some_iff once).mpr ⟨stays, numbered⟩) kept.length
    cases found : am.fmt.findIdx? fun other => other == fmt with
    | some j =>
      obtain ⟨short, here, -⟩ := List.findIdx?_eq_some_iff_getElem.mp found
      have placed : am.fmt[j]? = some fmt := by
        rw [List.getElem?_eq_getElem short]
        simpa using here
      have listed : am.fmt.contains fmt = true := by
        rw [List.contains_iff_mem]
        exact List.mem_of_getElem? placed
      obtain ⟨more, run, names, indices⟩ := ih (kept ++ [(fmt, j)]) gone (by simpa using parts)
      have skipped : (fmt :: rest).filter (fun fmt => !am.fmt.contains fmt) =
          rest.filter fun fmt => !am.fmt.contains fmt :=
        List.filter_cons_of_neg (by rw [listed]; decide)
      refine ⟨(fmt, j) :: more, ?_, ?_, ?_⟩
      · rw [found] at index
        rw [keepMatching, index, skipped, List.append_cons]
        exact run
      · rw [List.filter_cons_of_pos listed, ← names, List.map_cons]
      · intro pair held
        rcases List.mem_cons.mp held with rfl | later
        · exact placed
        · exact indices pair later
    | none =>
      have missed : am.fmt.contains fmt = false := by
        rw [Bool.eq_false_iff, Ne, List.contains_iff_mem]
        intro listed
        have absent := List.findIdx?_eq_none_iff.mp found fmt listed
        simp at absent
      have moved : om.fmt.Perm (kept.map Prod.fst ++ rest ++ (gone ++ [fmt])) := by
        have front : (kept.map Prod.fst ++ fmt :: (rest ++ gone)).Perm (fmt :: (kept.map Prod.fst ++ (rest ++ gone))) :=
          List.perm_middle
        apply parts.trans
        simpa using front.trans (List.perm_append_singleton fmt _).symm
      obtain ⟨more, run, names, indices⟩ := ih kept (gone ++ [fmt]) moved
      have caught : (fmt :: rest).filter (fun fmt => !am.fmt.contains fmt) =
          fmt :: rest.filter fun fmt => !am.fmt.contains fmt :=
        List.filter_cons_of_pos (by rw [missed]; decide)
      refine ⟨more, ?_, ?_, indices⟩
      · rw [found] at index
        rw [keepMatching, index, caught, List.append_cons]
        rw [List.foldl_append, List.foldl_cons, List.foldl_nil] at run
        exact run
      · rw [List.filter_cons_of_neg (by rw [missed]; decide), names]

theorem exchangeSort_indices {fmts : List (List UInt8)} (distinct : fmts.Nodup) {kept : List (List UInt8 × Nat)}
    (names : (kept.map Prod.fst).Nodup) (all : ∀ fmt, fmt ∈ kept.map Prod.fst ↔ fmt ∈ fmts)
    (indices : ∀ pair ∈ kept, fmts[pair.2]? = some pair.1) : exchangeSort Prod.snd kept = fmts.zipIdx := by
  have members : ∀ pair, pair ∈ kept ↔ pair ∈ fmts.zipIdx := by
    intro pair
    rw [List.mem_zipIdx_iff_getElem?]
    constructor
    · exact indices pair
    · intro placed
      obtain ⟨other, held, same⟩ := List.mem_map.mp ((all pair.1).mpr (List.mem_of_getElem? placed))
      have also := indices other held
      rw [same] at also
      have equal : other.2 = pair.2 := (List.getElem?_inj (List.getElem?_eq_some_iff.mp also).1 distinct).mp (also.trans placed.symm)
      have whole : other = pair := Prod.ext same equal
      exact whole ▸ held
  have perm : kept.Perm fmts.zipIdx := by
    apply (List.perm_ext_iff_of_nodup _ _).mpr members
    · exact List.Nodup.of_map Prod.fst names
    · apply List.Nodup.of_map Prod.fst
      rw [List.zipIdx_map_fst]
      exact distinct
  have sorted : (fmts.zipIdx).Pairwise fun first second => first.2 ≤ second.2 := by
    apply List.pairwise_map.mp
    rw [List.zipIdx_map_snd]
    have ascending := List.pairwise_lt_range' (s := 0) (n := fmts.length)
    exact ascending.imp le_of_lt
  apply List.Perm.eq_of_pairwise _ (exchangeSort_sorted Prod.snd kept) sorted ((exchangeSort_perm Prod.snd kept).trans perm)
  intro first second left right low high
  have one := (List.mem_zipIdx_iff_getElem?).mp ((members first).mp ((exchangeSort_perm Prod.snd kept).mem_iff.mp left))
  have two := (List.mem_zipIdx_iff_getElem?).mp right
  rw [le_antisymm low high, two] at one
  exact Prod.ext (Option.some.inj one).symm (le_antisymm low high)

theorem dropUnmatched_all (fmts : List (List UInt8)) (i : Nat) (attr : List SdpAttr) :
    dropUnmatched (List.range' i fmts.length) i 0 fmts attr = (fmts, attr) := by
  induction fmts generalizing i with
  | nil => simp [dropUnmatched]
  | cons fmt fmts ih => simp [dropUnmatched, List.range'_succ, ih]

structure Settled (table : Nat → Option Encoding) (om am settled : SdpMedia) : Prop where
  media : settled.media = om.media
  transport : settled.transport = om.transport
  port : settled.port = om.port
  fmt : settled.fmt = am.fmt
  proper : Proper table settled
  codes : ∀ fmt ∈ am.fmt, settled.coding fmt = am.coding fmt
  dir : localDir settled = (localDir om).meet (localDir am).mirror

theorem Proper.update (proper : Proper table om) (remote : SdpMedia) : Proper table (updateMediaDirection remote om) := by
  have same := (updateMediaDirection_line remote om).2.2.2
  have maps := rtpmaps_update remote om
  constructor
  · rw [same, maps]
    exact proper.catalogue
  · obtain ⟨fmt, member, event⟩ := proper.media
    refine ⟨fmt, by rw [same]; exact member, ?_⟩
    rw [SdpMedia.coding, maps]
    exact event
  · exact proper.directed.update remote

theorem transportCmp_self (transport : List UInt8) : transportCmp transport transport = .success := by
  simp [transportCmp, pjStricmp]

theorem processMAnswer_spec (offered : Proper table om) (answered : Proper table am) (drawn : Drawn om am)
    (media : am.media = om.media) (transport : am.transport = om.transport) (offeredPort : om.port ≠ 0)
    (answeredPort : am.port ≠ 0) :
    ∃ settled, processMAnswer [] om am = (.success, settled, am) ∧ Settled table om am settled := by
  obtain ⟨sameMedia, samePort, sameTransport, sameFmt⟩ := updateMediaDirection_line am om
  have updated := offered.update am
  have maps := rtpmaps_update am om
  have coding : ∀ fmt, (updateMediaDirection am om).coding fmt = om.coding fmt := fun fmt => by
    rw [SdpMedia.coding, maps, SdpMedia.coding]
  have stillDrawn : Drawn (updateMediaDirection am om) am := by
    intro fmt member
    rw [sameFmt, coding]
    exact drawn fmt member
  obtain ⟨kept, run, names, indices⟩ := keepMatching_spec updated answered stillDrawn
    (updateMediaDirection am om).fmt [] [] (by simp)
  simp only [List.nil_append, List.foldl_nil] at run
  generalize gone : ((updateMediaDirection am om).fmt.filter fun fmt => !am.fmt.contains fmt) = removed at run
  have parts : (updateMediaDirection am om).fmt.Perm (kept.map Prod.fst ++ removed) := by
    rw [names, ← gone]
    exact (List.filter_append_perm am.fmt.contains _).symm
  have listed : ∀ fmt, fmt ∈ kept.map Prod.fst ↔ fmt ∈ am.fmt := by
    intro fmt
    rw [names, List.mem_filter, List.contains_iff_mem]
    exact ⟨fun both => both.2, fun member => ⟨(stillDrawn fmt member).1, member⟩⟩
  have distinct : (kept.map Prod.fst).Nodup := (parts.nodup_iff.mp updated.catalogue.distinct).of_append_left
  have sorted := exchangeSort_indices answered.catalogue.distinct distinct listed indices
  have some : kept ≠ [] := by
    obtain ⟨fmt, member, -⟩ := answered.media
    rintro rfl
    simpa using (listed fmt).mpr member
  have compatible : transportCmp am.transport om.transport = .success := by rw [transport, transportCmp_self]
  refine ⟨{ updateMediaDirection am om with
      fmt := am.fmt, attr := removed.foldl removeFormatAttrs (updateMediaDirection am om).attr }, ?_, ?_⟩
  · unfold processMAnswer
    rw [if_neg (not_not_intro media), if_neg (not_not_intro compatible), if_neg answeredPort, if_neg offeredPort]
    simp only [run, some, sorted, if_false, List.zipIdx_map_snd, List.zipIdx_map_fst, dropUnmatched_all]
  · have whole : (updateMediaDirection am om).fmt.Perm (am.fmt ++ removed) := by
      apply parts.trans
      apply List.Perm.append_right
      exact (List.perm_ext_iff_of_nodup distinct answered.catalogue.distinct).mpr listed
    have restricted := updated.catalogue.restrict whole
    have mapsLeft := rtpmaps_removeFormats updated.catalogue.once removed
    have codes : ∀ fmt ∈ am.fmt,
        codingIn (rtpmaps (removed.foldl removeFormatAttrs (updateMediaDirection am om).attr)) fmt = am.coding fmt := by
      intro fmt member
      rw [mapsLeft]
      exact (updated.catalogue.coding_restrict whole member).trans (stillDrawn fmt member).2.symm
    constructor
    · exact sameMedia
    · exact sameTransport
    · exact samePort
    · rfl
    · constructor
      · dsimp only
        rw [mapsLeft]
        exact restricted
      · obtain ⟨fmt, member, event⟩ := answered.media
        refine ⟨fmt, member, ?_⟩
        rw [SdpMedia.coding, codes fmt member]
        exact event
      · exact updated.directed.removeFormats removed
    · exact codes
    · rw [← adjustedDir_eq answered.directed, ← localDir_update offered.directed]
      apply localDir_congr
      exact directions_removeFormats removed _

end Formats

end TiSIP.Pjmedia
