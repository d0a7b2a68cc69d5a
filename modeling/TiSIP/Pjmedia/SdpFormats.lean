import TiSIP.Pjmedia.SdpLines

namespace TiSIP.Pjmedia

open Pjlib
open Pjsua (asciiLower)

abbrev Encoding : Type := List UInt8 × Nat × List UInt8

def SdpRtpmap.encoding (rtpmap : SdpRtpmap) : Encoding :=
  (rtpmap.encName.map asciiLower, rtpmap.clockRate, rtpmap.param.map asciiLower)

def encodingAt (attr : SdpAttr) : Encoding := (attrGetRtpmap attr).encoding

inductive Coding
  | assigned (payload : Nat)
  | mapped (encoding : Option Encoding)
  | named (text : List UInt8)
  deriving DecidableEq

def Coding.isEvent : Coding → Bool
  | .mapped (some encoding) => encoding.1 == (pjStr "telephone-event").map asciiLower
  | _ => false

def codingIn (maps : List SdpAttr) (fmt : List UInt8) : Coding :=
  if isStandard fmt then
    if payloadType fmt < 96 then .assigned (payloadType fmt)
    else .mapped ((maps.find? fun attr => number attr == payloadType fmt).map encodingAt)
  else .named fmt

def SdpMedia.coding (m : SdpMedia) (fmt : List UInt8) : Coding := codingIn (rtpmaps m.attr) fmt

/-- The formats of a line and its rtpmaps, in the way the library itself writes them: every format
    once, by its number where it has one, every rtpmap for one of the formats, and mono without a
    channel count. `table` holds the encodings of the static payload types. -/
structure Catalogued (table : Nat → Option Encoding) (fmts : List (List UInt8)) (maps : List SdpAttr) : Prop where
  distinct : fmts.Nodup
  numerals : ∀ fmt ∈ fmts, isStandard fmt = true → Numeral fmt
  described : ∀ fmt ∈ fmts, 96 ≤ payloadType fmt → ∃ attr ∈ maps, number attr = payloadType fmt
  once : Keyed.Distinct number maps
  written : ∀ attr ∈ maps, ∃ fmt ∈ fmts, isStandard fmt = true ∧ ∃ text, attr.value = fmt ++ space :: text
  plain : ∀ attr ∈ maps, (attrGetRtpmap attr).param ≠ pjStr "1"
  assigned : ∀ attr ∈ maps, number attr < 96 → table (number attr) = some (encodingAt attr)
  free : ∀ attr ∈ maps, 96 ≤ number attr → ∀ payload < 96, table payload ≠ some (encodingAt attr)
  encodings : ∀ first ∈ maps, ∀ second ∈ maps, 96 ≤ number first → 96 ≤ number second →
    encodingAt first = encodingAt second → number first = number second

structure Proper (table : Nat → Option Encoding) (m : SdpMedia) : Prop where
  catalogue : Catalogued table m.fmt (rtpmaps m.attr)
  media : ∃ fmt ∈ m.fmt, (m.coding fmt).isEvent = false
  directed : Directed m.attr

section Checked

instance (fmts : List (List UInt8)) (attr : SdpAttr) :
    Decidable (∃ fmt ∈ fmts, isStandard fmt = true ∧ ∃ text, attr.value = fmt ++ space :: text) :=
  decidable_of_iff (∃ fmt ∈ fmts, isStandard fmt = true ∧ fmt ++ [space] <+: attr.value) <| by
    simp only [List.prefix_iff_eq_append, List.append_assoc]
    constructor
    · rintro ⟨fmt, listed, standard, text⟩
      exact ⟨fmt, listed, standard, _, text.symm⟩
    · rintro ⟨fmt, listed, standard, text, value⟩
      exact ⟨fmt, listed, standard, by simp [value]⟩

set_option synthInstance.maxSize 512 in
instance (table : Nat → Option Encoding) (fmts : List (List UInt8)) (maps : List SdpAttr) :
    Decidable (Catalogued table fmts maps) :=
  decidable_of_iff
    ((fmts.Nodup ∧ (∀ fmt ∈ fmts, isStandard fmt = true → Numeral fmt) ∧
      ∀ fmt ∈ fmts, 96 ≤ payloadType fmt → ∃ attr ∈ maps, number attr = payloadType fmt) ∧
      Keyed.Distinct number maps ∧
      (∀ attr ∈ maps, ∃ fmt ∈ fmts, isStandard fmt = true ∧ ∃ text, attr.value = fmt ++ space :: text) ∧
      (∀ attr ∈ maps, (attrGetRtpmap attr).param ≠ pjStr "1") ∧
      (∀ attr ∈ maps, number attr < 96 → table (number attr) = some (encodingAt attr)) ∧
      (∀ attr ∈ maps, 96 ≤ number attr → ∀ payload < 96, table payload ≠ some (encodingAt attr)) ∧
      ∀ first ∈ maps, ∀ second ∈ maps, 96 ≤ number first → 96 ≤ number second →
        encodingAt first = encodingAt second → number first = number second)
    ⟨fun ⟨⟨distinct, numerals, described⟩, once, written, plain, assigned, free, encodings⟩ =>
      { distinct, numerals, described, once, written, plain, assigned, free, encodings },
      fun catalogue => ⟨⟨catalogue.distinct, catalogue.numerals, catalogue.described⟩, catalogue.once, catalogue.written,
        catalogue.plain, catalogue.assigned, catalogue.free, catalogue.encodings⟩⟩

instance (attrs : List SdpAttr) : Decidable (Directed attrs) :=
  decidable_of_iff
    ((∀ first ∈ directions attrs, ∀ second ∈ directions attrs, first.name = second.name) ∧ attrs.length ≤ maxSdpAttr ∧
      (directions attrs = [] → attrs.length < maxSdpAttr))
    ⟨fun ⟨one, fits, room⟩ => { one, fits, room }, fun directed => ⟨directed.one, directed.fits, directed.room⟩⟩

instance (table : Nat → Option Encoding) (m : SdpMedia) : Decidable (Proper table m) :=
  decidable_of_iff
    (Catalogued table m.fmt (rtpmaps m.attr) ∧ (∃ fmt ∈ m.fmt, (m.coding fmt).isEvent = false) ∧ Directed m.attr)
    ⟨fun ⟨catalogue, media, directed⟩ => { catalogue, media, directed },
      fun proper => ⟨proper.catalogue, proper.media, proper.directed⟩⟩

end Checked

section Codings

theorem codingIn_mapped {maps : List SdpAttr} (once : Keyed.Distinct number maps) {attr : SdpAttr}
    (member : attr ∈ maps) {fmt : List UInt8} (numbered : number attr = payloadType fmt) (dynamic : 96 ≤ payloadType fmt) :
    codingIn maps fmt = .mapped (some (encodingAt attr)) := by
  have standard : isStandard fmt = true := isStandard_of_payload (by omega)
  have found := (Keyed.find_eq_some_iff once).mpr ⟨member, numbered⟩
  simp [codingIn, standard, dynamic, found]

theorem codingIn_static (maps others : List SdpAttr) {fmt : List UInt8} (static : payloadType fmt < 96) :
    codingIn maps fmt = codingIn others fmt := by
  simp [codingIn, static]

theorem isEvent_static (maps : List SdpAttr) {fmt : List UInt8} (static : payloadType fmt < 96) :
    (codingIn maps fmt).isEvent = false := by
  unfold codingIn
  rw [if_pos static]
  split <;> rfl

variable {table : Nat → Option Encoding} {fmts others : List (List UInt8)} {maps otherMaps : List SdpAttr}

theorem Catalogued.standard (catalogue : Catalogued table fmts maps) {attr : SdpAttr} (member : attr ∈ maps) :
    ∃ fmt ∈ fmts, Numeral fmt ∧ number attr = payloadType fmt ∧ ∃ text, attr.value = fmt ++ space :: text := by
  obtain ⟨fmt, listed, standard, text, value⟩ := catalogue.written attr member
  have numeral := catalogue.numerals fmt listed standard
  have numbered : number attr = payloadType fmt := by
    rw [number, value]
    exact payloadType_value numeral.digits text
  exact ⟨fmt, listed, numeral, numbered, text, value⟩

theorem Catalogued.payload_eq (catalogue : Catalogued table fmts maps) {fmt other : List UInt8} (left : fmt ∈ fmts)
    (numeral : Numeral other) (positive : isStandard fmt = true) (same : payloadType fmt = payloadType other) :
    fmt = other :=
  (catalogue.numerals fmt left positive).eq numeral same

theorem Catalogued.same_dynamic (left : Catalogued table fmts maps) (right : Catalogued table others otherMaps)
    {fmt other : List UInt8} {attr : SdpAttr} (member : attr ∈ maps) (numbered : number attr = payloadType fmt)
    (dynamic : 96 ≤ payloadType fmt) :
    codingIn otherMaps other = codingIn maps fmt ↔
      ∃ found, otherMaps.find? (fun attr => number attr == payloadType other) = some found ∧
        encodingAt found = encodingAt attr := by
  rw [codingIn_mapped left.once member numbered dynamic]
  constructor
  · intro same
    unfold codingIn at same
    split at same
    · split at same
      · cases same
      · simp only [Coding.mapped.injEq, Option.map_eq_some_iff] at same
        exact same
    · cases same
  · rintro ⟨found, known, same⟩
    obtain ⟨inside, numberedOther⟩ := (Keyed.find_eq_some_iff right.once).mp known
    have high : 96 ≤ number found := by
      by_contra low
      have tabled := right.assigned found inside (by omega)
      rw [same] at tabled
      exact left.free attr member (by omega) _ (by omega) tabled
    rw [codingIn_mapped right.once inside numberedOther (by omega), same]

theorem Catalogued.coding_injective (catalogue : Catalogued table fmts maps) {fmt other : List UInt8}
    (left : fmt ∈ fmts) (right : other ∈ fmts) (same : codingIn maps fmt = codingIn maps other) : fmt = other := by
  by_cases dynamic : 96 ≤ payloadType fmt
  · obtain ⟨attr, member, numbered⟩ := catalogue.described fmt left dynamic
    obtain ⟨found, known, encoded⟩ := (catalogue.same_dynamic catalogue member numbered dynamic).mp same.symm
    obtain ⟨inside, numberedOther⟩ := (Keyed.find_eq_some_iff catalogue.once).mp known
    have coded := codingIn_mapped catalogue.once member numbered dynamic
    have high : 96 ≤ payloadType other := by
      by_contra low
      rw [coded] at same
      unfold codingIn at same
      rw [if_pos (show payloadType other < 96 by omega)] at same
      split at same <;> cases same
    have numbers := catalogue.encodings found inside attr member (by omega) (by omega) encoded
    have standard : isStandard fmt = true := isStandard_of_payload (by omega)
    have also : isStandard other = true := isStandard_of_payload (by omega)
    exact catalogue.payload_eq left (catalogue.numerals other right also) standard (by omega)
  · unfold codingIn at same
    rw [if_pos (by omega : payloadType fmt < 96)] at same
    split at same
    · rename_i standard
      split at same
      · rename_i also
        split at same
        · exact catalogue.payload_eq left (catalogue.numerals other right also) standard (by simpa using same)
        · cases same
      · cases same
    · split at same
      · split at same <;> cases same
      · simpa using same

end Codings

section Rewriting

variable {table : Nat → Option Encoding} {fmts kept gone : List (List UInt8)} {maps : List SdpAttr}

def without (gone : List (List UInt8)) (maps : List SdpAttr) : List SdpAttr :=
  maps.filter fun attr => gone.all fun fmt => number attr != payloadType fmt

theorem Catalogued.stays (catalogue : Catalogued table fmts maps) (parts : fmts.Perm (kept ++ gone)) {fmt : List UInt8}
    (member : fmt ∈ kept) (dynamic : 96 ≤ payloadType fmt) {attr : SdpAttr} (held : attr ∈ maps)
    (numbered : number attr = payloadType fmt) : attr ∈ without gone maps := by
  apply List.mem_filter.mpr
  refine ⟨held, ?_⟩
  rw [List.all_eq_true]
  intro other removed
  rw [bne_iff_ne]
  intro same
  have listed : fmt ∈ fmts := parts.mem_iff.mpr (List.mem_append_left _ member)
  have alsoListed : other ∈ fmts := parts.mem_iff.mpr (List.mem_append_right _ removed)
  have standard : isStandard other = true := isStandard_of_payload (by omega)
  have equal := catalogue.payload_eq listed (catalogue.numerals other alsoListed standard)
    (isStandard_of_payload (by omega)) (by omega)
  have apart := List.disjoint_of_nodup_append (parts.nodup_iff.mp catalogue.distinct)
  exact apart member (equal ▸ removed)

theorem Catalogued.restrict (catalogue : Catalogued table fmts maps) (parts : fmts.Perm (kept ++ gone)) :
    Catalogued table kept (without gone maps) := by
  have listed : ∀ fmt ∈ kept, fmt ∈ fmts := fun fmt member => parts.mem_iff.mpr (List.mem_append_left _ member)
  have inside : ∀ attr ∈ without gone maps, attr ∈ maps := fun attr member => (List.mem_filter.mp member).1
  constructor
  · exact (parts.nodup_iff.mp catalogue.distinct).of_append_left
  · exact fun fmt member => catalogue.numerals fmt (listed fmt member)
  · intro fmt member dynamic
    obtain ⟨attr, held, numbered⟩ := catalogue.described fmt (listed fmt member) dynamic
    exact ⟨attr, catalogue.stays parts member dynamic held numbered, numbered⟩
  · exact catalogue.once.sublist List.filter_sublist
  · intro attr member
    obtain ⟨fmt, named, numeral, numbered, text, value⟩ := catalogue.standard (inside attr member)
    have staying : fmt ∈ kept := by
      apply (List.mem_append.mp (parts.mem_iff.mp named)).resolve_right
      intro removed
      have apart := List.all_eq_true.mp (List.mem_filter.mp member).2 fmt removed
      exact bne_iff_ne.mp apart numbered
    exact ⟨fmt, staying, numeral.isStandard, text, value⟩
  · exact fun attr member => catalogue.plain attr (inside attr member)
  · exact fun attr member => catalogue.assigned attr (inside attr member)
  · exact fun attr member => catalogue.free attr (inside attr member)
  · exact fun first left second right => catalogue.encodings first (inside first left) second (inside second right)

theorem Catalogued.coding_restrict (catalogue : Catalogued table fmts maps) (parts : fmts.Perm (kept ++ gone))
    {fmt : List UInt8} (member : fmt ∈ kept) : codingIn (without gone maps) fmt = codingIn maps fmt := by
  by_cases dynamic : 96 ≤ payloadType fmt
  · have listed : fmt ∈ fmts := parts.mem_iff.mpr (List.mem_append_left _ member)
    obtain ⟨attr, held, numbered⟩ := catalogue.described fmt listed dynamic
    have stays := catalogue.stays parts member dynamic held numbered
    have once : Keyed.Distinct number (without gone maps) := catalogue.once.sublist List.filter_sublist
    rw [codingIn_mapped catalogue.once held numbered dynamic, codingIn_mapped once stays numbered dynamic]
  · exact codingIn_static _ _ (by omega)

end Rewriting

section Renaming

variable {table : Nat → Option Encoding} {fmts : List (List UInt8)} {maps : List SdpAttr}
  {pts : List (List UInt8 × List UInt8)}

def renamed (pts : List (List UInt8 × List UInt8)) (attr : SdpAttr) : SdpAttr :=
  match pts.find? fun pt => isStandard pt.2 && payloadType pt.2 == number attr with
  | some pt => { attr with value := rewritePt attr.value pt.2 pt.1 }
  | none => attr

/-- Only dynamic payload types get another number. -/
structure Renames (fmts : List (List UInt8)) (pts : List (List UInt8 × List UInt8)) : Prop where
  olds : pts.map Prod.snd = fmts
  news : (pts.map Prod.fst).Nodup
  dynamic : ∀ pt ∈ pts, pt.1 = pt.2 ∨ Numeral pt.1 ∧ 96 ≤ payloadType pt.1 ∧ 96 ≤ payloadType pt.2

theorem Renames.old_mem (renames : Renames fmts pts) {pt : List UInt8 × List UInt8} (member : pt ∈ pts) : pt.2 ∈ fmts := by
  rw [← renames.olds]
  exact List.mem_map_of_mem member

theorem Renames.numeral (renames : Renames fmts pts) (catalogue : Catalogued table fmts maps)
    {pt : List UInt8 × List UInt8} (member : pt ∈ pts) (standard : isStandard pt.2 = true) :
    Numeral pt.1 ∧ Numeral pt.2 := by
  have old := catalogue.numerals pt.2 (renames.old_mem member) standard
  rcases renames.dynamic pt member with same | ⟨numeral, -⟩
  · exact ⟨same ▸ old, old⟩
  · exact ⟨numeral, old⟩

theorem Renames.eq_of_old (renames : Renames fmts pts) (catalogue : Catalogued table fmts maps)
    {first second : List UInt8 × List UInt8} (left : first ∈ pts) (right : second ∈ pts) (same : first.2 = second.2) :
    first = second := by
  have distinct : (pts.map Prod.snd).Nodup := renames.olds ▸ catalogue.distinct
  exact List.inj_on_of_nodup_map distinct left right same

theorem Renames.eq_of_new (renames : Renames fmts pts) {first second : List UInt8 × List UInt8} (left : first ∈ pts)
    (right : second ∈ pts) (same : first.1 = second.1) : first = second :=
  List.inj_on_of_nodup_map renames.news left right same

theorem Catalogued.renamed_eq (catalogue : Catalogued table fmts maps) (renames : Renames fmts pts) {attr : SdpAttr}
    (member : attr ∈ maps) :
    ∃ pt ∈ pts, Numeral pt.1 ∧ Numeral pt.2 ∧ number attr = payloadType pt.2 ∧
      ∃ text, attr.value = pt.2 ++ space :: text ∧ renamed pts attr = { attr with value := pt.1 ++ space :: text } := by
  obtain ⟨fmt, listed, numeral, numbered, text, value⟩ := catalogue.standard member
  rw [← renames.olds] at listed
  obtain ⟨pt, held, rfl⟩ := List.mem_map.mp listed
  have both := renames.numeral catalogue held numeral.isStandard
  refine ⟨pt, held, both.1, both.2, numbered, text, value, ?_⟩
  unfold renamed
  cases found : pts.find? fun pt => isStandard pt.2 && payloadType pt.2 == number attr with
  | none =>
    have missed := List.find?_eq_none.mp found pt held
    simp [numeral.isStandard, numbered] at missed
  | some other =>
    have caught := List.find?_some found
    simp only [Bool.and_eq_true, beq_iff_eq] at caught
    have inside := List.mem_of_find?_eq_some found
    have same := (renames.numeral catalogue inside caught.1).2.eq numeral (caught.2.trans numbered)
    rw [renames.eq_of_old catalogue inside held same]
    simp [rewritePt, value]

theorem encodingAt_written {attr : SdpAttr} {fmt text : List UInt8} (numeral : Numeral fmt)
    (value : attr.value = fmt ++ space :: text) : attrGetRtpmap attr = encodingOf (skipWs (space :: text)) := by
  cases attr
  subst value
  exact attrGetRtpmap_value numeral.digits numeral.ne_nil _ _

theorem Catalogued.renamed_spec (catalogue : Catalogued table fmts maps) (renames : Renames fmts pts) {attr : SdpAttr}
    (member : attr ∈ maps) :
    ∃ pt ∈ pts, Numeral pt.1 ∧ number attr = payloadType pt.2 ∧ number (renamed pts attr) = payloadType pt.1 ∧
      attrGetRtpmap (renamed pts attr) = attrGetRtpmap attr ∧ ∃ text, (renamed pts attr).value = pt.1 ++ space :: text := by
  obtain ⟨pt, held, numeral, old, numbered, text, value, same⟩ := catalogue.renamed_eq renames member
  refine ⟨pt, held, numeral, numbered, ?_, ?_, text, by rw [same]⟩
  · rw [same, number]
    exact payloadType_value numeral.digits text
  · rw [encodingAt_written old value, encodingAt_written numeral (by rw [same])]

theorem Catalogued.rename (catalogue : Catalogued table fmts maps) (renames : Renames fmts pts) :
    Catalogued table (pts.map Prod.fst) (maps.map (renamed pts)) := by
  have high : ∀ pt ∈ pts, payloadType pt.1 = payloadType pt.2 ∨ 96 ≤ payloadType pt.1 ∧ 96 ≤ payloadType pt.2 := by
    intro pt member
    rcases renames.dynamic pt member with same | ⟨-, dynamic⟩
    · exact .inl (by rw [same])
    · exact .inr dynamic
  constructor
  · exact renames.news
  · intro fmt member standard
    obtain ⟨pt, held, rfl⟩ := List.mem_map.mp member
    rcases renames.dynamic pt held with same | ⟨numeral, -⟩
    · rw [same] at standard ⊢
      exact catalogue.numerals pt.2 (renames.old_mem held) standard
    · exact numeral
  · intro fmt member dynamic
    obtain ⟨pt, held, rfl⟩ := List.mem_map.mp member
    have old : 96 ≤ payloadType pt.2 := by
      rcases high pt held with same | both <;> omega
    obtain ⟨attr, inside, numbered⟩ := catalogue.described pt.2 (renames.old_mem held) old
    obtain ⟨other, alsoHeld, -, alsoNumbered, renumbered, -⟩ := catalogue.renamed_spec renames inside
    have standard : isStandard other.2 = true := isStandard_of_payload (by omega)
    have same := catalogue.payload_eq (renames.old_mem alsoHeld)
      (catalogue.numerals pt.2 (renames.old_mem held) (isStandard_of_payload (by omega))) standard (by omega)
    rw [renames.eq_of_old catalogue alsoHeld held same] at renumbered
    exact ⟨renamed pts attr, List.mem_map_of_mem inside, renumbered⟩
  · unfold Keyed.Distinct
    rw [List.map_map]
    apply List.Nodup.map_on
    · intro first left second right same
      obtain ⟨pt, held, numeral, numbered, renumbered, -⟩ := catalogue.renamed_spec renames left
      obtain ⟨other, alsoHeld, alsoNumeral, alsoNumbered, alsoRenumbered, -⟩ := catalogue.renamed_spec renames right
      have numbers : payloadType pt.1 = payloadType other.1 := by
        rw [← renumbered, ← alsoRenumbered]
        exact same
      have equal := renames.eq_of_new held alsoHeld (numeral.eq alsoNumeral numbers)
      exact catalogue.once.eq left right (by rw [numbered, alsoNumbered, equal])
    · exact List.Nodup.of_map number catalogue.once
  · intro attr member
    obtain ⟨attr, inside, rfl⟩ := List.mem_map.mp member
    obtain ⟨pt, held, numeral, -, -, -, text, value⟩ := catalogue.renamed_spec renames inside
    exact ⟨pt.1, List.mem_map_of_mem held, numeral.isStandard, text, value⟩
  · intro attr member
    obtain ⟨attr, inside, rfl⟩ := List.mem_map.mp member
    obtain ⟨-, -, -, -, -, same, -⟩ := catalogue.renamed_spec renames inside
    rw [same]
    exact catalogue.plain attr inside
  · intro attr member low
    obtain ⟨attr, inside, rfl⟩ := List.mem_map.mp member
    obtain ⟨pt, held, -, numbered, renumbered, same, -⟩ := catalogue.renamed_spec renames inside
    have numbers : number (renamed pts attr) = number attr := by
      rcases high pt held with equal | both <;> omega
    rw [numbers, encodingAt, same]
    exact catalogue.assigned attr inside (by omega)
  · intro attr member dynamic
    obtain ⟨attr, inside, rfl⟩ := List.mem_map.mp member
    obtain ⟨pt, held, -, numbered, renumbered, same, -⟩ := catalogue.renamed_spec renames inside
    rw [encodingAt, same]
    exact catalogue.free attr inside (by rcases high pt held with equal | both <;> omega)
  · intro first left second right dynamic alsoDynamic encoded
    obtain ⟨first, inside, rfl⟩ := List.mem_map.mp left
    obtain ⟨second, alsoInside, rfl⟩ := List.mem_map.mp right
    obtain ⟨pt, held, -, numbered, renumbered, same, -⟩ := catalogue.renamed_spec renames inside
    obtain ⟨other, alsoHeld, -, alsoNumbered, alsoRenumbered, alsoSame, -⟩ := catalogue.renamed_spec renames alsoInside
    rw [encodingAt, encodingAt, same, alsoSame] at encoded
    have old : 96 ≤ number first := by rcases high pt held with equal | both <;> omega
    have alsoOld : 96 ≤ number second := by rcases high other alsoHeld with equal | both <;> omega
    have numbers := catalogue.encodings first inside second alsoInside old alsoOld encoded
    rw [catalogue.once.eq inside alsoInside numbers]

theorem Catalogued.coding_rename (catalogue : Catalogued table fmts maps) (renames : Renames fmts pts)
    {pt : List UInt8 × List UInt8} (member : pt ∈ pts) :
    codingIn (maps.map (renamed pts)) pt.1 = codingIn maps pt.2 := by
  by_cases dynamic : 96 ≤ payloadType pt.2
  · obtain ⟨attr, inside, numbered⟩ := catalogue.described pt.2 (renames.old_mem member) dynamic
    obtain ⟨other, held, -, alsoNumbered, renumbered, said, -⟩ := catalogue.renamed_spec renames inside
    have standard : isStandard other.2 = true := isStandard_of_payload (by omega)
    have same := catalogue.payload_eq (renames.old_mem held)
      (catalogue.numerals pt.2 (renames.old_mem member) (isStandard_of_payload (by omega))) standard (by omega)
    have equal := renames.eq_of_old catalogue held member same
    rw [equal] at renumbered
    have high : 96 ≤ payloadType pt.1 := by
      rcases renames.dynamic pt member with unchanged | ⟨-, new, -⟩
      · rw [unchanged]
        exact dynamic
      · exact new
    rw [codingIn_mapped (catalogue.rename renames).once (List.mem_map_of_mem inside) renumbered high,
      codingIn_mapped catalogue.once inside numbered dynamic, encodingAt, encodingAt, said]
  · rcases renames.dynamic pt member with unchanged | ⟨-, -, old⟩
    · rw [unchanged]
      exact codingIn_static _ _ (by omega)
    · omega

theorem Catalogued.perm (catalogue : Catalogued table fmts maps) {others : List SdpAttr} (same : others.Perm maps) :
    Catalogued table fmts others where
  distinct := catalogue.distinct
  numerals := catalogue.numerals
  described fmt member dynamic := by
    obtain ⟨attr, held, numbered⟩ := catalogue.described fmt member dynamic
    exact ⟨attr, same.mem_iff.mpr held, numbered⟩
  once := catalogue.once.perm same
  written attr member := catalogue.written attr (same.mem_iff.mp member)
  plain attr member := catalogue.plain attr (same.mem_iff.mp member)
  assigned attr member := catalogue.assigned attr (same.mem_iff.mp member)
  free attr member := catalogue.free attr (same.mem_iff.mp member)
  encodings first left second right := catalogue.encodings first (same.mem_iff.mp left) second (same.mem_iff.mp right)

theorem Catalogued.coding_perm (catalogue : Catalogued table fmts maps) {others : List SdpAttr}
    (same : others.Perm maps) {fmt : List UInt8} (member : fmt ∈ fmts) : codingIn others fmt = codingIn maps fmt := by
  by_cases dynamic : 96 ≤ payloadType fmt
  · obtain ⟨attr, held, numbered⟩ := catalogue.described fmt member dynamic
    rw [codingIn_mapped catalogue.once held numbered dynamic,
      codingIn_mapped (catalogue.once.perm same) (same.mem_iff.mpr held) numbered dynamic]
  · exact codingIn_static _ _ (by omega)

end Renaming

end TiSIP.Pjmedia
