import TiSIP.Lib.Keyed
import TiSIP.Pjlib.Strings
import TiSIP.Pjmedia.SdpNeg

namespace TiSIP.Pjmedia

open Pjlib
open Pjsua (asciiLower)

section Numerals

/-- A payload type as `pj_utoa` writes it. -/
def Numeral (fmt : List UInt8) : Prop := fmt = pjUtoa (payloadType fmt)

instance (fmt : List UInt8) : Decidable (Numeral fmt) := inferInstanceAs (Decidable (fmt = _))

theorem Numeral.digits {fmt : List UInt8} (numeral : Numeral fmt) : ∀ byte ∈ fmt, isDigit byte = true := by
  rw [numeral]
  exact pjUtoa_digits _

theorem Numeral.ne_nil {fmt : List UInt8} (numeral : Numeral fmt) : fmt ≠ [] := by
  rw [numeral]
  exact pjUtoa_ne_nil _

theorem Numeral.eq {first second : List UInt8} (left : Numeral first) (right : Numeral second)
    (same : payloadType first = payloadType second) : first = second := by
  rw [left, right, same]

theorem isDigit_space : isDigit space = false := by decide

theorem isTokenChar_space : isTokenChar space = false := by decide

theorem isTokenChar_of_isDigit {byte : UInt8} (digit : isDigit byte = true) : isTokenChar byte = true := by
  simp [isTokenChar, alnumSpec, digit]

theorem not_ws_of_isDigit {byte : UInt8} (digit : isDigit byte = true) : (byte == space || byte == tab) = false := by
  simp only [Bool.or_eq_false_iff, beq_eq_false_iff_ne, ne_eq]
  constructor <;> rintro rfl <;> exact absurd digit (by decide)

theorem payloadType_value {fmt : List UInt8} (digits : ∀ byte ∈ fmt, isDigit byte = true) (text : List UInt8) :
    payloadType (fmt ++ space :: text) = payloadType fmt := by
  have front : (fmt ++ space :: text).takeWhile isDigit = fmt.takeWhile isDigit := by
    rw [List.takeWhile_append_of_pos digits, List.takeWhile_cons, isDigit_space]
    simpa using (List.takeWhile_eq_self_iff.mpr digits).symm
  unfold payloadType strtoul
  rw [front]

theorem attrGetRtpmap_value {fmt : List UInt8} (digits : ∀ byte ∈ fmt, isDigit byte = true) (ne_nil : fmt ≠ [])
    (name text : List UInt8) :
    attrGetRtpmap { name, value := fmt ++ space :: text } = encodingOf (skipWs (space :: text)) := by
  have unskipped : skipWs (fmt ++ space :: text) = fmt ++ space :: text := by
    cases fmt with
    | nil => exact absurd rfl ne_nil
    | cons byte fmt =>
      have stays := not_ws_of_isDigit (digits byte List.mem_cons_self)
      unfold skipWs
      rw [List.cons_append, List.dropWhile_cons, stays]
      rfl
  have tokens : ∀ byte ∈ fmt, isTokenChar byte = true := fun byte member => isTokenChar_of_isDigit (digits byte member)
  have front : (fmt ++ space :: text).takeWhile isTokenChar = fmt := by
    rw [List.takeWhile_append_of_pos tokens, List.takeWhile_cons, isTokenChar_space]
    simp
  have back : (fmt ++ space :: text).dropWhile isTokenChar = space :: text := by
    rw [List.dropWhile_append_of_pos tokens, List.dropWhile_cons, isTokenChar_space]
    rfl
  unfold attrGetRtpmap
  simp only [unskipped, front, back, ne_nil, if_false]

theorem isStandard_of_payload {fmt : List UInt8} (positive : 0 < payloadType fmt) : isStandard fmt = true := by
  cases fmt with
  | nil => simp [payloadType, strtoul] at positive
  | cons byte fmt =>
    by_contra other
    have stopped : isDigit byte = false := by simpa [isStandard] using other
    simp [payloadType, strtoul, stopped] at positive

theorem Numeral.isStandard {fmt : List UInt8} (numeral : Numeral fmt) : isStandard fmt = true := by
  cases fmt with
  | nil => exact absurd rfl numeral.ne_nil
  | cons byte fmt => simpa [Pjmedia.isStandard] using numeral.digits byte List.mem_cons_self

end Numerals

section Attributes

def isRtpmap (attr : SdpAttr) : Bool := attr.name == pjStr "rtpmap"

def rtpmaps (attrs : List SdpAttr) : List SdpAttr := attrs.filter isRtpmap

def number (attr : SdpAttr) : Nat := payloadType attr.value

theorem attrMatches_rtpmap (fmt : List UInt8) (attr : SdpAttr) :
    attrMatches "rtpmap" (some fmt) attr = (isRtpmap attr && number attr == payloadType fmt) := rfl

theorem attrFind_rtpmap (attrs : List SdpAttr) (fmt : List UInt8) :
    attrFind attrs "rtpmap" (some fmt) = (rtpmaps attrs).find? fun attr => number attr == payloadType fmt := by
  rw [attrFind, rtpmaps, List.find?_filter]
  congr 1
  funext attr
  rw [attrMatches_rtpmap, Bool.decide_and, Bool.decide_eq_true, Bool.decide_eq_true]

theorem rtpmaps_removeFound (attrs : List SdpAttr) (fmt : List UInt8) :
    rtpmaps (attrRemoveFound attrs "rtpmap" fmt) =
      (rtpmaps attrs).eraseP fun attr => number attr == payloadType fmt := by
  rw [rtpmaps, rtpmaps, List.eraseP_filter, attrRemoveFound]
  congr 2
  funext attr
  rw [attrMatches_rtpmap, Bool.and_comm]

theorem filter_eraseP {Item : Type} {through gone : Item → Bool} (apart : ∀ item, gone item → through item = false)
    (items : List Item) : (items.eraseP gone).filter through = items.filter through := by
  induction items with
  | nil => rfl
  | cons item items ih =>
    cases caught : gone item with
    | true => simp [caught, apart item caught]
    | false => simp [List.filter_cons, caught, ih]

theorem attrMatches_name {name : String} {fmt : Option (List UInt8)} {attr : SdpAttr}
    (held : attrMatches name fmt attr = true) : attr.name = pjStr name := by
  simp only [attrMatches, Bool.and_eq_true, beq_iff_eq] at held
  exact held.1

theorem rtpmaps_removeFmtp (attrs : List SdpAttr) (fmt : List UInt8) :
    rtpmaps (attrRemoveFound attrs "fmtp" fmt) = rtpmaps attrs := by
  apply filter_eraseP
  intro attr held
  simp only [isRtpmap, attrMatches_name held]
  decide

theorem rtpmaps_removeFormat {attrs : List SdpAttr} (once : Keyed.Distinct number (rtpmaps attrs)) (fmt : List UInt8) :
    rtpmaps (removeFormatAttrs attrs fmt) = (rtpmaps attrs).filter fun attr => number attr != payloadType fmt := by
  rw [removeFormatAttrs, rtpmaps_removeFmtp, rtpmaps_removeFound, Keyed.erase_eq_filter once]

theorem rtpmaps_removeFormats {attrs : List SdpAttr} (once : Keyed.Distinct number (rtpmaps attrs))
    (gone : List (List UInt8)) :
    rtpmaps (gone.foldl removeFormatAttrs attrs) =
      (rtpmaps attrs).filter fun attr => gone.all fun fmt => number attr != payloadType fmt := by
  induction gone generalizing attrs with
  | nil => simp
  | cons fmt gone ih =>
    have rest := rtpmaps_removeFormat once fmt
    have left : Keyed.Distinct number (rtpmaps (removeFormatAttrs attrs fmt)) := by
      rw [rest]
      exact once.sublist List.filter_sublist
    rw [List.foldl_cons, ih left, rest, List.filter_filter]
    congr 1
    funext attr
    rw [List.all_cons, Bool.and_comm]

end Attributes

section Directions

def isDirection (attr : SdpAttr) : Bool :=
  attr.name == pjStr "inactive" || attr.name == pjStr "sendonly" || attr.name == pjStr "recvonly"

def directions (attrs : List SdpAttr) : List SdpAttr := attrs.filter isDirection

/-- The attributes name one direction at most, and there is room for one. -/
structure Directed (attrs : List SdpAttr) : Prop where
  one : ∀ first ∈ directions attrs, ∀ second ∈ directions attrs, first.name = second.name
  fits : attrs.length ≤ maxSdpAttr
  room : directions attrs = [] → attrs.length < maxSdpAttr

theorem attrFind_isSome (attrs : List SdpAttr) (name : String) :
    (attrFind attrs name none).isSome = true ↔ ∃ attr ∈ attrs, attr.name = pjStr name := by
  simp [attrFind, attrMatches, List.find?_isSome]

theorem directions_removeFound (attrs : List SdpAttr) {name : String} (fmt : List UInt8)
    (apart : ∀ attr : SdpAttr, attr.name = pjStr name → isDirection attr = false) :
    directions (attrRemoveFound attrs name fmt) = directions attrs :=
  filter_eraseP (fun attr held => apart attr (attrMatches_name held)) attrs

theorem rtpmap_not_direction (attr : SdpAttr) (named : attr.name = pjStr "rtpmap") : isDirection attr = false := by
  simp only [isDirection, named]
  decide

theorem fmtp_not_direction (attr : SdpAttr) (named : attr.name = pjStr "fmtp") : isDirection attr = false := by
  simp only [isDirection, named]
  decide

theorem directions_removeFormat (attrs : List SdpAttr) (fmt : List UInt8) :
    directions (removeFormatAttrs attrs fmt) = directions attrs := by
  rw [removeFormatAttrs, directions_removeFound _ fmt fmtp_not_direction,
    directions_removeFound _ fmt rtpmap_not_direction]

theorem directions_removeFormats (gone : List (List UInt8)) (attrs : List SdpAttr) :
    directions (gone.foldl removeFormatAttrs attrs) = directions attrs := by
  induction gone generalizing attrs with
  | nil => rfl
  | cons fmt gone ih => exact (ih _).trans (directions_removeFormat attrs fmt)

theorem length_removeFormat (attrs : List SdpAttr) (fmt : List UInt8) :
    (removeFormatAttrs attrs fmt).length ≤ attrs.length :=
  ((List.eraseP_sublist).trans List.eraseP_sublist).length_le

theorem Directed.congr {attrs others : List SdpAttr} (directed : Directed attrs)
    (same : directions others = directions attrs) (fewer : others.length ≤ attrs.length) : Directed others where
  one := by
    rw [same]
    exact directed.one
  fits := fewer.trans directed.fits
  room none := by
    rw [same] at none
    exact lt_of_le_of_lt fewer (directed.room none)

theorem Directed.removeFormats {attrs : List SdpAttr} (directed : Directed attrs) (gone : List (List UInt8)) :
    Directed (gone.foldl removeFormatAttrs attrs) := by
  induction gone generalizing attrs with
  | nil => exact directed
  | cons fmt gone ih =>
    exact ih (directed.congr (directions_removeFormat attrs fmt) (length_removeFormat attrs fmt))

def SdpDir.mirror : SdpDir → SdpDir
  | .encoding => .decoding
  | .decoding => .encoding
  | dir => dir

def SdpDir.meet : SdpDir → SdpDir → SdpDir
  | .encodingDecoding, dir => dir
  | dir, .encodingDecoding => dir
  | .encoding, .encoding => .encoding
  | .decoding, .decoding => .decoding
  | _, _ => .none

/-- The two ends of a line arrive at directions that are each other's mirror image. -/
theorem SdpDir.meet_mirror (offered capable : SdpDir) :
    offered.meet (capable.meet offered.mirror).mirror = (capable.meet offered.mirror).mirror := by
  cases offered <;> cases capable <;> rfl

def hasAttr (attrs : List SdpAttr) (name : String) : Bool := (attrFind attrs name none).isSome

theorem Directed.exclusive {attrs : List SdpAttr} (directed : Directed attrs) {first second : String}
    (apart : pjStr first ≠ pjStr second)
    (left : ∀ attr : SdpAttr, attr.name = pjStr first → isDirection attr = true)
    (right : ∀ attr : SdpAttr, attr.name = pjStr second → isDirection attr = true)
    (held : hasAttr attrs first = true) : hasAttr attrs second = false := by
  by_contra also
  rw [Bool.not_eq_false] at also
  obtain ⟨one, inside, named⟩ := (attrFind_isSome attrs first).mp held
  obtain ⟨other, alsoInside, alsoNamed⟩ := (attrFind_isSome attrs second).mp also
  have same := directed.one one (List.mem_filter.mpr ⟨inside, left one named⟩) other
    (List.mem_filter.mpr ⟨alsoInside, right other alsoNamed⟩)
  exact apart (named.symm.trans (same.trans alsoNamed))

theorem inactive_isDirection (attr : SdpAttr) (named : attr.name = pjStr "inactive") : isDirection attr = true := by
  simp [isDirection, named]

theorem sendonly_isDirection (attr : SdpAttr) (named : attr.name = pjStr "sendonly") : isDirection attr = true := by
  simp [isDirection, named]

theorem recvonly_isDirection (attr : SdpAttr) (named : attr.name = pjStr "recvonly") : isDirection attr = true := by
  simp [isDirection, named]

theorem adjustedDir_eq {remote : SdpMedia} (directed : Directed remote.attr) (oldDir : SdpDir) :
    adjustedDir remote oldDir = oldDir.meet (localDir remote).mirror := by
  have sending := directed.exclusive (by decide) sendonly_isDirection inactive_isDirection
  have receiving := directed.exclusive (by decide) recvonly_isDirection inactive_isDirection
  have either := directed.exclusive (by decide) sendonly_isDirection recvonly_isDirection
  unfold adjustedDir localDir
  simp only [hasAttr] at sending receiving either
  simp only [SdpMedia.findAttr2]
  by_cases sends : (attrFind remote.attr "sendonly" none).isSome = true
  · simp only [sends, sending sends, if_true]
    cases oldDir <;> rfl
  · by_cases receives : (attrFind remote.attr "recvonly" none).isSome = true
    · simp only [sends, receives, receiving receives, if_true]
      cases oldDir <;> rfl
    · by_cases inactive : (attrFind remote.attr "inactive" none).isSome = true
      · simp only [sends, receives, inactive, if_true]
        cases oldDir <;> rfl
      · simp only [sends, receives, inactive]
        cases oldDir <;> rfl

theorem removed_not_direction {attrs : List SdpAttr} {attr : SdpAttr}
    (member : attr ∈ removeAllMediaDirections attrs) : isDirection attr = false := by
  simp only [removeAllMediaDirections, attrRemoveAll, List.mem_filter, bne_iff_ne, ne_eq] at member
  simp [isDirection, member.1.1.1.2, member.1.2, member.2]

theorem rtpmaps_removeAllMediaDirections (attrs : List SdpAttr) :
    rtpmaps (removeAllMediaDirections attrs) = rtpmaps attrs := by
  simp only [rtpmaps, removeAllMediaDirections, attrRemoveAll, List.filter_filter]
  apply List.filter_congr
  intro attr _
  by_cases named : attr.name = pjStr "rtpmap"
  · simp only [isRtpmap, named]
    decide
  · simp [isRtpmap, named]

theorem removed_sublist (attrs : List SdpAttr) :
    (removeAllMediaDirections attrs).Sublist (attrs.filter fun attr => !isDirection attr) := by
  have filtered : removeAllMediaDirections attrs =
      (removeAllMediaDirections attrs).filter fun attr => !isDirection attr := by
    symm
    apply List.filter_eq_self.mpr
    intro attr member
    simp [removed_not_direction member]
  rw [filtered]
  apply List.Sublist.filter
  exact List.filter_sublist.trans (List.filter_sublist.trans (List.filter_sublist.trans List.filter_sublist))

theorem Directed.removed_room {attrs : List SdpAttr} (directed : Directed attrs) :
    (removeAllMediaDirections attrs).length < maxSdpAttr := by
  have fewer := (removed_sublist attrs).length_le
  have parts := List.length_eq_length_filter_add (l := attrs) isDirection
  by_cases none : directions attrs = []
  · have room := directed.room none
    omega
  · have some : 0 < (directions attrs).length := List.length_pos_of_ne_nil none
    have fits := directed.fits
    unfold directions at some
    omega

theorem updateMediaDirection_attr {localMed : SdpMedia} (directed : Directed localMed.attr) (remote : SdpMedia) :
    adjustedDir remote (localDir localMed) = localDir localMed ∧ updateMediaDirection remote localMed = localMed ∨
      ∃ attr, dirAttr (adjustedDir remote (localDir localMed)) = some attr ∧
        updateMediaDirection remote localMed =
          { localMed with attr := removeAllMediaDirections localMed.attr ++ [attr] } := by
  by_cases same : adjustedDir remote (localDir localMed) = localDir localMed
  · left
    exact ⟨same, by simp [updateMediaDirection, same]⟩
  · right
    have named : adjustedDir remote (localDir localMed) ≠ .encodingDecoding := by
      intro both
      apply same
      rw [both]
      unfold adjustedDir at both
      revert both
      cases localDir localMed <;> (repeat' split) <;> simp
    cases found : dirAttr (adjustedDir remote (localDir localMed)) with
    | none =>
      cases dir : adjustedDir remote (localDir localMed) <;> simp [dir, dirAttr] at found named
    | some attr =>
      refine ⟨attr, rfl, ?_⟩
      simp [updateMediaDirection, same, found, attrAdd, directed.removed_room]

theorem dirAttr_spec {dir : SdpDir} {attr : SdpAttr} (named : dirAttr dir = some attr) :
    isDirection attr = true ∧ isRtpmap attr = false := by
  cases dir <;> cases named <;> decide

theorem localDir_appended {attrs : List SdpAttr} {dir : SdpDir} {attr : SdpAttr} (named : dirAttr dir = some attr)
    (m : SdpMedia) : localDir { m with attr := removeAllMediaDirections attrs ++ [attr] } = dir := by
  have gone : ∀ name, (∀ attr : SdpAttr, attr.name = pjStr name → isDirection attr = true) →
      ((attrFind (removeAllMediaDirections attrs ++ [attr]) name none).isSome = decide (attr.name = pjStr name)) := by
    intro name direction
    rw [Bool.eq_iff_iff, attrFind_isSome, decide_eq_true_iff]
    constructor
    · rintro ⟨other, member, same⟩
      rcases List.mem_append.mp member with inside | last
      · have not := removed_not_direction inside
        rw [direction other same] at not
        cases not
      · rw [← List.mem_singleton.mp last]
        exact same
    · intro same
      exact ⟨attr, by simp, same⟩
  unfold localDir
  simp only [SdpMedia.findAttr2, gone _ sendonly_isDirection, gone _ recvonly_isDirection, gone _ inactive_isDirection]
  cases dir <;> cases named <;> decide

theorem localDir_update {localMed : SdpMedia} (directed : Directed localMed.attr) (remote : SdpMedia) :
    localDir (updateMediaDirection remote localMed) = adjustedDir remote (localDir localMed) := by
  rcases updateMediaDirection_attr directed remote with ⟨same, unchanged⟩ | ⟨attr, named, changed⟩
  · rw [unchanged, same]
  · rw [changed]
    exact localDir_appended named localMed

theorem Directed.update {localMed : SdpMedia} (directed : Directed localMed.attr) (remote : SdpMedia) :
    Directed (updateMediaDirection remote localMed).attr := by
  rcases updateMediaDirection_attr directed remote with ⟨-, unchanged⟩ | ⟨attr, named, changed⟩
  · rw [unchanged]
    exact directed
  · have direction := (dirAttr_spec named).1
    have only : ∀ other ∈ directions (removeAllMediaDirections localMed.attr ++ [attr]), other = attr := by
      intro other member
      obtain ⟨inside, direction⟩ := List.mem_filter.mp member
      rcases List.mem_append.mp inside with removed | last
      · rw [removed_not_direction removed] at direction
        cases direction
      · exact List.mem_singleton.mp last
    rw [changed]
    constructor
    · intro first left second right
      rw [only first left, only second right]
    · have room := directed.removed_room
      simp only [List.length_append, List.length_singleton]
      omega
    · intro none
      have held : attr ∈ directions (removeAllMediaDirections localMed.attr ++ [attr]) := by
        apply List.mem_filter.mpr
        exact ⟨by simp, direction⟩
      rw [none] at held
      cases held

theorem attrFind_directions {attrs others : List SdpAttr} (same : directions attrs = directions others) {name : String}
    (direction : ∀ attr : SdpAttr, attr.name = pjStr name → isDirection attr = true) :
    (attrFind attrs name none).isSome = (attrFind others name none).isSome := by
  have known : ∀ list : List SdpAttr,
      (attrFind list name none).isSome = true ↔ ∃ attr ∈ directions list, attr.name = pjStr name := by
    intro list
    rw [attrFind_isSome]
    constructor
    · rintro ⟨attr, member, named⟩
      exact ⟨attr, List.mem_filter.mpr ⟨member, direction attr named⟩, named⟩
    · rintro ⟨attr, member, named⟩
      exact ⟨attr, (List.mem_filter.mp member).1, named⟩
  rw [Bool.eq_iff_iff, known, known, same]

theorem localDir_congr {m other : SdpMedia} (same : directions m.attr = directions other.attr) :
    localDir m = localDir other := by
  unfold localDir SdpMedia.findAttr2
  rw [attrFind_directions same sendonly_isDirection, attrFind_directions same recvonly_isDirection,
    attrFind_directions same inactive_isDirection]

theorem updateMediaDirection_line (remote localMed : SdpMedia) :
    (updateMediaDirection remote localMed).media = localMed.media ∧
      (updateMediaDirection remote localMed).port = localMed.port ∧
      (updateMediaDirection remote localMed).transport = localMed.transport ∧
      (updateMediaDirection remote localMed).fmt = localMed.fmt := by
  unfold updateMediaDirection
  dsimp only
  split <;> exact ⟨rfl, rfl, rfl, rfl⟩

theorem rtpmaps_update (remote localMed : SdpMedia) :
    rtpmaps (updateMediaDirection remote localMed).attr = rtpmaps localMed.attr := by
  unfold updateMediaDirection
  dsimp only
  split
  · cases named : dirAttr (adjustedDir remote (localDir localMed)) with
    | none => exact rtpmaps_removeAllMediaDirections _
    | some attr =>
      have added : rtpmaps (attrAdd (removeAllMediaDirections localMed.attr) attr) =
          rtpmaps (removeAllMediaDirections localMed.attr) := by
        unfold attrAdd
        split
        · simp [rtpmaps, List.filter_append, (dirAttr_spec named).2]
        · rfl
      exact added.trans (rtpmaps_removeAllMediaDirections _)
  · rfl

end Directions

end TiSIP.Pjmedia
