import TiSIP.Pjsip.UriTrips

namespace TiSIP.Pjsip

open Pjlib Printer
open Pjsua (asciiLower)
open BytewiseDecoder (utf8 upToNul)

inductive UriCmpStatus
  | success
  | ecmpScheme
  | ecmpUser
  | ecmpPasswd
  | ecmpHost
  | ecmpPort
  | ecmpTransportPrm
  | ecmpTtlParam
  | ecmpUserParam
  | ecmpMethodParam
  | ecmpMaddrParam
  | ecmpOtherParam
  | ecmpHeaderParam
  deriving DecidableEq

section Compare

/-- `pj_stricmp(left, right) == 0`: the comparison of the bytes ends at a terminator among them. -/
def stricmp (left right : List UInt8) : Bool :=
  left.length == right.length && upToNul (left.map asciiLower) == upToNul (right.map asciiLower)

def paramFind (params : List SipParam) (name : List UInt8) : Option SipParam :=
  params.find? fun p => stricmp p.name name

def paramCmp (params1 params2 : List SipParam) (igNf : Bool) : Bool :=
  (igNf || params1.length == params2.length) && params1.all fun p1 =>
    match paramFind params2 p1.name with
    | some p2 => stricmp p1.value p2.value
    | none => igNf

def headerCmp (headers1 headers2 : List SipParam) : Bool :=
  headers1.all fun p1 =>
    match paramFind headers2 p1.name with
    | some p2 => stricmp p1.value p2.value
    | none => false

def firstDifference : List (Bool × UriCmpStatus) → UriCmpStatus
  | [] => .success
  | (same, status) :: rest => if same then firstDifference rest else status

def urlComparisons (context : UriContext) (url1 url2 : SipUri) : List (Bool × UriCmpStatus) :=
  [(url1.sips == url2.sips, .ecmpScheme),
    (url1.user == url2.user, .ecmpUser),
    (url1.passwd == url2.passwd, .ecmpPasswd),
    (stricmp url1.host url2.host, .ecmpHost),
    (context == .inFromToHdr || url1.port == url2.port, .ecmpPort),
    (context == .inFromToHdr || stricmp url1.transportParam url2.transportParam, .ecmpTransportPrm),
    (context == .inFromToHdr || context == .inRoutingHdr || url1.ttlParam == url2.ttlParam, .ecmpTtlParam),
    (stricmp url1.userParam url2.userParam, .ecmpUserParam),
    (context != .inOther || stricmp url1.methodParam url2.methodParam, .ecmpMethodParam),
    (context == .inFromToHdr || stricmp url1.maddrParam url2.maddrParam, .ecmpMaddrParam),
    (paramCmp url1.otherParam url2.otherParam true, .ecmpOtherParam),
    (headerCmp url1.headerParam url2.headerParam, .ecmpHeaderParam)]

def urlCompare (context : UriContext) (url1 url2 : SipUri) : UriCmpStatus :=
  firstDifference (urlComparisons context url1 url2)

end Compare

section Names

theorem stricmp_refl (text : List UInt8) : stricmp text text = true := by
  simp [stricmp]

theorem stricmp_symm {left right : List UInt8} (same : stricmp left right = true) : stricmp right left = true := by
  simp only [stricmp, Bool.and_eq_true, beq_iff_eq] at same ⊢
  exact ⟨same.1.symm, same.2.symm⟩

theorem stricmp_trans {first second third : List UInt8} (left : stricmp first second = true)
    (right : stricmp second third = true) : stricmp first third = true := by
  simp only [stricmp, Bool.and_eq_true, beq_iff_eq] at left right ⊢
  exact ⟨left.1.trans right.1, left.2.trans right.2⟩

def DistinctNames (params : List SipParam) : Prop := params.Pairwise fun p q => ¬ stricmp p.name q.name = true

instance (params : List SipParam) : Decidable (DistinctNames params) :=
  inferInstanceAs (Decidable (params.Pairwise fun p q => ¬ stricmp p.name q.name = true))

variable {params params1 params2 : List SipParam} {p q : SipParam}

theorem DistinctNames.eq (distinct : DistinctNames params) (first : p ∈ params) (second : q ∈ params)
    (same : stricmp p.name q.name = true) : p = q := by
  induction params with
  | nil => cases first
  | cons param params ih =>
    obtain ⟨apart, rest⟩ := List.pairwise_cons.mp distinct
    rcases List.mem_cons.mp first with rfl | inRest <;> rcases List.mem_cons.mp second with rfl | alsoInRest
    · rfl
    · exact absurd same (apart q alsoInRest)
    · exact absurd (stricmp_symm same) (apart p inRest)
    · exact ih rest inRest alsoInRest

theorem paramFind_eq_some_iff (distinct : DistinctNames params) {name : List UInt8} :
    paramFind params name = some q ↔ q ∈ params ∧ stricmp q.name name = true := by
  constructor
  · intro found
    exact ⟨List.mem_of_find?_eq_some found, List.find?_some (p := fun p : SipParam => stricmp p.name name) found⟩
  · intro ⟨member, same⟩
    cases found : paramFind params name with
    | none => exact absurd same (List.find?_eq_none.mp found q member)
    | some other =>
      have named : stricmp other.name name = true :=
        List.find?_some (p := fun p : SipParam => stricmp p.name name) found
      have equal := stricmp_trans named (stricmp_symm same)
      exact congrArg some (distinct.eq (List.mem_of_find?_eq_some found) member equal)

theorem paramCmp_iff (distinct : DistinctNames params2) :
    paramCmp params1 params2 true = true ↔
      ∀ p ∈ params1, ∀ q ∈ params2, stricmp q.name p.name = true → stricmp p.value q.value = true := by
  simp only [paramCmp, Bool.true_or, Bool.true_and, List.all_eq_true]
  refine forall₂_congr fun p _ => ?_
  cases found : paramFind params2 p.name with
  | none =>
    have missing := List.find?_eq_none.mp found
    exact iff_of_true rfl fun q member same => absurd same (missing q member)
  | some other =>
    obtain ⟨member, named⟩ := (paramFind_eq_some_iff distinct).mp found
    constructor
    · intro values q held same
      rw [← distinct.eq member held (stricmp_trans named (stricmp_symm same))]
      exact values
    · intro values
      exact values other member named

theorem headerCmp_iff (distinct : DistinctNames params2) :
    headerCmp params1 params2 = true ↔
      ∀ p ∈ params1, ∃ q ∈ params2, stricmp q.name p.name = true ∧ stricmp p.value q.value = true := by
  simp only [headerCmp, List.all_eq_true]
  refine forall₂_congr fun p _ => ?_
  cases found : paramFind params2 p.name with
  | none =>
    have missing := List.find?_eq_none.mp found
    refine iff_of_false Bool.false_ne_true ?_
    intro ⟨q, member, same, _⟩
    exact missing q member same
  | some other =>
    obtain ⟨member, named⟩ := (paramFind_eq_some_iff distinct).mp found
    constructor
    · intro values
      exact ⟨other, member, named, values⟩
    · intro ⟨q, held, same, values⟩
      rw [distinct.eq member held (stricmp_trans named (stricmp_symm same))]
      exact values

theorem paramCmp_comm (distinct1 : DistinctNames params1) (distinct2 : DistinctNames params2)
    (match1 : paramCmp params1 params2 true = true) : paramCmp params2 params1 true = true := by
  rw [paramCmp_iff distinct1]
  rw [paramCmp_iff distinct2] at match1
  intro q held p member same
  exact stricmp_symm (match1 p member q held (stricmp_symm same))

theorem paramCmp_self (distinct : DistinctNames params) : paramCmp params params true = true := by
  rw [paramCmp_iff distinct]
  intro p member q held same
  rw [distinct.eq held member same]
  exact stricmp_refl _

theorem headerCmp_self (distinct : DistinctNames params) : headerCmp params params = true := by
  rw [headerCmp_iff distinct]
  intro p member
  exact ⟨p, member, stricmp_refl _, stricmp_refl _⟩

end Names

section Match

variable {context : UriContext} {url url1 url2 : SipUri}

structure UrlsMatch (context : UriContext) (url1 url2 : SipUri) : Prop where
  sips : url1.sips = url2.sips
  user : url1.user = url2.user
  passwd : url1.passwd = url2.passwd
  host : stricmp url1.host url2.host = true
  port : context ≠ .inFromToHdr → url1.port = url2.port
  transportParam : context ≠ .inFromToHdr → stricmp url1.transportParam url2.transportParam = true
  ttlParam : context ≠ .inFromToHdr → context ≠ .inRoutingHdr → url1.ttlParam = url2.ttlParam
  userParam : stricmp url1.userParam url2.userParam = true
  methodParam : context = .inOther → stricmp url1.methodParam url2.methodParam = true
  maddrParam : context ≠ .inFromToHdr → stricmp url1.maddrParam url2.maddrParam = true
  otherParam : paramCmp url1.otherParam url2.otherParam true = true
  headerParam : headerCmp url1.headerParam url2.headerParam = true

theorem firstDifference_iff {comparisons : List (Bool × UriCmpStatus)}
    (fails : ∀ comparison ∈ comparisons, comparison.2 ≠ .success) :
    firstDifference comparisons = .success ↔ ∀ comparison ∈ comparisons, comparison.1 = true := by
  induction comparisons with
  | nil => simp [firstDifference]
  | cons comparison rest ih =>
    obtain ⟨same, status⟩ := comparison
    rw [List.forall_mem_cons] at fails ⊢
    cases same with
    | true => simpa [firstDifference] using ih fails.2
    | false => simpa [firstDifference] using fails.1

theorem urlCompare_iff : urlCompare context url1 url2 = .success ↔ UrlsMatch context url1 url2 := by
  rw [urlCompare, firstDifference_iff (by simp [urlComparisons])]
  constructor
  · intro same
    simp only [urlComparisons, List.forall_mem_cons, Bool.or_eq_true, beq_iff_eq, bne_iff_ne] at same
    obtain ⟨sips, user, passwd, host, port, transport, ttl, userParam, method, maddr, other, header, -⟩ := same
    exact ⟨sips, user, passwd, host, fun given => port.resolve_left given,
      fun given => transport.resolve_left given, fun given routing => ttl.resolve_left fun either =>
        either.elim given routing, userParam, fun given => method.resolve_left fun differs => differs given,
      fun given => maddr.resolve_left given, other, header⟩
  · intro ⟨sips, user, passwd, host, port, transport, ttl, userParam, method, maddr, other, header⟩
    simp only [urlComparisons, List.forall_mem_cons, Bool.or_eq_true, beq_iff_eq, bne_iff_ne]
    exact ⟨sips, user, passwd, host, or_iff_not_imp_left.mpr port, or_iff_not_imp_left.mpr transport,
      or_iff_not_imp_left.mpr fun neither => ttl (fun given => neither (.inl given)) fun given => neither (.inr given),
      userParam, or_iff_not_imp_left.mpr fun given => method (not_not.mp given), or_iff_not_imp_left.mpr maddr, other,
      header, List.forall_mem_nil _⟩

structure SipUri.DistinctParams (url : SipUri) : Prop where
  otherParam : DistinctNames url.otherParam
  headerParam : DistinctNames url.headerParam

theorem UrlsMatch.exchanged_iff (distinct1 : url1.DistinctParams) (distinct2 : url2.DistinctParams)
    (match1 : UrlsMatch context url1 url2) :
    UrlsMatch context url2 url1 ↔ ∀ q ∈ url2.headerParam, ∃ p ∈ url1.headerParam, stricmp p.name q.name = true := by
  have forward := (headerCmp_iff distinct2.headerParam).mp match1.headerParam
  constructor
  · intro back q member
    obtain ⟨p, held, same, _⟩ := (headerCmp_iff distinct1.headerParam).mp back.headerParam q member
    exact ⟨p, held, same⟩
  · intro named
    have headers : headerCmp url2.headerParam url1.headerParam = true := by
      rw [headerCmp_iff distinct1.headerParam]
      intro q member
      obtain ⟨p, held, same⟩ := named q member
      -- What was found for it in the second URL can only be the header we started from.
      obtain ⟨found, foundHeld, foundSame, values⟩ := forward p held
      have equal := distinct2.headerParam.eq foundHeld member (stricmp_trans foundSame same)
      rw [equal] at values
      exact ⟨p, held, same, stricmp_symm values⟩
    exact {
      sips := match1.sips.symm
      user := match1.user.symm
      passwd := match1.passwd.symm
      host := stricmp_symm match1.host
      port := fun given => (match1.port given).symm
      transportParam := fun given => stricmp_symm (match1.transportParam given)
      ttlParam := fun given routing => (match1.ttlParam given routing).symm
      userParam := stricmp_symm match1.userParam
      methodParam := fun given => stricmp_symm (match1.methodParam given)
      maddrParam := fun given => stricmp_symm (match1.maddrParam given)
      otherParam := paramCmp_comm distinct1.otherParam distinct2.otherParam match1.otherParam
      headerParam := headers }

/-- The comparison goes the other way exactly when the second URL has no header that the first does not name: the
    headers of the second URL are not looked for in the first. -/
theorem urlCompare_comm_iff (distinct1 : url1.DistinctParams) (distinct2 : url2.DistinctParams)
    (match1 : urlCompare context url1 url2 = .success) :
    urlCompare context url2 url1 = .success ↔
      ∀ q ∈ url2.headerParam, ∃ p ∈ url1.headerParam, stricmp p.name q.name = true := by
  rw [urlCompare_iff] at match1 ⊢
  exact match1.exchanged_iff distinct1 distinct2

def subjectOnly : SipUri :=
  { sipUriCreate false with
    user := utf8 "alice".toList
    host := utf8 "example.com".toList
    headerParam := [{ name := utf8 "subject".toList, value := utf8 "lunch".toList }] }

def subjectAndPriority : SipUri :=
  { subjectOnly with
    host := utf8 "EXAMPLE.com".toList
    headerParam :=
      [{ name := utf8 "priority".toList, value := utf8 "urgent".toList },
        { name := utf8 "Subject".toList, value := utf8 "Lunch".toList }] }

theorem priority_not_looked_for :
    urlCompare .inOther subjectOnly subjectAndPriority = .success ∧
      urlCompare .inOther subjectAndPriority subjectOnly ≠ .success := by
  have distinct1 : subjectOnly.DistinctParams := ⟨by decide, by decide⟩
  have distinct2 : subjectAndPriority.DistinctParams := ⟨by decide, by decide +kernel⟩
  have match1 : urlCompare .inOther subjectOnly subjectAndPriority = .success := by decide +kernel
  refine ⟨match1, fun back => ?_⟩
  have named := (urlCompare_comm_iff distinct1 distinct2 match1).mp back
  revert named
  decide +kernel

end Match

section Trip

variable {cfg : UriPrintCfg} {context : UriContext} {url : SipUri}

def HeadersAllowed (context : UriContext) : Prop := context = .inContactHdr ∨ context = .inOther

instance (context : UriContext) : Decidable (HeadersAllowed context) := inferInstanceAs (Decidable (_ ∨ _))

theorem map_read_settled {params : List SipParam} (settled : ∀ param ∈ params, param.read = param) :
    params.map SipParam.read = params := (map_read_iff params).mpr settled

theorem arrives_headers (settled : url.Settled) :
    (url.arrives cfg context).headerParam = if HeadersAllowed context then url.headerParam else [] := by
  unfold SipUri.arrives HeadersAllowed
  dsimp only
  rw [map_read_settled settled.headerParam]
  rfl

theorem arrives_port (allowed : context ≠ .inFromToHdr) : (url.arrives cfg context).port = url.port := by
  change (if PrintsPort cfg context url then url.port else 0) = url.port
  by_cases zero : url.port = 0
  · rw [zero, ite_self]
  · rw [if_pos ⟨zero, .inl allowed⟩]

theorem arrives_ttl (settled : url.Settled) (allowed : context ≠ .inFromToHdr) (notRouting : context ≠ .inRoutingHdr) :
    (url.arrives cfg context).ttlParam = url.ttlParam := by
  change (if PrintsTtl context url then url.ttlParam else -1) = url.ttlParam
  have bound := settled.ttlParam
  by_cases given : 0 ≤ url.ttlParam
  · rw [if_pos ⟨given, allowed, notRouting⟩]
  · rw [if_neg fun printed => given printed.1]
    omega

theorem arrives_passwd (settled : url.Settled) : (url.arrives cfg context).passwd = url.passwd := by
  change (if url.user ≠ [] then strUnescape url.passwd else []) = url.passwd
  by_cases anonymous : url.user = []
  · rw [if_neg (not_not.mpr anonymous), settled.passwd anonymous]
  · rw [if_pos anonymous, settled.texts url.passwd (by simp)]

theorem arrives_matches (settled : url.Settled) (distinct : url.DistinctParams) :
    UrlsMatch context (url.arrives cfg context) url where
  sips := rfl
  user := settled.texts url.user (by simp)
  passwd := arrives_passwd settled
  host := stricmp_refl _
  port := arrives_port
  transportParam := fun allowed => by
    change stricmp (if context ≠ .inFromToHdr then strUnescape url.transportParam else []) url.transportParam = true
    rw [if_pos allowed, settled.texts url.transportParam (by simp)]
    exact stricmp_refl _
  ttlParam := arrives_ttl settled
  userParam := by
    change stricmp (strUnescape url.userParam) url.userParam = true
    rw [settled.texts url.userParam (by simp)]
    exact stricmp_refl _
  methodParam := fun allowed => by
    change stricmp (if context = .inOther then strUnescape url.methodParam else []) url.methodParam = true
    rw [if_pos allowed, settled.texts url.methodParam (by simp)]
    exact stricmp_refl _
  maddrParam := fun allowed => by
    change stricmp (if context ≠ .inFromToHdr then strUnescape (bracketed url.maddrParam) else []) url.maddrParam = true
    rw [if_pos allowed, settled.maddrParam, settled.texts url.maddrParam (by simp)]
    exact stricmp_refl _
  otherParam := by
    change paramCmp (url.otherParam.map SipParam.read) url.otherParam true = true
    rw [map_read_settled settled.otherParam]
    exact paramCmp_self distinct.otherParam
  headerParam := by
    rw [arrives_headers settled]
    by_cases allowed : HeadersAllowed context
    · rw [if_pos allowed]
      exact headerCmp_self distinct.headerParam
    · rw [if_neg allowed]
      rfl

theorem arrives_distinct (settled : url.Settled) (distinct : url.DistinctParams) :
    (url.arrives cfg context).DistinctParams := by
  constructor
  · change DistinctNames (url.otherParam.map SipParam.read)
    rw [map_read_settled settled.otherParam]
    exact distinct.otherParam
  · rw [arrives_headers settled]
    split_ifs with allowed
    · exact distinct.headerParam
    · exact List.Pairwise.nil

theorem headers_arrive_iff (settled : url.Settled) :
    (∀ q ∈ url.headerParam, ∃ p ∈ (url.arrives cfg context).headerParam, stricmp p.name q.name = true) ↔
      HeadersAllowed context ∨ url.headerParam = [] := by
  rw [arrives_headers settled]
  by_cases allowed : HeadersAllowed context
  · rw [if_pos allowed]
    exact iff_of_true (fun q member => ⟨q, member, stricmp_refl _⟩) (.inl allowed)
  · rw [if_neg allowed, or_iff_right allowed, List.eq_nil_iff_forall_not_mem]
    refine forall₂_congr fun q member => ?_
    simp

/-- A URL whose texts read as no escapes compares equal to what its text is read as, in the context in which it
    was printed. The other way the comparison succeeds exactly when the context left out no header. -/
theorem printed_url_compares (printable : url.Printable) (settled : url.Settled) (distinct : url.DistinctParams)
    {option : ParseOption} (params : option.inFromToHdr = false) {size : Nat} {sheet : Sheet UInt8}
    (printed : (urlPrint cfg context url).run (Sheet.blank size) = .ok ((), sheet)) :
    ∃ back, parseUri option sheet.printed = some (asParsed option (.sip back)) ∧
      urlCompare context back url = .success ∧
      (urlCompare context url back = .success ↔ HeadersAllowed context ∨ url.headerParam = []) := by
  have match1 : UrlsMatch context (url.arrives cfg context) url := arrives_matches settled distinct
  refine ⟨url.arrives cfg context, parse_printed printable params printed, urlCompare_iff.mpr match1, ?_⟩
  rw [urlCompare_iff, match1.exchanged_iff (arrives_distinct settled distinct) distinct]
  exact headers_arrive_iff settled

theorem subject_left_out :
    ∃ sheet back,
      (urlPrint defaultUriPrintCfg .inFromToHdr conferenceRoom).run (Sheet.blank 256) = .ok ((), sheet) ∧
      parseUri (callerOption false) sheet.printed = some (.bare (.sip back)) ∧
      urlCompare .inFromToHdr back conferenceRoom = .success ∧
      urlCompare .inFromToHdr conferenceRoom back ≠ .success := by
  have distinct : conferenceRoom.DistinctParams := ⟨by decide, by decide⟩
  have yields : Yields (urlPrint defaultUriPrintCfg .inFromToHdr conferenceRoom) _ 9 :=
    yields_urlPrint conferenceRoom_printable.range
  have printed := yields.enough (Sheet.blank 256) (by decide +kernel)
  obtain ⟨back, parsed, same, otherWay⟩ := printed_url_compares conferenceRoom_printable conferenceRoom_settled
    distinct (show (callerOption false).inFromToHdr = false from rfl) printed
  have excluded : ¬ (HeadersAllowed .inFromToHdr ∨ conferenceRoom.headerParam = []) := by decide
  exact ⟨_, back, printed, parsed, same, fun success => excluded (otherWay.mp success)⟩

end Trip

end TiSIP.Pjsip
