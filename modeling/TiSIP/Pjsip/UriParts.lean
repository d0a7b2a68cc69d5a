import TiSIP.Pjsip.AppendedUri
import TiSIP.Pjsip.UriText

namespace TiSIP.Pjsip

open Pjlib Scanner

section Rest

/-- The host, port, parameters and headers are read alike whatever the user part was. -/
def SipUri.withUser (userPass : List UInt8 × List UInt8) (url : SipUri) : SipUri :=
  { url with user := userPass.1, passwd := userPass.2 }

variable (userPass : List UInt8 × List UInt8)

theorem sipUrlHostPort_withUser (url : SipUri) (input : List UInt8) :
    (sipUrlHostPort (url.withUser userPass)).run input =
      ((sipUrlHostPort url).run input).map fun read => (read.1.withUser userPass, read.2) := by
  rw [sipUrlHostPort, sipUrlHostPort, run_bind, run_bind]
  cases intParseUriHostPort.run input with
  | none => rfl
  | some read => rfl

theorem setParam_withUser (url : SipUri) (param : SipParam) :
    (url.withUser userPass).setParam param = (url.setParam param).withUser userPass := by
  unfold SipUri.setParam
  split_ifs <;> simp only [SipUri.withUser]

theorem sipUrlParam_withUser (url : SipUri) (input : List UInt8) :
    (sipUrlParam (url.withUser userPass)).run input =
      ((sipUrlParam url).run input).map fun read => (read.1.withUser userPass, read.2) := by
  rw [sipUrlParam, sipUrlParam, run_bind, run_bind]
  cases (intParseUriParam false).run input with
  | none => rfl
  | some read =>
    simp only [Option.bind_some, run_pure, Option.map_some, setParam_withUser]

theorem sipUrlParams_withUser (url : SipUri) (input : List UInt8) :
    (sipUrlParams true (url.withUser userPass)).run input =
      ((sipUrlParams true url).run input).map fun read => (read.1.withUser userPass, read.2) :=
  whileNext_map ends_sipUrlParam (sipUrlParam_withUser userPass) url input

theorem sipUrlHeader_withUser (url : SipUri) (input : List UInt8) :
    (sipUrlHeader (url.withUser userPass)).run input =
      ((sipUrlHeader url).run input).map fun read => (read.1.withUser userPass, read.2) := by
  rw [sipUrlHeader, sipUrlHeader, run_bind, run_bind]
  cases intParseHparam.run input with
  | none => rfl
  | some read => rfl

theorem bind_withUser {first same : PjScanner SipUri} {second : SipUri → PjScanner SipUri} {input : List UInt8}
    (before : same.run input = (first.run input).map fun read => (read.1.withUser userPass, read.2))
    (after : ∀ url input, (second (url.withUser userPass)).run input =
      ((second url).run input).map fun read => (read.1.withUser userPass, read.2)) :
    (same >>= second).run input =
      ((first >>= second).run input).map fun read => (read.1.withUser userPass, read.2) := by
  rw [run_bind, run_bind, before]
  cases first.run input with
  | none => rfl
  | some read => exact after read.1 read.2

theorem sipUrlHeaders_withUser (url : SipUri) (input : List UInt8) :
    (sipUrlHeaders true (url.withUser userPass)).run input =
      ((sipUrlHeaders true url).run input).map fun read => (read.1.withUser userPass, read.2) := by
  have headers : ∀ url : SipUri, sipUrlHeaders true url = (do
      if (← Scanner.current) = some question then
        let first ← sipUrlHeader url
        whileNext ampersand sipUrlHeader first
      else pure url) := fun _ => rfl
  rw [headers, headers, run_bind, run_bind, run_current, Option.bind_some, Option.bind_some]
  split
  · apply bind_withUser userPass (sipUrlHeader_withUser userPass url input)
    exact whileNext_map ends_sipUrlHeader (sipUrlHeader_withUser userPass)
  · rfl

theorem sipUrlRest_withUser (url : SipUri) (input : List UInt8) :
    (sipUrlRest true (url.withUser userPass)).run input =
      ((sipUrlRest true url).run input).map fun read => (read.1.withUser userPass, read.2) := by
  rw [sipUrlRest_eq, sipUrlRest_eq]
  apply bind_withUser
  · exact bind_withUser userPass (sipUrlHostPort_withUser userPass url input) (sipUrlParams_withUser userPass)
  · intro url input
    exact bind_withUser userPass (sipUrlHeaders_withUser userPass url input) fun _ _ => rfl

theorem sipUrlRest_user {url next : SipUri} {input rest : List UInt8}
    (reads : (sipUrlRest true url).run input = some (next, rest)) :
    next.user = url.user ∧ next.passwd = url.passwd := by
  have same := sipUrlRest_withUser (url.user, url.passwd) url input
  rw [show url.withUser (url.user, url.passwd) = url from rfl, reads] at same
  have equal : next = next.withUser (url.user, url.passwd) := congrArg Prod.fst (Option.some.inj same)
  rw [equal]
  exact ⟨rfl, rfl⟩

end Rest

section HostPort

theorem setParam_hostPort (url : SipUri) (param : SipParam) :
    (url.setParam param).host = url.host ∧ (url.setParam param).port = url.port := by
  simp only [SipUri.setParam, apply_ite SipUri.host, apply_ite SipUri.port, ite_self, and_self]

theorem sipUrlParam_hostPort {url next : SipUri} {input rest : List UInt8}
    (reads : (sipUrlParam url).run input = some (next, rest)) : (next.host, next.port) = (url.host, url.port) := by
  obtain ⟨param, -, rfl⟩ := run_thenPure_eq_some.mp reads
  rw [(setParam_hostPort url param).1, (setParam_hostPort url param).2]

theorem sipUrlHeader_hostPort {url next : SipUri} {input rest : List UInt8}
    (reads : (sipUrlHeader url).run input = some (next, rest)) : (next.host, next.port) = (url.host, url.port) := by
  obtain ⟨param, -, rfl⟩ := run_thenPure_eq_some.mp reads
  rfl

theorem sipUrlTail_hostPort {url next : SipUri} {input rest : List UInt8}
    (reads : (sipUrlTail url).run input = some (next, rest)) : (next.host, next.port) = (url.host, url.port) := by
  obtain ⟨left, headers, -⟩ := sipUrlTail_reads reads
  rcases sipUrlHeaders_reads headers with ⟨rfl, -⟩ | ⟨first, middle, header, others⟩
  · rfl
  · apply whileNext_invariant (fun next : SipUri => (next.host, next.port) = (url.host, url.port))
      ends_sipUrlHeader _ (sipUrlHeader_hostPort header) others
    intro before text after left held step
    exact (sipUrlHeader_hostPort step).trans held

theorem sipUrlRest_hostPort {url next : SipUri} {input rest : List UInt8}
    (reads : (sipUrlRest true url).run input = some (next, rest)) :
    (intParseUriHostPort.run input).map Prod.fst = some (next.host, next.port) := by
  rw [sipUrlRest_eq] at reads
  obtain ⟨before, left, front, tail⟩ := run_bind_eq_some.mp reads
  obtain ⟨located, middle, hostPort, params⟩ := run_bind_eq_some.mp front
  obtain ⟨read, starts, rfl⟩ := run_thenPure_eq_some.mp hostPort
  have kept : (before.host, before.port) = (read.1, read.2) := by
    apply whileNext_invariant (fun next : SipUri => (next.host, next.port) = (read.1, read.2))
      ends_sipUrlParam _ rfl params
    intro earlier text later rest held step
    exact (sipUrlParam_hostPort step).trans held
  rw [sipUrlTail_hostPort tail, kept, starts]
  rfl

end HostPort

section Scheme

def sipBody : PjScanner SipUri := do
  let url ← sipUrlUser (sipUriCreate false)
  sipUrlRest true url

theorem utf8_sip : BytewiseDecoder.utf8 "sip:".toList = [115, 105, 112, colon] := by decide

theorem takeWhile_sip (spec : UInt8 → Bool) (s : spec 115 = true) (i : spec 105 = true) (p : spec 112 = true)
    (stop : spec colon = false) (text : List UInt8) :
    (BytewiseDecoder.utf8 "sip:".toList ++ text).takeWhile spec = [115, 105, 112] ∧
      (BytewiseDecoder.utf8 "sip:".toList ++ text).dropWhile spec = colon :: text := by
  rw [utf8_sip]
  simp [s, i, p, stop]

theorem sipUrlScheme_sip (text : List UInt8) :
    sipUrlScheme.run (BytewiseDecoder.utf8 "sip:".toList ++ text) = some (sipUriCreate false, text) := by
  have token := takeWhile_sip tokenSpec (by decide) (by decide) (by decide) (by decide) text
  have starts : (BytewiseDecoder.utf8 "sip:".toList ++ text).head?.any tokenSpec = true := by
    rw [utf8_sip]
    exact (by decide : tokenSpec 115 = true)
  have isSip : Pjsua.stricmp [115, 105, 112] "sip" = true := by decide
  have taken : scanGetChar.run (colon :: text) = some (colon, text) := run_item_eq_some.mpr ⟨rfl, by decide⟩
  rw [sipUrlScheme, run_bind, run_many1, if_pos starts, token.1, token.2, Option.bind_some, run_bind, taken,
    Option.bind_some, if_pos rfl, if_pos isSip]
  rfl

theorem intParseSipUrl_sip (text : List UInt8) :
    (intParseSipUrl true).run (BytewiseDecoder.utf8 "sip:".toList ++ text) = sipBody.run text := by
  rw [intParseSipUrl, run_bind, sipUrlScheme_sip]
  rfl

theorem intParseUriOrNameAddr_sip (asNameAddr : Bool) (text : List UInt8) :
    (intParseUriOrNameAddr (callerOption asNameAddr)).run (BytewiseDecoder.utf8 "sip:".toList ++ text) =
      (sipBody.run text).map fun read => (asParsed (callerOption asNameAddr) (.sip read.1), read.2) := by
  have display := takeWhile_sip displaySpec (by decide) (by decide) (by decide) (by decide) text
  have handler : findUriHandler [115, 105, 112] = .sipUrl := by decide
  have peeks : (scanPeek displaySpec).run (BytewiseDecoder.utf8 "sip:".toList ++ text) =
      some (([115, 105, 112], some colon), BytewiseDecoder.utf8 "sip:".toList ++ text) := by
    rw [run_peekMany, display.1, display.2, utf8_sip]
    rfl
  have reads : (unquoted (callerOption asNameAddr)).run (BytewiseDecoder.utf8 "sip:".toList ++ text) =
      (sipBody.run text).map fun read => (asParsed (callerOption asNameAddr) (.sip read.1), read.2) := by
    rw [unquoted, run_bind, peeks, Option.bind_some, if_pos rfl, handler]
    change ((intParseSipUrl true >>= fun url => pure (.sip url)) >>= fun uri => pure (asParsed _ uri)).run _ = _
    rw [run_bind, run_bind, intParseSipUrl_sip]
    cases sipBody.run text with
    | none => rfl
    | some read => rfl
  rw [← reads, utf8_sip]
  rfl

end Scheme

section UserPart

theorem probe_of_userSpecLenient (byte : UInt8) (admitted : userSpecLenient byte = true) :
    probeUserHostSpec byte = true := by
  have stops : BytewiseDecoder.utf8 "@ \n>".toList = [64, 32, 10, 62] := by decide
  by_contra refused
  simp only [probeUserHostSpec, inStr, stops, Bool.and_eq_true, bne_iff_ne, ne_eq, Bool.not_eq_true',
    List.contains_eq_mem, List.mem_cons, List.not_mem_nil, or_false, decide_eq_false_iff_not, not_and_or,
    not_not] at refused
  rcases refused with rfl | rfl | rfl | rfl | rfl
  all_goals exact absurd admitted (by decide)

theorem sipUrlUser_plain {account : List UInt8} (nonempty : account ≠ [])
    (plain : ∀ byte ∈ account, userSpecLenient byte = true) (url : SipUri) (rest : List UInt8) :
    (sipUrlUser url).run (account ++ atSign :: rest) = some (url.withUser (strUnescape account, []), rest) := by
  obtain ⟨first, others, same⟩ := List.exists_cons_of_ne_nil nonempty
  have isUser : intIsNextUser.run (account ++ atSign :: rest) = some (true, account ++ atSign :: rest) := by
    have probed : ∀ byte ∈ account, probeUserHostSpec byte = true :=
      fun byte member => probe_of_userSpecLenient byte (plain byte member)
    have stop : probeUserHostSpec atSign = false := by decide
    have next : ((account ++ atSign :: rest).dropWhile probeUserHostSpec).head? = some atSign := by
      rw [List.dropWhile_append_of_pos probed, List.dropWhile_cons_of_neg (by simp [stop])]
      rfl
    simp [intIsNextUser, run_peekMany, next]
  have token : (scanGet userSpecLenient).run (account ++ atSign :: rest) = some (account, atSign :: rest) := by
    have stop : ¬ userSpecLenient atSign = true := by decide
    have starts : (account ++ atSign :: rest).head?.any userSpecLenient = true := by
      rw [same]
      exact plain first (by simp [same])
    rw [run_many1, if_pos starts, List.takeWhile_append_of_pos plain, List.dropWhile_append_of_pos plain,
      List.takeWhile_cons_of_neg stop, List.dropWhile_cons_of_neg stop, List.append_nil]
  have passwd : intParsePasswd.run (atSign :: rest) = some ([], atSign :: rest) := rfl
  have taken : scanGetChar.run (atSign :: rest) = some (atSign, rest) := run_item_eq_some.mpr ⟨rfl, by decide⟩
  have both : intParseUserPass.run (account ++ atSign :: rest) = some ((strUnescape account, []), rest) := by
    rw [intParseUserPass, run_bind, parserGetAndUnescape, run_bind, token, Option.bind_some, run_pure,
      Option.bind_some, run_bind, passwd, Option.bind_some, run_bind, taken]
    rfl
  rw [sipUrlUser, run_bind, isUser, Option.bind_some, if_pos rfl, run_bind, both]
  rfl

theorem sipUrlUser_user {url next : SipUri} {input rest : List UInt8}
    (reads : (sipUrlUser url).run input = some (next, rest)) :
    next.user = url.user ∨ next.user = strUnescape (input.takeWhile userSpecLenient) := by
  obtain ⟨isUser, left, looks, user⟩ := run_bind_eq_some.mp reads
  cases isUser with
  | false =>
    simp only [Bool.false_eq_true, if_false, run_pure, Option.some.injEq, Prod.mk.injEq] at user
    exact .inl (by rw [← user.1])
  | true =>
    obtain ⟨userPass, both, rfl⟩ := run_thenPure_eq_some.mp user
    obtain ⟨name, after, token, others⟩ := run_bind_eq_some.mp both
    obtain ⟨raw, scanned, rfl⟩ := run_thenPure_eq_some.mp token
    obtain ⟨passwd, last, -, closes⟩ := run_bind_eq_some.mp others
    obtain ⟨mark, -, rfl⟩ := run_thenPure_eq_some.mp closes
    rw [intIsNextUser_rest looks, run_many1] at scanned
    split at scanned
    · exact .inr (congrArg strUnescape (Prod.mk.inj (Option.some.inj scanned)).1).symm
    · cases scanned

end UserPart

end TiSIP.Pjsip
