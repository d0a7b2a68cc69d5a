import TiSIP.Pjsip.AppendedParam

namespace TiSIP.Pjsip

open Pjlib Scanner

section User

variable {more value : List UInt8} (suffix : AppendedTransport more value)

include suffix

theorem steadyOn_intIsNextUser : SteadyOn (fun input => input ≠ []) more intIsNextUser := by
  intro input nonempty
  have next : ((input ++ more).dropWhile probeUserHostSpec).head? = (input.dropWhile probeUserHostSpec).head? := by
    rw [List.dropWhile_append]
    split
    · rename_i whole
      rw [suffix.probed, List.isEmpty_iff.mp whole]
    · rename_i stopped
      cases left : input.dropWhile probeUserHostSpec with
      | nil => simp [left] at stopped
      | cons head tail => simp
  simp [intIsNextUser, run_peekMany, nonempty, next]

omit suffix in
theorem atSign_of_intIsNextUser {input rest : List UInt8} (reads : intIsNextUser.run input = some (true, rest)) :
    atSign ∈ rest := by
  obtain ⟨⟨run, next⟩, peeks, found⟩ := run_thenPure_eq_some.mp reads
  obtain rfl : next = some atSign := eq_of_beq found
  rw [peekMany_rest peeks]
  exact (mem_of_peekMany peeks).1

omit suffix in
theorem intIsNextUser_rest {input rest : List UInt8} {isUser : Bool}
    (reads : intIsNextUser.run input = some (isUser, rest)) : rest = input := by
  obtain ⟨peeked, peeks, -⟩ := run_thenPure_eq_some.mp reads
  exact peekMany_rest peeks

omit suffix in
theorem steadyOn_userToken :
    SteadyOn (fun input => atSign ∈ input) more (parserGetAndUnescape userSpecLenient) := by
  apply SteadyOn.andThen
  · apply (SteadyOn.many1 userSpecLenient).mono
    intro input member
    exact ⟨atSign, member, by decide⟩
  · intro token
    exact Steady.done _

omit suffix in
theorem leaves_userToken : Leaves atSign (parserGetAndUnescape userSpecLenient) :=
  (Leaves.many1 (by decide)).bind fun _ => Leaves.done _

omit suffix in
theorem leaves_intParsePasswd : Leaves atSign intParsePasswd :=
  Leaves.takeNext (by decide) ((Leaves.many1 (by decide)).bind fun _ => Leaves.done _) (Leaves.done _)

theorem steady_intParsePasswd : Steady more intParsePasswd := by
  apply Steady.ifNext (head_ne suffix.head (by decide))
  · apply (steadyOn_scanGetChar ne_nil_of_head).andThen
    intro _
    exact steady_parserGetAndUnescape suffix.head (by decide)
  · exact Steady.done _

theorem steadyOn_intParseUserPass : SteadyOn (fun input => atSign ∈ input) more intParseUserPass := by
  apply SteadyOn.bind (fun _ input => atSign ∈ input) steadyOn_userToken
  · exact leaves_userToken
  · intro user
    apply SteadyOn.bind (fun _ input => atSign ∈ input) (steady_intParsePasswd suffix).on
    · exact leaves_intParsePasswd
    · intro passwd
      apply (steadyOn_scanGetChar fun _ => List.ne_nil_of_mem).andThen
      intro _
      exact Steady.done _

theorem steadyOn_sipUrlUser (url : SipUri) : SteadyOn (fun input => input ≠ []) more (sipUrlUser url) := by
  apply SteadyOn.bind (fun isUser input => isUser = true → atSign ∈ input) (steadyOn_intIsNextUser suffix)
  · intro input isUser rest _ reads same
    rw [same] at reads
    exact atSign_of_intIsNextUser reads
  · intro isUser
    cases isUser with
    | false => exact (Steady.done url).on
    | true =>
      have user := (steadyOn_intParseUserPass suffix).andThen fun userPass =>
        Steady.done { url with user := userPass.1, passwd := userPass.2 }
      exact user.mono fun input found => found rfl

theorem steady_sipUrlScheme : Steady more sipUrlScheme := by
  apply (steady_scanGet suffix.head (by decide)).bind
  intro scheme input _
  cases input with
  | cons byte input =>
    have within : SteadyOn (fun input => input ≠ []) more (do
        let next ← scanGetChar
        if next = colon then
          if Pjsua.stricmp scheme "sip" then pure (sipUriCreate false)
          else if Pjsua.stricmp scheme "sips" then pure (sipUriCreate true)
          else failure
        else failure : PjScanner SipUri) := by
      apply (steadyOn_scanGetChar fun _ nonempty => nonempty).andThen
      intro next
      split
      · split
        · exact Steady.done _
        · split
          · exact Steady.done _
          · exact Steady.fail
      · exact Steady.fail
    exact within (byte :: input) (by simp)
  | nil =>
    obtain ⟨tail, same⟩ := List.head?_eq_some_iff.mp suffix.head
    rw [same]
    rfl

end User

/-- Whether a parameter put after the text, read as the URI with this rest, becomes one of its
    parameters: the text is read to its end, which is neither in a header part nor after white
    space or a closing angle bracket. -/
def OpenEnd (text rest : List UInt8) (url : SipUri) : Prop :=
  rest = [] ∧ url.headerParam = [] ∧ ∀ byte ∈ text.getLast?, SolidByte byte

def SipUri.withTransport (value : List UInt8) (url : SipUri) : SipUri := { url with transportParam := value }

def Uri.withTransport (value : List UInt8) : Uri → Uri
  | .sip url => .sip (url.withTransport value)
  | uri => uri

def Uri.sipUri? : Uri → Option SipUri
  | .sip url => some url
  | _ => none

def NameAddr.withTransport (value : List UInt8) (address : NameAddr) : NameAddr :=
  { address with uri := address.uri.withTransport value }

def ParsedUri.withTransport (value : List UInt8) : ParsedUri → ParsedUri
  | .bare uri => .bare (uri.withTransport value)
  | .named address => .named (address.withTransport value)

def NameAddr.sipUri? (address : NameAddr) : Option SipUri := address.uri.sipUri?

def ParsedUri.sipUri? (parsed : ParsedUri) : Option SipUri := parsed.getUri.sipUri?

section Appends

variable {α β : Type}

structure Appends (more : List UInt8) (sipUri? : α → Option SipUri) (withTransport : α → α)
    (scanner : PjScanner α) : Prop where
  joined : ∀ text result rest url, scanner.run text = some (result, rest) → sipUri? result = some url →
    OpenEnd text rest url → scanner.run (text ++ more) = some (withTransport result, [])
  apart : ∀ text result rest url, scanner.run text = some (result, rest) → sipUri? result = some url →
    ¬ OpenEnd text rest url → scanner.run (text ++ more) = some (result, rest ++ more)

variable {more value : List UInt8} {sipUri? : α → Option SipUri} {withTransport : α → α}

theorem getLast?_of_suffix {taken text : List UInt8} (nonempty : text ≠ []) :
    (taken ++ text).getLast? = text.getLast? := by
  obtain ⟨before, last, rfl⟩ := (List.eq_nil_or_concat text).resolve_left nonempty
  simp [← List.append_assoc]

theorem Appends.after {meant : List UInt8 → Prop} (Produced : β → Prop) {first : PjScanner β}
    {second : β → PjScanner α} (before : SteadyOn meant more first) (takes : MayEnd (fun _ => True) first)
    (produces : ∀ text value rest, first.run text = some (value, rest) → Produced value)
    (needs : ∀ text result rest, (first >>= second).run text = some (result, rest) → meant text)
    (nonempty : ∀ value text result rest, (second value).run text = some (result, rest) → text ≠ [])
    (after : ∀ value, Produced value → Appends more sipUri? withTransport (second value)) :
    Appends more sipUri? withTransport (first >>= second) := by
  have parts : ∀ text result rest, (first >>= second).run text = some (result, rest) →
      ∃ value middle, Produced value ∧ (second value).run middle = some (result, rest) ∧
        middle.getLast? = text.getLast? ∧
        (first >>= second).run (text ++ more) = (second value).run (middle ++ more) := by
    intro text result rest reads
    obtain ⟨value, middle, starts, continues⟩ := run_bind_eq_some.mp reads
    refine ⟨value, middle, produces text value middle starts, continues, ?_, ?_⟩
    · rcases takes text value middle starts with rfl | ⟨taken, passed, same, -⟩
      · rfl
      · rw [same, List.append_cons, getLast?_of_suffix (nonempty value middle result rest continues)]
    · rw [run_bind, before text (needs text result rest reads), starts]
      rfl
  constructor
  · intro text result rest url reads isSip ends
    obtain ⟨value, middle, produced, continues, last, same⟩ := parts text result rest reads
    rw [same]
    exact (after value produced).joined middle result rest url continues isSip ⟨ends.1, ends.2.1, last ▸ ends.2.2⟩
  · intro text result rest url reads isSip ends
    obtain ⟨value, middle, produced, continues, last, same⟩ := parts text result rest reads
    rw [same]
    apply (after value produced).apart middle result rest url continues isSip
    intro inner
    exact ends ⟨inner.1, inner.2.1, last ▸ inner.2.2⟩

theorem Appends.bind {meant : List UInt8 → Prop} {first : PjScanner β} {second : β → PjScanner α}
    (before : SteadyOn meant more first) (takes : MayEnd (fun _ => True) first)
    (needs : ∀ text result rest, (first >>= second).run text = some (result, rest) → meant text)
    (nonempty : ∀ value text result rest, (second value).run text = some (result, rest) → text ≠ [])
    (after : ∀ value, Appends more sipUri? withTransport (second value)) :
    Appends more sipUri? withTransport (first >>= second) :=
  Appends.after (fun _ => True) before takes (fun _ _ _ _ => trivial) needs nonempty fun value _ => after value

theorem Appends.bindNeeds {symbol : UInt8} {first : PjScanner β} {second : β → PjScanner α}
    (before : SteadyOn (fun input => symbol ∈ input) more first) (takes : MayEnd (fun _ => True) first)
    (needs : ∀ value, Needs symbol (second value))
    (after : ∀ value, Appends more sipUri? withTransport (second value)) :
    Appends more sipUri? withTransport (first >>= second) := by
  apply Appends.bind before takes (Needs.bind takes needs) _ after
  intro value text result rest reads
  exact List.ne_nil_of_mem (needs value text result rest reads)

theorem Appends.of_not_sip {scanner : PjScanner α}
    (other : ∀ text result rest, scanner.run text = some (result, rest) → sipUri? result = none) :
    Appends more sipUri? withTransport scanner := by
  constructor
  · intro text result rest url reads isSip
    simp [other text result rest reads] at isSip
  · intro text result rest url reads isSip
    simp [other text result rest reads] at isSip

theorem Appends.map {outerSip? : β → Option SipUri} {outerWith : β → β} {scanner : PjScanner α}
    (appends : Appends more sipUri? withTransport scanner) (wrap : α → β)
    (sameSip : ∀ value, outerSip? (wrap value) = sipUri? value)
    (sameWith : ∀ value, outerWith (wrap value) = wrap (withTransport value)) :
    Appends more outerSip? outerWith (do let value ← scanner; pure (wrap value)) := by
  constructor
  · intro text result rest url reads isSip ends
    obtain ⟨value, first, rfl⟩ := run_thenPure_eq_some.mp reads
    rw [run_bind, appends.joined text value rest url first (sameSip value ▸ isSip) ends, sameWith]
    rfl
  · intro text result rest url reads isSip ends
    obtain ⟨value, first, rfl⟩ := run_thenPure_eq_some.mp reads
    rw [run_bind, appends.apart text value rest url first (sameSip value ▸ isSip) ends]
    rfl

end Appends

section SipUrl

variable {more value : List UInt8} (suffix : AppendedTransport more value)

theorem sipUrlHostPort_headerParam {url next : SipUri} {input rest : List UInt8}
    (reads : (sipUrlHostPort url).run input = some (next, rest)) : next.headerParam = url.headerParam := by
  obtain ⟨hostPort, -, rfl⟩ := run_thenPure_eq_some.mp reads
  rfl

theorem setParam_headerParam (url : SipUri) (param : SipParam) : (url.setParam param).headerParam = url.headerParam := by
  simp only [SipUri.setParam, apply_ite SipUri.headerParam, ite_self]

theorem sipUrlParams_headerParam {url next : SipUri} {input rest : List UInt8} (fresh : url.headerParam = [])
    (reads : (sipUrlParams true url).run input = some (next, rest)) : next.headerParam = [] := by
  apply whileNext_invariant (fun url : SipUri => url.headerParam = []) ends_sipUrlParam _ fresh reads
  intro before text after left held step
  obtain ⟨param, -, rfl⟩ := run_thenPure_eq_some.mp step
  rw [setParam_headerParam, held]

theorem sipUrlHeader_headerParam {url next : SipUri} {input rest : List UInt8}
    (reads : (sipUrlHeader url).run input = some (next, rest)) : next.headerParam ≠ [] := by
  obtain ⟨param, -, rfl⟩ := run_thenPure_eq_some.mp reads
  simp

theorem sipUrlHeaders_reads {url next : SipUri} {input rest : List UInt8}
    (reads : (sipUrlHeaders true url).run input = some (next, rest)) :
    next = url ∧ rest = input ∨
      ∃ first left, (sipUrlHeader url).run input = some (first, left) ∧
        (whileNext ampersand sipUrlHeader first).run left = some (next, rest) := by
  change (do
      if (← Scanner.current) = some question then
        let first ← sipUrlHeader url
        whileNext ampersand sipUrlHeader first
      else pure url : PjScanner SipUri).run input = _ at reads
  rw [run_bind, run_current, Option.bind_some] at reads
  split at reads
  · exact .inr (run_bind_eq_some.mp reads)
  · simp only [run_pure, Option.some.injEq, Prod.mk.injEq] at reads
    exact .inl ⟨reads.1.symm, reads.2.symm⟩

theorem sipUrlTail_reads {url next : SipUri} {input rest : List UInt8}
    (reads : (sipUrlTail url).run input = some (next, rest)) :
    ∃ left, (sipUrlHeaders true url).run input = some (next, left) ∧
      rest = left.dropWhile fun byte => byte == space || byte == tab := by
  obtain ⟨headed, left, headers, finished⟩ := run_bind_eq_some.mp reads
  have skipped : some (headed, left.dropWhile fun byte => byte == space || byte == tab) = some (next, rest) := finished
  simp only [Option.some.injEq, Prod.mk.injEq] at skipped
  obtain ⟨rfl, rfl⟩ := skipped
  exact ⟨left, headers, rfl⟩

theorem sipUrlTail_without_headers {url next : SipUri} {input rest : List UInt8} (bare : next.headerParam = [])
    (reads : (sipUrlTail url).run input = some (next, rest)) :
    next = url ∧ rest = input.dropWhile fun byte => byte == space || byte == tab := by
  obtain ⟨left, headers, skipped⟩ := sipUrlTail_reads reads
  rcases sipUrlHeaders_reads headers with ⟨same, whole⟩ | ⟨first, middle, header, others⟩
  · exact ⟨same, by rw [skipped, whole]⟩
  · have headed : next.headerParam ≠ [] := by
      apply whileNext_invariant (fun url : SipUri => url.headerParam ≠ []) ends_sipUrlHeader _
        (sipUrlHeader_headerParam header) others
      intro before text after left _ step
      exact sipUrlHeader_headerParam step
    exact absurd bare headed

theorem ends_front (url : SipUri) : Ends SolidByte (sipUrlHostPort url >>= sipUrlParams true) :=
  (ends_sipUrlHostPort url).bind fun _ => mayEnd_sipUrlParams true _

theorem front_headerParam {url next : SipUri} {input rest : List UInt8} (fresh : url.headerParam = [])
    (reads : (sipUrlHostPort url >>= sipUrlParams true).run input = some (next, rest)) : next.headerParam = [] := by
  obtain ⟨located, left, hostPort, params⟩ := run_bind_eq_some.mp reads
  exact sipUrlParams_headerParam ((sipUrlHostPort_headerParam hostPort).trans fresh) params

theorem front_leaves_nothing_iff {url before result : SipUri} {text left rest : List UInt8}
    (fresh : url.headerParam = [])
    (front : (sipUrlHostPort url >>= sipUrlParams true).run text = some (before, left))
    (tail : (sipUrlTail before).run left = some (result, rest)) : left = [] ↔ OpenEnd text rest result := by
  obtain ⟨taken, byte, same, solid⟩ := ends_front url text before left front
  constructor
  · intro empty
    rw [empty, sipUrlTail_nil] at tail
    simp only [Option.some.injEq, Prod.mk.injEq] at tail
    obtain ⟨rfl, rfl⟩ := tail
    refine ⟨rfl, front_headerParam fresh front, ?_⟩
    intro last member
    simp only [same, empty, List.getLast?_append, List.getLast?_singleton, Option.some_or, Option.mem_def,
      Option.some.injEq] at member
    exact member ▸ solid
  · intro ⟨whole, bare, last⟩
    obtain ⟨-, skipped⟩ := sipUrlTail_without_headers bare tail
    rcases List.eq_nil_or_concat left with empty | ⟨others, final, rfl⟩
    · exact empty
    · have white := List.dropWhile_eq_nil_iff.mp (skipped.symm.trans whole) final (by simp)
      have split : text = (taken ++ byte :: others) ++ [final] := by simp [same]
      have final_last : final ∈ text.getLast? := by rw [split, List.getLast?_concat, Option.mem_some]
      obtain ⟨noSpace, noTab, -⟩ := last final final_last
      simp [noSpace, noTab] at white

include suffix in
theorem sipUrlRest_appends {url : SipUri} (fresh : url.headerParam = []) :
    Appends more some (SipUri.withTransport value) (sipUrlRest true url) := by
  have parts : ∀ text result rest, (sipUrlRest true url).run text = some (result, rest) →
      ∃ before left, (sipUrlTail before).run left = some (result, rest) ∧ (left = [] ↔ OpenEnd text rest result) ∧
        (sipUrlRest true url).run (text ++ more) =
          if left = [] then some (before.withTransport value, [])
          else ((sipUrlTail before).run left).map fun last => (last.1, last.2 ++ more) := by
    intro text result rest reads
    rw [sipUrlRest_eq] at reads
    obtain ⟨before, left, front, tail⟩ := run_bind_eq_some.mp reads
    refine ⟨before, left, tail, front_leaves_nothing_iff fresh front tail, ?_⟩
    rw [sipUrlRest_append suffix, front]
    rfl
  constructor
  · intro text result rest other reads isSip ends
    obtain ⟨before, left, tail, opens, appended⟩ := parts text result rest reads
    obtain rfl := Option.some.inj isSip
    have empty := opens.mpr ends
    rw [empty, sipUrlTail_nil] at tail
    simp only [Option.some.injEq, Prod.mk.injEq] at tail
    rw [appended, if_pos empty, tail.1]
  · intro text result rest other reads isSip ends
    obtain ⟨before, left, tail, opens, appended⟩ := parts text result rest reads
    obtain rfl := Option.some.inj isSip
    have stays : left ≠ [] := fun empty => ends (opens.mp empty)
    rw [appended, if_neg stays, tail]
    rfl

theorem sipUrlUser_headerParam {url next : SipUri} {input rest : List UInt8}
    (reads : (sipUrlUser url).run input = some (next, rest)) : next.headerParam = url.headerParam := by
  obtain ⟨isUser, left, -, user⟩ := run_bind_eq_some.mp reads
  cases isUser with
  | false =>
    simp only [Bool.false_eq_true, if_false, run_pure, Option.some.injEq, Prod.mk.injEq] at user
    rw [← user.1]
  | true =>
    obtain ⟨userPass, -, rfl⟩ := run_thenPure_eq_some.mp user
    rfl

theorem sipUrlScheme_headerParam {url : SipUri} {input rest : List UInt8}
    (reads : sipUrlScheme.run input = some (url, rest)) : url.headerParam = [] := by
  obtain ⟨scheme, left, -, found⟩ := run_bind_eq_some.mp reads
  obtain ⟨next, behind, -, created⟩ := run_bind_eq_some.mp found
  split at created
  · split at created
    · simp only [run_pure, Option.some.injEq, Prod.mk.injEq] at created
      rw [← created.1]
      rfl
    · split at created
      · simp only [run_pure, Option.some.injEq, Prod.mk.injEq] at created
        rw [← created.1]
        rfl
      · cases created
  · cases created

theorem mayEnd_sipUrlScheme : MayEnd (fun _ => True) sipUrlScheme := by
  apply MayEnd.bind ((Ends.many1 _).mono fun _ _ => trivial).mayEnd
  intro scheme
  apply ends_scanGetChar.mayEnd.bind
  intro next
  apply MayEnd.ite
  · apply MayEnd.ite (MayEnd.done _)
    exact MayEnd.ite (MayEnd.done _) MayEnd.fail
  · exact MayEnd.fail

theorem mayEnd_sipUrlUser (url : SipUri) : MayEnd (fun _ => True) (sipUrlUser url) := by
  have token : ∀ spec, MayEnd (fun _ => True) (parserGetAndUnescape spec) := fun spec =>
    ((Ends.many1 spec).mono fun _ _ => trivial).mayEnd.bind fun _ => MayEnd.done _
  apply MayEnd.bind
  · exact (MayEnd.peekMany _).bind fun _ => MayEnd.done _
  · intro isUser
    apply MayEnd.ite
    · apply MayEnd.bind
      · apply (token userSpecLenient).bind
        intro user
        apply MayEnd.bind
        · exact MayEnd.takeNext trivial (token passwdSpec) (MayEnd.done _)
        · intro passwd
          exact ends_scanGetChar.mayEnd.bind fun _ => MayEnd.done _
      · intro userPass
        exact MayEnd.done _
    · exact MayEnd.done _

theorem sipUrlUser_nil (url : SipUri) : (sipUrlUser url).run [] = none := rfl

include suffix in
theorem sipUrlUser_appends {url : SipUri} (fresh : url.headerParam = []) :
    Appends more some (SipUri.withTransport value) (do
      let url ← sipUrlUser url
      sipUrlRest true url) := by
  apply Appends.after (fun named : SipUri => named.headerParam = []) (steadyOn_sipUrlUser suffix url)
    (mayEnd_sipUrlUser url) fun _ _ _ reads => (sipUrlUser_headerParam reads).trans fresh
  · intro text result rest reads empty
    rw [empty, run_bind, sipUrlUser_nil] at reads
    cases reads
  · intro named text result rest reads empty
    rw [empty] at reads
    cases reads
  · intro named bare
    exact sipUrlRest_appends suffix bare

include suffix in
theorem intParseSipUrl_appends :
    Appends more some (SipUri.withTransport value) (intParseSipUrl true) := by
  apply Appends.after (fun url : SipUri => url.headerParam = []) (steady_sipUrlScheme suffix) mayEnd_sipUrlScheme
    fun _ _ _ => sipUrlScheme_headerParam
  · intro text result rest _
    trivial
  · intro url text result rest reads empty
    rw [empty, run_bind, sipUrlUser_nil] at reads
    cases reads
  · intro url fresh
    exact sipUrlUser_appends suffix fresh

end SipUrl

section NameAddr

variable {more value : List UInt8} (suffix : AppendedTransport more value)

theorem parse_nil (parseParams : Bool) (handler : UriHandler) : (handler.parse parseParams).run [] = none := by
  cases handler <;> rfl

theorem mayEnd_scanGet (spec : UInt8 → Bool) : MayEnd (fun _ => True) (scanGet spec) :=
  ((Ends.many1 spec).mono fun _ _ => trivial).mayEnd

theorem mayEnd_scanSkipWhitespace : MayEnd (fun _ => True) scanSkipWhitespace :=
  ((MayEnd.many _).mono fun _ _ => trivial).bind fun _ => MayEnd.done _

theorem mayEnd_intParseSipUrl : MayEnd (fun _ => True) (intParseSipUrl true) := by
  apply mayEnd_sipUrlScheme.bind
  intro url
  apply (mayEnd_sipUrlUser url).bind
  intro url
  rw [sipUrlRest_eq]
  apply ((ends_front url).mayEnd.mono fun _ _ => trivial).bind
  intro url
  apply MayEnd.bind
  · apply MayEnd.current.bind
    intro next
    apply MayEnd.ite
    · apply ((ends_sipUrlHeader url).mayEnd.mono fun _ _ => trivial).bind
      intro first
      exact (MayEnd.whileNext ends_sipUrlHeader first).mono fun _ _ => trivial
    · exact MayEnd.done _
  · intro headed
    exact mayEnd_scanSkipWhitespace.bind fun _ => MayEnd.done _

theorem ends_telUriParam (uri : TelUri) : Ends (fun _ => True) (telUriParam uri) := by
  apply ends_scanGetChar.bind
  intro _
  apply (mayEnd_scanGet paramCharSpec).bind
  intro name
  apply MayEnd.takeNext trivial
  · apply MayEnd.bind
    · exact (mayEnd_scanGet _).bind fun _ => MayEnd.done _
    · intro value
      exact MayEnd.done _
  · exact MayEnd.done _

theorem mayEnd_telUriParse : MayEnd (fun _ => True) (telUriParse true) := by
  apply (mayEnd_scanGet tokenSpec).bind
  intro scheme
  apply ends_scanGetChar.mayEnd.bind
  intro next
  apply MayEnd.ite
  · apply MayEnd.bind
    · exact (mayEnd_scanGet _).bind fun _ => MayEnd.done _
    · intro number
      apply MayEnd.bind
      · exact MayEnd.whileNext ends_telUriParam _
      · intro uri
        exact mayEnd_scanSkipWhitespace.bind fun _ => MayEnd.done _
  · exact MayEnd.fail

theorem mayEnd_intParseOtherUri : MayEnd (fun _ => True) intParseOtherUri := by
  apply (mayEnd_scanGet tokenSpec).bind
  intro scheme
  apply ends_scanGetChar.mayEnd.bind
  intro next
  apply MayEnd.ite
  · exact (mayEnd_scanGet _).bind fun _ => MayEnd.done _
  · exact MayEnd.fail

theorem mayEnd_intParseUri : MayEnd (fun _ => True) (intParseUri true) := by
  apply (MayEnd.peekMany _).bind
  intro peeked
  apply MayEnd.ite
  · cases findUriHandler peeked.1 with
    | sipUrl => exact mayEnd_intParseSipUrl.bind fun _ => MayEnd.done _
    | telUri => exact mayEnd_telUriParse.bind fun _ => MayEnd.done _
    | otherUri => exact mayEnd_intParseOtherUri.bind fun _ => MayEnd.done _
  · exact MayEnd.fail

theorem needs_intParseUri (parseParams : Bool) : Needs colon (intParseUri parseParams) := by
  intro text uri rest reads
  obtain ⟨⟨token, next⟩, left, peeks, parsed⟩ := run_bind_eq_some.mp reads
  split at parsed
  · rename_i found
    simp only at found
    rw [found] at peeks
    exact (mem_of_peekMany peeks).1
  · cases parsed

include suffix

theorem parse_appends (handler : UriHandler) :
    Appends more Uri.sipUri? (Uri.withTransport value) (handler.parse true) := by
  cases handler with
  | sipUrl => exact (intParseSipUrl_appends suffix).map Uri.sip (fun _ => rfl) fun _ => rfl
  | telUri =>
    apply Appends.of_not_sip
    intro text result rest reads
    obtain ⟨uri, -, rfl⟩ := run_thenPure_eq_some.mp reads
    rfl
  | otherUri =>
    apply Appends.of_not_sip
    intro text result rest reads
    obtain ⟨uri, -, rfl⟩ := run_thenPure_eq_some.mp reads
    rfl

theorem intParseUri_appends : Appends more Uri.sipUri? (Uri.withTransport value) (intParseUri true) := by
  apply Appends.bind (SteadyOn.peekMany tokenSpec) (MayEnd.peekMany _)
  · intro text uri rest reads
    exact ⟨colon, needs_intParseUri true text uri rest reads, by decide⟩
  · intro peeked text uri rest reads empty
    rw [empty] at reads
    split at reads
    · rw [parse_nil] at reads
      cases reads
    · cases reads
  · intro peeked
    split
    · exact parse_appends suffix _
    · apply Appends.of_not_sip
      intro text result rest reads
      cases reads

theorem intParseBracketed_appends (display : List UInt8) :
    Appends more NameAddr.sipUri? (NameAddr.withTransport value) (intParseBracketed display) := by
  have parts : ∀ text result rest url, (intParseBracketed display).run text = some (result, rest) →
      result.sipUri? = some url →
        (∃ taken, text = taken ++ greater :: rest) ∧
          (intParseBracketed display).run (text ++ more) = some (result, rest ++ more) := by
    intro text result rest url reads isSip
    obtain ⟨opening, inside, opens, reads⟩ := run_bind_eq_some.mp reads
    obtain ⟨uri, behind, parsed, reads⟩ := run_bind_eq_some.mp reads
    obtain ⟨closing, left, closes, finished⟩ := run_bind_eq_some.mp reads
    split at finished
    · rename_i isGreater
      simp only [run_pure, Option.some.injEq, Prod.mk.injEq] at finished
      obtain ⟨rfl, rfl⟩ := finished
      obtain ⟨rfl, someOpening⟩ := run_item_eq_some.mp opens
      obtain ⟨rfl, someClosing⟩ := run_item_eq_some.mp closes
      -- The closing bracket is left over after the URI, so the end of the URI is not open.
      have stays := (intParseUri_appends suffix).apart inside uri (closing :: left) url parsed isSip fun ends => by
        cases ends.1
      refine ⟨?_, ?_⟩
      · rcases mayEnd_intParseUri inside uri (closing :: left) parsed with same | ⟨taken, passed, same, -⟩
        · exact ⟨[opening], by rw [← same, isGreater]; rfl⟩
        · exact ⟨opening :: taken ++ [passed], by simp [same, isGreater]⟩
      · have opened : scanGetChar.run (opening :: inside ++ more) = some (opening, inside ++ more) :=
          run_item_eq_some.mpr ⟨rfl, someOpening⟩
        rw [intParseBracketed, run_bind, opened, Option.bind_some, run_bind, stays]
        have closed : scanGetChar.run (closing :: left ++ more) = some (closing, left ++ more) :=
          run_item_eq_some.mpr ⟨rfl, someClosing⟩
        rw [Option.bind_some, run_bind, closed, Option.bind_some, if_pos isGreater]
        rfl
    · cases finished
  constructor
  · intro text result rest url reads isSip ends
    obtain ⟨⟨taken, same⟩, -⟩ := parts text result rest url reads isSip
    have last : greater ∈ text.getLast? := by simp [same, ends.1]
    exact absurd rfl (ends.2.2 greater last).2.2
  · intro text result rest url reads isSip _
    exact (parts text result rest url reads isSip).2

theorem steadyOn_intParseDisplay : SteadyOn (fun input => colon ∈ input) more intParseDisplay := by
  have here : SteadyOn (fun input => colon ∈ input) more (Scanner.current : PjScanner (Option UInt8)) :=
    SteadyOn.current.mono fun _ => List.ne_nil_of_mem
  have stays : ∀ input (next : Option UInt8) rest, colon ∈ input →
      (Scanner.current : PjScanner _).run input = some (next, rest) → colon ∈ rest := by
    intro input next rest member reads
    simp only [run_current, Option.some.injEq, Prod.mk.injEq] at reads
    exact reads.2 ▸ member
  apply SteadyOn.bind (fun _ input => colon ∈ input) here stays
  intro next
  split
  · exact ((steady_scanGetQuote suffix.head suffix.noQuotation).bind fun _ => Steady.done _).on
  · apply SteadyOn.bind (fun _ input => colon ∈ input) here stays
    intro next
    split
    · exact (Steady.done _).on
    · have peeks : SteadyOn (fun input => colon ∈ input) more (scanPeek displaySpec) :=
        (SteadyOn.peekMany displaySpec).mono fun input member => ⟨colon, member, by decide⟩
      apply SteadyOn.bind (fun peeked input => peeked.2 = some less → less ∈ input) peeks
      · intro input peeked rest _ reads found
        obtain ⟨run, next⟩ := peeked
        obtain rfl : next = some less := found
        rw [peekMany_rest reads]
        exact (mem_of_peekMany reads).1
      · intro peeked
        split
        · rename_i found
          exact ((SteadyOn.upTo less).andThen fun _ => Steady.done _).mono fun input inside => inside found
        · exact (Steady.done _).on

omit suffix in
theorem mayEnd_intParseDisplay : MayEnd (fun _ => True) intParseDisplay := by
  apply MayEnd.current.bind
  intro next
  apply MayEnd.ite
  · exact (ends_scanGetQuote.mayEnd.mono fun _ _ => trivial).bind fun _ => MayEnd.done _
  · apply MayEnd.current.bind
    intro next
    apply MayEnd.ite (MayEnd.done _)
    apply (MayEnd.peekMany _).bind
    intro peeked
    apply MayEnd.ite
    · exact ((MayEnd.upTo less).mono fun _ _ => trivial).bind fun _ => MayEnd.done _
    · exact MayEnd.done _

omit suffix in
theorem needs_intParseBracketed (display : List UInt8) : Needs colon (intParseBracketed display) :=
  Needs.bind ends_scanGetChar.mayEnd fun _ => (needs_intParseUri true).before

def nameAddrUri (display : List UInt8) : PjScanner NameAddr := do
  if (← Scanner.current) = some less then intParseBracketed display
  else if display ≠ [] then failure
  else
    let uri ← intParseUri true
    pure { display, uri }

omit suffix in
theorem needs_bracketOrUri (display : List UInt8) (next : Option UInt8) :
    Needs colon (if next = some less then intParseBracketed display
      else if display ≠ [] then failure
      else do
        let uri ← intParseUri true
        pure { display, uri }) :=
  Needs.ite (needs_intParseBracketed display) (Needs.ite Needs.fail (needs_intParseUri true).before)

omit suffix in
theorem needs_nameAddrUri (display : List UInt8) : Needs colon (nameAddrUri display) :=
  Needs.bind MayEnd.current (needs_bracketOrUri display)

omit suffix in
theorem needs_intParseNameAddr : Needs colon intParseNameAddr :=
  Needs.bind mayEnd_intParseDisplay fun display =>
    Needs.bind mayEnd_scanSkipWhitespace fun _ => needs_nameAddrUri display

theorem nameAddrUri_appends (display : List UInt8) :
    Appends more NameAddr.sipUri? (NameAddr.withTransport value) (nameAddrUri display) := by
  apply Appends.bindNeeds (SteadyOn.current.mono fun _ => List.ne_nil_of_mem) MayEnd.current
    (needs_bracketOrUri display)
  intro next
  split
  · exact intParseBracketed_appends suffix display
  · split
    · apply Appends.of_not_sip
      intro text result rest reads
      cases reads
    · apply (intParseUri_appends suffix).map fun uri => NameAddr.mk display uri
      · intro uri
        rfl
      · intro uri
        rfl

theorem intParseNameAddr_appends :
    Appends more NameAddr.sipUri? (NameAddr.withTransport value) intParseNameAddr := by
  apply Appends.bindNeeds (steadyOn_intParseDisplay suffix) mayEnd_intParseDisplay
    fun display => Needs.bind mayEnd_scanSkipWhitespace fun _ => needs_nameAddrUri display
  intro display
  apply Appends.bindNeeds (steady_scanSkipWhitespace suffix.head).on mayEnd_scanSkipWhitespace
    fun _ => needs_nameAddrUri display
  intro _
  exact nameAddrUri_appends suffix display

theorem named_appends : Appends more ParsedUri.sipUri? (ParsedUri.withTransport value)
    (do let nameAddr ← intParseNameAddr; pure (.named nameAddr)) := by
  apply (intParseNameAddr_appends suffix).map ParsedUri.named
  · intro address
    rfl
  · intro address
    rfl

def unquoted (option : ParseOption) : PjScanner ParsedUri := do
  let peeked ← scanPeek displaySpec
  if peeked.2 = some colon then
    let uri ← (findUriHandler peeked.1).parse (!option.inFromToHdr)
    pure (asParsed option uri)
  else
    let nameAddr ← intParseNameAddr
    pure (.named nameAddr)

omit suffix in
theorem needs_unquoted (option : ParseOption) : Needs colon (unquoted option) := by
  intro text parsed rest reads
  obtain ⟨⟨run, next⟩, left, peeks, parses⟩ := run_bind_eq_some.mp reads
  split at parses
  · rename_i found
    obtain rfl : next = some colon := found
    exact (mem_of_peekMany peeks).1
  · exact peekMany_rest peeks ▸ needs_intParseNameAddr.before left parsed rest parses

theorem unquoted_appends (asNameAddr : Bool) :
    Appends more ParsedUri.sipUri? (ParsedUri.withTransport value)
      (unquoted { asNameAddr, inFromToHdr := false }) := by
  have peeks : SteadyOn (fun input => colon ∈ input) more (scanPeek displaySpec) :=
    (SteadyOn.peekMany displaySpec).mono fun input member => ⟨colon, member, by decide⟩
  apply Appends.bind peeks (MayEnd.peekMany _)
  · exact needs_unquoted _
  · intro peeked text parsed rest reads empty
    rw [empty] at reads
    split at reads
    · rw [run_bind, parse_nil] at reads
      cases reads
    · exact List.not_mem_nil (needs_intParseNameAddr.before [] parsed rest reads)
  · intro peeked
    split
    · apply (parse_appends suffix _).map (asParsed _)
      · intro uri
        cases asNameAddr <;> rfl
      · intro uri
        cases asNameAddr <;> rfl
    · exact named_appends suffix

theorem intParseUriOrNameAddr_appends (asNameAddr : Bool) :
    Appends more ParsedUri.sipUri? (ParsedUri.withTransport value)
      (intParseUriOrNameAddr { asNameAddr, inFromToHdr := false }) := by
  have needs : ∀ next : Option UInt8, Needs colon (if next = some quotation ∨ next = some less then
        do let nameAddr ← intParseNameAddr; pure (.named nameAddr)
      else unquoted { asNameAddr, inFromToHdr := false }) := fun next =>
    Needs.ite needs_intParseNameAddr.before (needs_unquoted _)
  apply Appends.bindNeeds (steady_scanSkipWhitespace suffix.head).on mayEnd_scanSkipWhitespace
    fun _ => Needs.bind MayEnd.current needs
  intro _
  apply Appends.bindNeeds (SteadyOn.current.mono fun _ => List.ne_nil_of_mem) MayEnd.current needs
  intro next
  split
  · exact named_appends suffix
  · exact unquoted_appends suffix asNameAddr

end NameAddr

end TiSIP.Pjsip
