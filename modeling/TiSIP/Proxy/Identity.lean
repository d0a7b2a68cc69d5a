import TiSIP.Proxy.PjSIPProxy
import TiSIP.Pjsua.AccUri
import TiSIP.Pjsip.UriParts

namespace TiSIP.Proxy

open Pjlib Pjsip Pjsua Scanner

def aloneUri (domain : String) : String := "sip:" ++ domain

def stringBytes (string : String) : List UInt8 := BytewiseDecoder.utf8 string.toList

structure IdentityOf (account : String) (id reg alone : SipUri) : Prop where
  user : id.user = stringBytes account
  noPasswd : id.passwd = []
  noHeaders : id.headerParam = []
  hostPort : (id.host, id.port) = (alone.host, alone.port)
  registrar : (reg.host, reg.port) = (alone.host, alone.port)
  udp : reg.transportParam = stringBytes "udp"

def RegistersIdentity (cfg : AccConfig) (credentials : Credentials) : Prop :=
  ∃ id reg alone,
    parsedSip (callerOption true) cfg.id = some id ∧ parsedSip (callerOption false) cfg.regUri = some reg ∧
      parsedSip (callerOption false) (aloneUri credentials.sipDomain) = some alone ∧
        IdentityOf credentials.sipAccount id reg alone

/-- Nothing of the account is left out of the user part, or read as an escape. -/
def PlainAccount (account : String) : Prop :=
  (∀ byte ∈ stringBytes account, userSpecLenient byte = true) ∧
    strUnescape (stringBytes account) = stringBytes account

def HostAtStart (domain : String) : Prop :=
  ((do
    let _ ← sipUrlUser (sipUriCreate false)
    intParseUriHostPort).run (libraryText domain)).map Prod.fst =
      (intParseUriHostPort.run (libraryText domain)).map Prod.fst

def NoHeaderPart (domain : String) : Prop :=
  ∀ url rest, (sipUrlRest true (sipUriCreate false)).run (libraryText domain) = some (url, rest) → url.headerParam = []

/-- The parameter that `register` adds is read, or the domain asks for UDP itself. -/
def AsksForUdp (domain : String) : Prop :=
  ReadToEnd false (aloneUri domain) ∨
    ∃ alone, parsedSip (callerOption false) (aloneUri domain) = some alone ∧ alone.transportParam = stringBytes "udp"

theorem appended_udp : AppendedTransport (stringBytes ";transport=udp") (stringBytes "udp") where
  head := by decide +kernel
  probed := by decide +kernel
  noQuotation := by decide +kernel
  noBracket := by decide +kernel
  nonempty := by decide +kernel
  param := by decide +kernel

instance (account : String) : Decidable (PlainAccount account) :=
  haveI := List.decidableBAll (fun byte => userSpecLenient byte = true) (stringBytes account)
  inferInstanceAs (Decidable (_ ∧ _))

theorem hostAtStart_of_no_atSign {domain : String} (absent : atSign ∉ libraryText domain) : HostAtStart domain := by
  unfold HostAtStart
  rw [run_bind, sipUrlUser, run_bind]
  cases looks : intIsNextUser.run (libraryText domain) with
  | none =>
    have empty : libraryText domain = [] := by
      by_contra nonempty
      simp [intIsNextUser, run_peekMany, nonempty] at looks
    rw [empty]
    rfl
  | some read =>
    obtain ⟨isUser, rest⟩ := read
    have same := intIsNextUser_rest looks
    cases isUser with
    | false =>
      rw [same]
      rfl
    | true => exact absurd (same ▸ atSign_of_intIsNextUser looks) absent

section Registrar

theorem parsedSip_iff (asNameAddr : Bool) {string : String} {text : List UInt8}
    (same : libraryText string = stringBytes "sip:" ++ text) (url : SipUri) :
    parsedSip (callerOption asNameAddr) string = some url ↔
      ∃ rest, sipBody.run text = some (url, rest) ∧ (rest = [] ∨ rest.head?.any isNewline = true) := by
  have sip : ∀ url, (asParsed (callerOption asNameAddr) (.sip url)).sipUri? = some url := by
    intro url
    cases asNameAddr <;> rfl
  have reads := intParseUriOrNameAddr_sip asNameAddr text
  rw [parsedSip, parseNSString_eq, same, Option.bind_eq_some_iff]
  constructor
  · intro held
    obtain ⟨parsed, accepted, isSip⟩ := held
    obtain ⟨rest, run, ends⟩ := (parseUri_eq_some_iff _ _ _).mp accepted
    rw [stringBytes, reads, Option.map_eq_some_iff] at run
    obtain ⟨⟨found, left⟩, body, packed⟩ := run
    simp only [Prod.mk.injEq] at packed
    obtain ⟨rfl, rfl⟩ := packed
    obtain rfl := Option.some.inj ((sip found).symm.trans isSip)
    exact ⟨left, body, ends⟩
  · intro held
    obtain ⟨rest, body, ends⟩ := held
    refine ⟨asParsed (callerOption asNameAddr) (.sip url), ?_, sip url⟩
    rw [parseUri_eq_some_iff]
    exact ⟨rest, by rw [stringBytes, reads, body]; rfl, ends⟩

theorem noNul_alone_iff (domain : String) : NoNul (aloneUri domain) ↔ NoNul domain := by
  have plain : NoNul "sip:" := by decide
  simp [aloneUri, noNul_append, plain]

theorem libraryText_alone (domain : String) :
    libraryText (aloneUri domain) = stringBytes "sip:" ++ libraryText domain := by
  have plain : NoNul "sip:" := by decide
  rw [aloneUri, libraryText_append plain, libraryText_of_noNul plain, stringBytes]

theorem readToEnd_alone_iff {domain : String} {alone : SipUri} {rest : List UInt8}
    (reads : sipBody.run (libraryText domain) = some (alone, rest)) :
    ReadToEnd false (aloneUri domain) ↔ NoNul domain ∧ rest = [] := by
  have run := intParseUriOrNameAddr_sip false (libraryText domain)
  rw [reads, ← stringBytes, ← libraryText_alone] at run
  rw [readToEnd_iff run]
  rw [noNul_alone_iff]

theorem sipBody_of_append {text rest : List UInt8} {url : SipUri}
    (reads : sipBody.run (text ++ stringBytes ";transport=udp") = some (url, rest)) :
    ∃ alone left, sipBody.run text = some (alone, left) := by
  rcases List.eq_nil_or_concat text with rfl | ⟨before, last, same⟩
  · have fails : sipBody.run (stringBytes ";transport=udp") = none := by decide +kernel
    rw [List.nil_append, fails] at reads
    cases reads
  · have nonempty : text ≠ [] := by simp [same]
    rw [sipBody, run_bind, steadyOn_sipUrlUser appended_udp _ text nonempty] at reads
    rw [sipBody, run_bind]
    cases user : (sipUrlUser (sipUriCreate false)).run text with
    | none =>
      rw [user] at reads
      cases reads
    | some read =>
      simp only [user, Option.map_some, Option.bind_some, sipUrlRest_append appended_udp] at reads ⊢
      obtain ⟨front, frontReads, continues⟩ := Option.bind_eq_some_iff.mp reads
      rw [sipUrlRest_eq, run_bind, frontReads, Option.bind_some]
      split at continues
      · rename_i empty
        exact ⟨front.1, [], by rw [empty]; rfl⟩
      · obtain ⟨tail, tailReads, -⟩ := Option.map_eq_some_iff.mp continues
        exact ⟨tail.1, tail.2, tailReads⟩

theorem registrar_of_domain {domain : String} {reg : SipUri}
    (accepted : parsedSip (callerOption false) ("sip:" ++ domain ++ ";transport=udp") = some reg) :
    ∃ alone rest, sipBody.run (libraryText domain) = some (alone, rest) ∧
      parsedSip (callerOption false) (aloneUri domain) = some alone ∧
        (reg.host, reg.port) = (alone.host, alone.port) ∧
          (reg.transportParam = stringBytes "udp" ↔ AsksForUdp domain) := by
  by_cases noNul : NoNul domain
  · have text : libraryText ("sip:" ++ domain ++ ";transport=udp") =
        stringBytes "sip:" ++ (libraryText domain ++ stringBytes ";transport=udp") := by
      have plain : NoNul ";transport=udp" := by decide
      rw [← aloneUri, libraryText_append ((noNul_alone_iff domain).mpr noNul), libraryText_alone,
        libraryText_of_noNul plain, stringBytes, stringBytes, List.append_assoc]
    obtain ⟨rest, reads, ends⟩ := (parsedSip_iff false text reg).mp accepted
    obtain ⟨alone, left, body⟩ := sipBody_of_append reads
    have appends := sipUrlUser_appends appended_udp (rfl : (sipUriCreate false).headerParam = [])
    by_cases opens : OpenEnd (libraryText domain) left alone
    · have joined := appends.joined _ alone left alone body rfl opens
      obtain ⟨rfl, -⟩ := Prod.mk.inj (Option.some.inj (reads.symm.trans joined))
      refine ⟨alone, left, body, (parsedSip_iff _ (libraryText_alone domain) alone).mpr ⟨left, body, .inl opens.1⟩, rfl, ?_⟩
      have whole := (readToEnd_alone_iff body).mpr ⟨noNul, opens.1⟩
      simp [AsksForUdp, whole, SipUri.withTransport]
    · have apart := appends.apart _ alone left alone body rfl opens
      obtain ⟨rfl, rfl⟩ := Prod.mk.inj (Option.some.inj (reads.symm.trans apart))
      -- A parameter that no line end keeps from the parser is refused where it cannot join.
      have newline : left.head?.any isNewline = true := by
        cases left with
        | nil =>
          have refused : ¬ (stringBytes ";transport=udp" = [] ∨
              (stringBytes ";transport=udp").head?.any isNewline = true) := by decide +kernel
          exact absurd ends refused
        | cons byte left => simpa using ends
      have alone := (parsedSip_iff false (libraryText_alone domain) reg).mpr ⟨left, body, .inr newline⟩
      refine ⟨reg, left, body, alone, rfl, ?_⟩
      have cut : ¬ ReadToEnd false (aloneUri domain) := by
        rw [readToEnd_alone_iff body]
        intro whole
        simp [whole.2] at newline
      simp [AsksForUdp, cut, alone]
  · have text : libraryText ("sip:" ++ domain ++ ";transport=udp") = stringBytes "sip:" ++ libraryText domain := by
      have nul : ¬ NoNul ("sip:" ++ domain) := fun whole => noNul ((noNul_alone_iff domain).mp whole)
      rw [libraryText_append_of_nul nul, ← aloneUri, libraryText_alone]
    obtain ⟨rest, reads, ends⟩ := (parsedSip_iff false text reg).mp accepted
    have alone := (parsedSip_iff false (libraryText_alone domain) reg).mpr ⟨rest, reads, ends⟩
    refine ⟨reg, rest, reads, alone, rfl, ?_⟩
    have cut : ¬ ReadToEnd false (aloneUri domain) := by
      rw [readToEnd_alone_iff reads]
      exact fun whole => noNul whole.1
    simp [AsksForUdp, cut, alone]

end Registrar

section Id

theorem strUnescape_length_le (text : List UInt8) : (strUnescape text).length ≤ text.length := by
  fun_induction strUnescape text with
  | case1 => simp
  | case2 byte => simp
  | case3 byte next => simp
  | case4 byte high low rest escape ih =>
    simp only [List.length_cons]
    omega
  | case5 byte high low rest plain ih =>
    simp only [List.length_cons] at ih ⊢
    omega

theorem eq_of_strUnescape_takeWhile {spec : UInt8 → Bool} {text : List UInt8}
    (same : strUnescape (text.takeWhile spec) = text) :
    (∀ byte ∈ text, spec byte = true) ∧ strUnescape text = text := by
  have shorter := strUnescape_length_le (text.takeWhile spec)
  have taken := (List.takeWhile_prefix spec (l := text)).length_le
  rw [same] at shorter
  have whole : text.takeWhile spec = text :=
    (List.takeWhile_prefix spec).eq_of_length (by omega)
  rw [whole] at same
  exact ⟨List.takeWhile_eq_self_iff.mp whole, same⟩

theorem libraryText_id {account : String} (noNul : NoNul account) (domain : String) :
    libraryText ("sip:" ++ account ++ "@" ++ domain) =
      stringBytes "sip:" ++ (stringBytes account ++ atSign :: libraryText domain) := by
  have plain : NoNul ("sip:" ++ account ++ "@") := by
    have literals : NoNul "sip:" ∧ NoNul "@" := by decide
    simp [noNul_append, literals, noNul]
  have mark : BytewiseDecoder.utf8 "@".toList = [atSign] := by decide
  rw [libraryText_append plain, libraryText_of_noNul plain, String.toList_append, String.toList_append,
    BytewiseDecoder.utf8_append, BytewiseDecoder.utf8_append, mark]
  simp [stringBytes]

theorem libraryText_id_of_nul {account : String} (nul : ¬ NoNul account) (domain : String) :
    libraryText ("sip:" ++ account ++ "@" ++ domain) = stringBytes "sip:" ++ libraryText account := by
  have cut : ¬ NoNul ("sip:" ++ account) := fun whole => nul ((noNul_alone_iff account).mp whole)
  rw [String.append_assoc, libraryText_append_of_nul cut, ← aloneUri, libraryText_alone]

theorem sipBody_user {text rest : List UInt8} {id : SipUri} (reads : sipBody.run text = some (id, rest)) :
    id.user = [] ∨ id.user = strUnescape (text.takeWhile userSpecLenient) := by
  obtain ⟨named, left, user, others⟩ := run_bind_eq_some.mp reads
  rw [(sipUrlRest_user others).1]
  exact sipUrlUser_user user

theorem plainAccount_of_user {account domain : String} {id : SipUri}
    (accepted : parsedSip (callerOption true) ("sip:" ++ account ++ "@" ++ domain) = some id)
    (user : id.user = stringBytes account) : PlainAccount account := by
  by_cases noNul : NoNul account
  · obtain ⟨rest, reads, -⟩ := (parsedSip_iff _ (libraryText_id noNul domain) id).mp accepted
    rcases sipBody_user reads with none | token
    · rw [user] at none
      simp [PlainAccount, none, strUnescape]
    · have stop : (atSign :: libraryText domain).takeWhile userSpecLenient = [] :=
        List.takeWhile_cons_of_neg (by decide)
      rw [takeWhile_append_blocked stop, user] at token
      exact eq_of_strUnescape_takeWhile token.symm
  · -- A name cut short at a NUL is longer than any user part read from it.
    obtain ⟨rest, reads, -⟩ := (parsedSip_iff _ (libraryText_id_of_nul noNul domain) id).mp accepted
    have cut := libraryText_shorter_of_nul noNul
    have short : id.user.length ≤ (libraryText account).length := by
      rcases sipBody_user reads with none | token
      · simp [none]
      · rw [token]
        have token_le := strUnescape_length_le ((libraryText account).takeWhile userSpecLenient)
        have prefix_le := (List.takeWhile_prefix userSpecLenient (l := libraryText account)).length_le
        omega
    rw [user, stringBytes] at short
    omega

theorem id_of_plainAccount {account domain : String} {id : SipUri}
    (accepted : parsedSip (callerOption true) ("sip:" ++ account ++ "@" ++ domain) = some id)
    (plain : PlainAccount account) :
    ∃ url rest, (sipUrlRest true (sipUriCreate false)).run (libraryText domain) = some (url, rest) ∧
      id = url.withUser (stringBytes account, []) := by
  have noNul : NoNul account := by
    by_contra nul
    have admitted := plain.1 0 (zero_mem_of_nul nul)
    exact absurd admitted (by decide)
  obtain ⟨rest, reads, -⟩ := (parsedSip_iff _ (libraryText_id noNul domain) id).mp accepted
  have nonempty : stringBytes account ≠ [] := by
    intro empty
    -- Without a name the at sign stands where the user part should start.
    have fails : sipBody.run (atSign :: libraryText domain) = none := rfl
    rw [empty, List.nil_append, fails] at reads
    cases reads
  rw [sipBody, run_bind, sipUrlUser_plain nonempty plain.1, plain.2, Option.bind_some, sipUrlRest_withUser,
    Option.map_eq_some_iff] at reads
  obtain ⟨⟨url, left⟩, others, packed⟩ := reads
  exact ⟨url, left, others, (congrArg Prod.fst packed).symm⟩

end Id

section Accepted

theorem parsedSip_of_accepted {asNameAddr : Bool} {string : String} {text : List UInt8}
    (same : libraryText string = stringBytes "sip:" ++ text)
    (accepted : (parseNSString (callerOption asNameAddr) string).isSome) :
    ∃ url, parsedSip (callerOption asNameAddr) string = some url := by
  obtain ⟨parsed, reads⟩ := Option.isSome_iff_exists.mp accepted
  rw [parseNSString_eq, same, parseUri_eq_some_iff] at reads
  obtain ⟨rest, run, ends⟩ := reads
  rw [stringBytes, intParseUriOrNameAddr_sip, Option.map_eq_some_iff] at run
  obtain ⟨⟨url, left⟩, body, packed⟩ := run
  obtain ⟨-, rfl⟩ := Prod.mk.inj packed
  exact ⟨url, (parsedSip_iff asNameAddr same url).mpr ⟨left, body, ends⟩⟩

theorem libraryText_sip (string : String) : ∃ text, libraryText ("sip:" ++ string) = stringBytes "sip:" ++ text :=
  ⟨libraryText string, libraryText_alone string⟩

theorem slen_ne_zero_of_sip (string : String) : (Dispatch.PJUtil.PJStringWithString ("sip:" ++ string)).slen ≠ 0 := by
  intro empty
  have reads := (Dispatch.PjStr.read_eq_ok_iff _ _).mp (Dispatch.PJUtil.read_PJStringWithString ("sip:" ++ string))
  rw [empty] at reads
  have text := libraryText_alone string
  rw [aloneUri, libraryText, ← reads.2.2] at text
  have lengths := congrArg List.length text
  have four : (stringBytes "sip:").length = 4 := by decide
  simp only [Int.toNat_zero, List.take_zero, List.length_nil, List.length_append, four] at lengths
  omega

theorem accepted_uris {proxy : PjSIPProxy} {credentials : Credentials} {acc : AccIdentity}
    (accepted : initializeAccUris (proxy.accConfig credentials) = .ok acc) :
    ∃ id reg, parsedSip (callerOption true) (proxy.accConfig credentials).id = some id ∧
      parsedSip (callerOption false) (proxy.accConfig credentials).regUri = some reg := by
  obtain ⟨localPart, reg, localUri, regUri⟩ := initializeAccUris_parts accepted
  obtain ⟨idText, idSame⟩ := libraryText_sip (credentials.sipAccount ++ "@" ++ credentials.sipDomain)
  have idString : (proxy.accConfig credentials).id = "sip:" ++ (credentials.sipAccount ++ "@" ++ credentials.sipDomain) := by
    simp [PjSIPProxy.accConfig, String.append_assoc]
  rw [← idString] at idSame
  obtain ⟨id, idParsed⟩ := parsedSip_of_accepted idSame (accLocalUri_accepts localUri)
  have regString : (proxy.accConfig credentials).regUri = "sip:" ++ (credentials.sipDomain ++ ";transport=udp") := by
    simp [PjSIPProxy.accConfig, String.append_assoc]
  have given : (Dispatch.PJUtil.PJStringWithString (proxy.accConfig credentials).regUri).slen ≠ 0 := by
    rw [regString]
    exact slen_ne_zero_of_sip _
  obtain ⟨some, regParsed⟩ := accRegUri_accepts regUri given
  obtain ⟨regUrl, rfl⟩ := Option.isSome_iff_exists.mp some
  exact ⟨id, regUrl, idParsed, regParsed⟩

end Accepted

theorem hostPort_of_sipBody {text rest : List UInt8} {url : SipUri} (reads : sipBody.run text = some (url, rest)) :
    ((do
      let _ ← sipUrlUser (sipUriCreate false)
      intParseUriHostPort).run text).map Prod.fst = some (url.host, url.port) := by
  obtain ⟨named, left, user, others⟩ := run_bind_eq_some.mp reads
  rw [run_bind, user]
  exact sipUrlRest_hostPort others

/-- An account is registered as itself exactly when its name is plain and its domain reads alike
    in both strings. -/
theorem register_registers_identity_iff (proxy : PjSIPProxy) (credentials : Credentials)
    (accepted : ∃ acc, initializeAccUris (proxy.accConfig credentials) = .ok acc) :
    RegistersIdentity (proxy.accConfig credentials) credentials ↔
      PlainAccount credentials.sipAccount ∧ HostAtStart credentials.sipDomain ∧
        NoHeaderPart credentials.sipDomain ∧ AsksForUdp credentials.sipDomain := by
  constructor
  · intro ⟨id, reg, alone, idParsed, regParsed, aloneParsed, identity⟩
    have plain := plainAccount_of_user idParsed identity.user
    obtain ⟨url, rest, reads, rfl⟩ := id_of_plainAccount idParsed plain
    obtain ⟨other, left, body, otherParsed, -, udp⟩ := registrar_of_domain regParsed
    obtain rfl := Option.some.inj (otherParsed.symm.trans aloneParsed)
    refine ⟨plain, ?_, ?_, udp.mp identity.udp⟩
    · rw [HostAtStart, hostPort_of_sipBody body, sipUrlRest_hostPort reads, ← identity.hostPort]
      rfl
    · intro again behind readsAgain
      obtain ⟨rfl, -⟩ := Prod.mk.inj (Option.some.inj (readsAgain.symm.trans reads))
      exact identity.noHeaders
  · intro ⟨plain, host, bare, asks⟩
    obtain ⟨acc, accepted⟩ := accepted
    obtain ⟨id, reg, idParsed, regParsed⟩ := accepted_uris accepted
    obtain ⟨url, rest, reads, rfl⟩ := id_of_plainAccount idParsed plain
    obtain ⟨alone, left, body, aloneParsed, registrar, udp⟩ := registrar_of_domain regParsed
    have identity : IdentityOf credentials.sipAccount (url.withUser (stringBytes credentials.sipAccount, [])) reg alone :=
      { user := rfl
        noPasswd := rfl
        noHeaders := bare url rest reads
        hostPort := by
          rw [HostAtStart, hostPort_of_sipBody body, sipUrlRest_hostPort reads] at host
          exact (Option.some.inj host).symm
        registrar
        udp := udp.mpr asks }
    exact ⟨_, reg, alone, idParsed, regParsed, aloneParsed, identity⟩

def startedProxy : PjSIPProxy :=
  { transportIdUDP := 1, transportIdTCP := 0, transportIdTCP6 := 0, accountIds := [], pjsuaVar := initData }

def alice (sipAccount : String) : Credentials :=
  { sipAccount, sipDomain := "example.com:5080", realm := "example.com", username := "alice", password := "secret" }

theorem alice_registers_identity : RegistersIdentity (startedProxy.accConfig (alice "alice")) (alice "alice") := by
  have accepted : initializeAccUris (startedProxy.accConfig (alice "alice")) =
      .ok { display := [], userPart := stringBytes "alice", srvDomain := stringBytes "example.com",
            srvPort := 5080, isSips := false } := by
    decide +kernel
  have host : HostAtStart (alice "alice").sipDomain := hostAtStart_of_no_atSign (by decide)
  have bare : NoHeaderPart (alice "alice").sipDomain := by
    intro url rest reads
    have headers : ((sipUrlRest true (sipUriCreate false)).run (libraryText "example.com:5080")).map
        (fun read => read.1.headerParam) = some [] := by decide +kernel
    rw [show (alice "alice").sipDomain = "example.com:5080" from rfl] at reads
    rw [reads] at headers
    exact Option.some.inj headers
  have whole : ReadToEnd false (aloneUri (alice "alice").sipDomain) := by
    let url := { sipUriCreate false with host := stringBytes "example.com", port := 5080 }
    exact ⟨by decide, .bare (.sip url), by decide +kernel⟩
  exact (register_registers_identity_iff startedProxy (alice "alice") ⟨_, accepted⟩).mpr
    ⟨by decide, host, bare, .inl whole⟩

/-- A name with a colon is accepted, and what follows the colon becomes a password. -/
theorem colon_in_account_becomes_password :
    (∃ acc, initializeAccUris (startedProxy.accConfig (alice "alice:9")) = .ok acc) ∧
      ¬ RegistersIdentity (startedProxy.accConfig (alice "alice:9")) (alice "alice:9") := by
  constructor
  · let acc : AccIdentity :=
      { display := [], userPart := stringBytes "alice", srvDomain := stringBytes "example.com"
        srvPort := 5080, isSips := false }
    exact ⟨acc, by decide +kernel⟩
  · intro ⟨id, reg, alone, idParsed, _, _, identity⟩
    have plain := plainAccount_of_user idParsed identity.user
    exact absurd plain (by decide)

end TiSIP.Proxy
