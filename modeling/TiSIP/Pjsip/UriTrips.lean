import TiSIP.Pjsip.UriRoundTrip

namespace TiSIP.Pjsip

open Pjlib Scanner Printer
open BytewiseDecoder (utf8)

variable {cfg : UriPrintCfg} {context : UriContext} {url : SipUri} {display : List UInt8}

section Url

theorem yields_urlPrint (range : url.InRange) : Yields (urlPrint cfg context url) (urlText cfg context url) 9 := by
  have asks : AllAsk 9 (urlPieces cfg context url) :=
    urlPieces_ask (by omega) (fun _ => by omega) fun _ => le_rfl
  have text : Yields (urlPrintText cfg context url) (urlText cfg context url) 9 :=
    (prints_urlText range).yields fun piece member => (asks piece member).1
  have terminator : Yields (touch 1 : Printer UInt8 Unit) [] 9 := (Yields.touch 1).mono (by omega)
  have whole := terminator.bind (text.bind terminator)
  rwa [List.nil_append, List.append_nil] at whole

theorem parse_printed (printable : url.Printable) {option : ParseOption} (params : option.inFromToHdr = false)
    {size : Nat} {sheet : Sheet UInt8} (printed : (urlPrint cfg context url).run (Sheet.blank size) = .ok ((), sheet)) :
    parseUri option sheet.printed = some (asParsed option (.sip (url.arrives cfg context))) := by
  have only := (yields_urlPrint printable.range).only _ _ printed
  rw [only]
  exact parse_urlText printable params

/-- Whatever the size of the buffer, a URL that is printed is read back as what its context lets through, with its
    escapes resolved; nine bytes to spare are enough for it to be printed, and where nothing has to be left out it
    comes back as it was exactly when no text in it reads as an escape. -/
theorem url_round_trip (printable : url.Printable) {option : ParseOption} (params : option.inFromToHdr = false) :
    (∀ size sheet, (urlPrint cfg context url).run (Sheet.blank size) = .ok ((), sheet) →
      parseUri option sheet.printed = some (asParsed option (.sip (url.arrives cfg context)))) ∧
    (∀ size, (urlText cfg context url).length + 9 ≤ size →
      ∃ sheet, (urlPrint cfg context url).run (Sheet.blank size) = .ok ((), sheet)) ∧
    (url.arrives cfg .inOther = url ↔ url.Settled) := by
  refine ⟨fun size sheet printed => ?_, fun size enough => ?_, arrives_inOther_iff⟩
  · exact parse_printed printable params printed
  · have yields : Yields (urlPrint cfg context url) (urlText cfg context url) 9 := yields_urlPrint printable.range
    exact ⟨_, yields.enough (Sheet.blank size) enough⟩

def conferenceRoom : SipUri :=
  { sipUriCreate true with
    user := utf8 "room;1 @work".toList
    passwd := utf8 "p:w".toList
    host := utf8 "2001:db8::9".toList
    port := 5061
    transportParam := utf8 "tcp".toList
    ttlParam := 15
    lrParam := true
    otherParam := [{ name := utf8 "x=y".toList, value := utf8 "\"a;b\"".toList }]
    headerParam := [{ name := utf8 "subject".toList, value := utf8 "a & b".toList }] }

theorem conferenceRoom_printable : conferenceRoom.Printable where
  range := by decide
  host := ⟨by decide +kernel, by decide +kernel, by decide +kernel⟩
  userParam := by decide +kernel
  maddrParam := by decide
  otherNamed := by decide
  otherQuoted := by decide
  other := by decide
  headerNamed := by decide
  headerUnquoted := by decide

theorem conferenceRoom_settled : conferenceRoom.Settled where
  texts := by decide
  passwd := by decide
  ttlParam := by decide
  maddrParam := by decide
  otherParam := by decide
  headerParam := by decide

theorem conferenceRoom_returns :
    ∃ sheet, (urlPrint defaultUriPrintCfg .inOther conferenceRoom).run (Sheet.blank 256) = .ok ((), sheet) ∧
      parseUri (callerOption false) sheet.printed = some (.bare (.sip conferenceRoom)) := by
  have trip := @url_round_trip defaultUriPrintCfg .inOther _ conferenceRoom_printable (callerOption false) rfl
  obtain ⟨sheet, printed⟩ := trip.2.1 256 (by decide +kernel)
  have back := trip.1 256 sheet printed
  rw [trip.2.2.mpr conferenceRoom_settled] at back
  exact ⟨sheet, printed, back⟩

end Url

section NameAddr

def openingPieces (context : UriContext) (display : List UInt8) : Pieces :=
  if context ≠ .inReqUri then
    (if display ≠ [] then [guarded [quotation], guarded display, guarded [quotation], guarded [space]] else []) ++
      [guarded [less]]
  else []

def closingPieces (context : UriContext) : Pieces := if context ≠ .inReqUri then [guarded [greater]] else []

def nameAddrText (cfg : UriPrintCfg) (context : UriContext) (display : List UInt8) (url : SipUri) : List UInt8 :=
  textOf (openingPieces context display) ++ (urlText cfg context url ++ textOf (closingPieces context))

theorem prints_display :
    Prints (nameAddrPrintDisplay display)
      (if display ≠ [] then [guarded [quotation], guarded display, guarded [quotation], guarded [space]] else []) := by
  apply Prints.ite
  · have parts := (prints_charCheck quotation).bind ((prints_check display).bind
      ((prints_charCheck quotation).bind (prints_charCheck space)))
    intro sheet
    rw [run_bind_room]
    by_cases short : sheet.room < display.length + 3
    · rw [if_pos short, run_refuse, if_neg]
      intro fits
      have within := fits.length_le
      simp [guarded] at within
      omega
    · rw [if_neg short]
      exact parts sheet
  · exact Prints.done

theorem prints_opening : Prints (nameAddrPrintOpening context display) (openingPieces context display) :=
  (prints_display.bind (prints_charCheck less)).ite Prints.done

theorem prints_closing : Prints (nameAddrPrintClosing context) (closingPieces context) :=
  (prints_charCheck greater).ite Prints.done

theorem allAsk_opening : AllAsk 9 (openingPieces context display) := by
  have one : ∀ text : List UInt8, Asks 9 (guarded text) := asks_guarded (by omega)
  apply AllAsk.ite _ AllAsk.nil
  intro _
  apply AllAsk.append _ (AllAsk.nil.cons (one _))
  exact AllAsk.ite (fun _ => (((AllAsk.nil.cons (one _)).cons (one _)).cons (one _)).cons (one _)) AllAsk.nil

theorem yields_nameAddrPrint (range : url.InRange) :
    Yields (nameAddrPrint cfg context display url) (nameAddrText cfg context display url) 9 := by
  have closing : AllAsk 9 (closingPieces context) :=
    AllAsk.ite (fun _ => AllAsk.nil.cons (asks_guarded (by omega) _)) AllAsk.nil
  have terminator : Yields (touch 1 : Printer UInt8 Unit) [] 9 := (Yields.touch 1).mono (by omega)
  have opens : Yields (nameAddrPrintOpening context display) (textOf (openingPieces context display)) 9 :=
    prints_opening.yields fun piece member => (allAsk_opening piece member).1
  have closes : Yields (nameAddrPrintClosing context) (textOf (closingPieces context)) 9 :=
    prints_closing.yields fun piece member => (closing piece member).1
  have inside : Yields (urlPrint cfg context url) (urlText cfg context url) 9 := yields_urlPrint range
  have whole := opens.bind (inside.bind (closes.bind terminator))
  rwa [List.append_nil] at whole

theorem reads_uri (printable : url.Printable) :
    Reads (intParseUri true) (urlText cfg context url) (.sip (url.arrives cfg context)) (Follows [greater]) := by
  intro rest follows
  have reads : (intParseSipUrl true).run (urlText cfg context url ++ rest) = _ := reads_urlText printable rest follows
  rw [urlText_eq printable, List.append_assoc] at reads ⊢
  rw [run_intParseUri, reads]
  rfl

theorem reads_bracketed (printable : url.Printable) (display : List UInt8) :
    Reads (intParseBracketed display) ([less] ++ (urlText cfg context url ++ [greater]))
      { display, uri := .sip (url.arrives cfg context) } fun _ => True := by
  have opens : Reads scanGetChar [less] less fun _ => True := Reads.item (by decide)
  have uri : Reads (intParseUri true) (urlText cfg context url) (.sip (url.arrives cfg context)) (Follows [greater]) :=
    reads_uri printable
  have closes : Reads (do let next ← scanGetChar
                          if next = greater then
                            pure ({ display, uri := .sip (url.arrives cfg context) } : NameAddr)
                          else failure : PjScanner NameAddr) [greater]
      { display, uri := .sip (url.arrives cfg context) } fun _ => True := fun _ _ => rfl
  exact opens.bind (uri.bind closes fun rest _ => follows_cons (by simp)) fun _ _ => trivial

theorem run_nameAddr (named : display ≠ [] → Quoted (quotation :: (display ++ [quotation])))
    (allowed : context ≠ .inReqUri) (rest : List UInt8) :
    intParseNameAddr.run (textOf (openingPieces context display) ++ rest) =
      (intParseBracketed display).run (less :: rest) := by
  unfold openingPieces
  rw [if_pos allowed]
  by_cases absent : display = []
  · rw [if_neg (by simpa using absent), absent]
    rfl
  · have quoted := named absent
    have shape : textOf ((if display ≠ [] then
        [guarded [quotation], guarded display, guarded [quotation], guarded [space]] else []) ++ [guarded [less]]) ++
          rest = quotation :: (display ++ [quotation]) ++ space :: less :: rest := by
      simp [absent, guarded]
    have name : Reads intParseDisplay (quotation :: (display ++ [quotation])) display fun _ => True := by
      have unquoted : (quotation :: (display ++ [quotation])).tail.dropLast = display := by simp
      have quote : Reads scanGetQuote (quotation :: (display ++ [quotation])) (quotation :: (display ++ [quotation]))
          fun _ => True := reads_quote quoted
      have reads := quote.thenPure fun text => text.tail.dropLast
      rw [unquoted] at reads
      exact Reads.ifNext rfl reads
    rw [shape, intParseNameAddr, Scanner.run_bind, name _ trivial, Option.bind_some]
    rfl

theorem parse_nameAddrText (printable : url.Printable)
    (named : display ≠ [] → Quoted (quotation :: (display ++ [quotation]))) (allowed : context ≠ .inReqUri)
    (option : ParseOption) :
    parseUri option (nameAddrText cfg context display url) =
      some (.named { display, uri := .sip (url.arrives cfg context) }) := by
  have closing : textOf (closingPieces context) = [greater] := by
    simp [closingPieces, allowed, guarded]
  have starts : ∃ byte, (nameAddrText cfg context display url).head? = some byte ∧ (byte = quotation ∨ byte = less) := by
    unfold nameAddrText openingPieces
    by_cases absent : display = []
    · exact ⟨less, by simp [absent, allowed, guarded], .inr rfl⟩
    · exact ⟨quotation, by simp [absent, allowed, guarded], .inl rfl⟩
  have bracketed : Reads (intParseBracketed display) ([less] ++ (urlText cfg context url ++ [greater]))
      { display, uri := .sip (url.arrives cfg context) } fun _ => True := reads_bracketed printable display
  have reads : intParseNameAddr.run (nameAddrText cfg context display url) =
      some ({ display, uri := .sip (url.arrives cfg context) }, []) := by
    have inside := bracketed [] trivial
    rw [List.append_nil] at inside
    rw [nameAddrText, closing, run_nameAddr named allowed]
    exact inside
  obtain ⟨byte, head, isOpening⟩ := starts
  have solid : (byte == space || byte == tab) = false := by
    rcases isOpening with rfl | rfl <;> decide
  have chosen : some byte = some quotation ∨ some byte = some less := by
    rcases isOpening with rfl | rfl
    · exact .inl rfl
    · exact .inr rfl
  unfold parseUri
  rw [intParseUriOrNameAddr, Scanner.run_bind, skipWhitespace_of_head head solid, Option.bind_some,
    Scanner.run_bind, run_current, Option.bind_some, head, if_pos chosen, Scanner.run_bind, reads]
  rfl

/-- Whatever the size of the buffer, a name-addr that is printed outside a request line is read back with its
    display name and with what the context lets through of its URL, whatever the parser is asked for. -/
theorem nameAddr_round_trip (printable : url.Printable)
    (named : display ≠ [] → Quoted (quotation :: (display ++ [quotation]))) (allowed : context ≠ .inReqUri)
    (option : ParseOption) :
    (∀ size sheet, (nameAddrPrint cfg context display url).run (Sheet.blank size) = .ok ((), sheet) →
      parseUri option sheet.printed = some (.named { display, uri := .sip (url.arrives cfg context) })) ∧
    ∀ size, (nameAddrText cfg context display url).length + 9 ≤ size →
      ∃ sheet, (nameAddrPrint cfg context display url).run (Sheet.blank size) = .ok ((), sheet) := by
  have yields : Yields (nameAddrPrint cfg context display url) (nameAddrText cfg context display url) 9 :=
    yields_nameAddrPrint printable.range
  refine ⟨fun size sheet printed => ?_, fun size enough => ⟨_, yields.enough (Sheet.blank size) enough⟩⟩
  rw [yields.only _ _ printed]
  exact parse_nameAddrText printable named allowed option

def headerOption : ParseOption := { asNameAddr := true, inFromToHdr := true }

theorem conferenceRoom_named :
    ∃ sheet, (nameAddrPrint defaultUriPrintCfg .inContactHdr (utf8 "Room 1".toList) conferenceRoom).run
        (Sheet.blank 256) = .ok ((), sheet) ∧
      parseUri headerOption sheet.printed =
        some (.named { display := utf8 "Room 1".toList,
                       uri := .sip (conferenceRoom.arrives defaultUriPrintCfg .inContactHdr) }) := by
  have trip := @nameAddr_round_trip defaultUriPrintCfg .inContactHdr _ (utf8 "Room 1".toList)
    conferenceRoom_printable (fun _ => by decide) (by decide) headerOption
  obtain ⟨sheet, printed⟩ := trip.2 256 (by decide +kernel)
  exact ⟨sheet, printed, trip.1 256 sheet printed⟩

end NameAddr

end TiSIP.Pjsip
