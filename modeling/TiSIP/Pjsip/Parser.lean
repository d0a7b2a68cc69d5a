import TiSIP.Pjlib.Scanner
import TiSIP.Pjsua.Im

namespace TiSIP.Pjsip

open Pjlib
open Pjsua (stricmp)

structure SipParam where
  name : List UInt8
  value : List UInt8
  deriving DecidableEq

structure SipUri where
  sips : Bool
  user : List UInt8
  passwd : List UInt8
  host : List UInt8
  port : Int
  userParam : List UInt8
  methodParam : List UInt8
  transportParam : List UInt8
  ttlParam : Int
  lrParam : Bool
  maddrParam : List UInt8
  otherParam : List SipParam
  headerParam : List SipParam
  deriving DecidableEq

structure TelUri where
  number : List UInt8
  context : List UInt8
  extParam : List UInt8
  isubParam : List UInt8
  otherParam : List SipParam
  deriving DecidableEq

structure OtherUri where
  scheme : List UInt8
  content : List UInt8
  deriving DecidableEq

inductive Uri
  | sip (url : SipUri)
  | tel (uri : TelUri)
  | other (uri : OtherUri)
  deriving DecidableEq

structure NameAddr where
  display : List UInt8
  uri : Uri
  deriving DecidableEq

inductive ParsedUri
  | bare (uri : Uri)
  | named (address : NameAddr)
  deriving DecidableEq

def ParsedUri.getUri : ParsedUri → Uri
  | .bare uri => uri
  | .named address => address.uri

structure ParseOption where
  asNameAddr : Bool
  inFromToHdr : Bool
  deriving DecidableEq

section CharacterSpecs

def tokenSpec (byte : UInt8) : Bool := alnumSpec byte || inStr "-.!%*_`'~+" byte

def hostSpec (byte : UInt8) : Bool := alnumSpec byte || inStr "_-." byte

def mark (byte : UInt8) : Bool := inStr "-_.!~*'()" byte

def paramCharSpec (byte : UInt8) : Bool := alnumSpec byte || inStr "[]/:&+$" byte || mark byte || inStr "%" byte

def hdrCharSpec (byte : UInt8) : Bool := alnumSpec byte || inStr "[]/?:+$" byte || mark byte || inStr "%" byte

def userSpec (byte : UInt8) : Bool := alnumSpec byte || mark byte || inStr "%" byte || inStr "&=+$,;?/" byte

def userSpecLenient (byte : UInt8) : Bool := userSpec byte || inStr "#" byte

def passwdSpec (byte : UInt8) : Bool := alnumSpec byte || mark byte || inStr "%" byte || inStr "&=+$," byte

-- An inverted set still leaves out the terminator.
def probeUserHostSpec (byte : UInt8) : Bool := byte != 0 && !inStr "@ \n>" byte

def displaySpec (byte : UInt8) : Bool := byte != 0 && !inStr ":\r\n<" byte

def otherUriContent (byte : UInt8) : Bool := alnumSpec byte || inStr "#?;:@&=+-_.!~*'()%$,/" byte

def telNumberSpec (byte : UInt8) : Bool := isXdigit byte || inStr "*#-.()+" byte

def telUricSpec (byte : UInt8) : Bool := alnumSpec byte || inStr "/:@&$,+" byte || mark byte || inStr "%[]+" byte

def telPvalueSpec (byte : UInt8) : Bool := alnumSpec byte || inStr "[]/:&+$" byte || mark byte || inStr "%" byte

def telParsingPvalueSpec (byte : UInt8) : Bool := telUricSpec byte || telPvalueSpec byte || inStr "=" byte

end CharacterSpecs

def parserGetAndUnescape (spec : UInt8 → Bool) : PjScanner (List UInt8) := do
  let token ← scanGet spec
  pure (strUnescape token)

section SipUrl

def sipUriCreate (secure : Bool) : SipUri where
  sips := secure
  user := []
  passwd := []
  host := []
  port := 0
  userParam := []
  methodParam := []
  transportParam := []
  ttlParam := -1
  lrParam := false
  maddrParam := []
  otherParam := []
  headerParam := []

def intParseHost : PjScanner (List UInt8) := do
  if (← Scanner.current) = some leftBracket then
    let _ ← scanGetChar
    let host ← scanGetUntilCh rightBracket
    let _ ← scanGetChar
    pure host
  else scanGet hostSpec

def intParsePort : PjScanner Int := do
  if (← Scanner.current) = some colon then
    let _ ← scanGetChar
    let port ← scanGet isDigit
    pure (strtoulInt port)
  else pure 0

def intParseUriHostPort : PjScanner (List UInt8 × Int) := do
  let host ← intParseHost
  let port ← intParsePort
  pure (host, port)

def intIsNextUser : PjScanner Bool := do
  let peeked ← scanPeek probeUserHostSpec
  pure (peeked.2 == some atSign)

def intParsePasswd : PjScanner (List UInt8) := do
  if (← Scanner.current) = some colon then
    let _ ← scanGetChar
    parserGetAndUnescape passwdSpec
  else pure []

def intParseUserPass : PjScanner (List UInt8 × List UInt8) := do
  let user ← parserGetAndUnescape userSpecLenient
  let passwd ← intParsePasswd
  -- The character taken here as the at sign is not looked at.
  let _ ← scanGetChar
  pure (user, passwd)

def parseParamValue (spec : UInt8 → Bool) (removeQuote : Bool) : PjScanner (List UInt8) := do
  if ← scanIsEof then pure []
  else if (← Scanner.current) = some quotation then
    let quoted ← scanGetQuote
    pure (if removeQuote then quoted.tail.dropLast else quoted)
  else if (← Scanner.current).any spec then parserGetAndUnescape spec
  else pure []

def parseParamImp (spec : UInt8 → Bool) (removeQuote : Bool) : PjScanner SipParam := do
  let name ← parserGetAndUnescape spec
  if (← Scanner.current) = some equals then
    let _ ← scanGetChar
    let value ← parseParamValue spec removeQuote
    pure { name, value }
  else pure { name, value := [] }

def intParseUriParam (removeQuote : Bool) : PjScanner SipParam := do
  let _ ← scanGetChar
  parseParamImp paramCharSpec removeQuote

def intParseHvalue : PjScanner (List UInt8) := do
  if (← Scanner.current).any hdrCharSpec then parserGetAndUnescape hdrCharSpec
  else pure []

def intParseHparam : PjScanner SipParam := do
  let _ ← scanGetChar
  let name ← parserGetAndUnescape hdrCharSpec
  if (← Scanner.current) = some equals then
    let _ ← scanGetChar
    let value ← intParseHvalue
    pure { name, value }
  else pure { name, value := [] }

def SipUri.setParam (url : SipUri) (param : SipParam) : SipUri :=
  if stricmp param.name "user" && param.value ≠ [] then { url with userParam := param.value }
  else if stricmp param.name "method" && param.value ≠ [] then { url with methodParam := param.value }
  else if stricmp param.name "transport" && param.value ≠ [] then { url with transportParam := param.value }
  else if stricmp param.name "ttl" && param.value ≠ [] then { url with ttlParam := strtoulInt param.value }
  else if stricmp param.name "maddr" && param.value ≠ [] then { url with maddrParam := param.value }
  else if stricmp param.name "lr" then { url with lrParam := true }
  else { url with otherParam := url.otherParam ++ [param] }

def sipUrlScheme : PjScanner SipUri := do
  let scheme ← scanGet tokenSpec
  let next ← scanGetChar
  if next = colon then
    if stricmp scheme "sip" then pure (sipUriCreate false)
    else if stricmp scheme "sips" then pure (sipUriCreate true)
    else failure
  else failure

def sipUrlUser (url : SipUri) : PjScanner SipUri := do
  if ← intIsNextUser then
    let userPass ← intParseUserPass
    pure { url with user := userPass.1, passwd := userPass.2 }
  else pure url

def sipUrlHostPort (url : SipUri) : PjScanner SipUri := do
  let hostPort ← intParseUriHostPort
  pure { url with host := hostPort.1, port := hostPort.2 }

def sipUrlParam (url : SipUri) : PjScanner SipUri := do
  let param ← intParseUriParam false
  pure (url.setParam param)

def sipUrlParams (parseParams : Bool) (url : SipUri) : PjScanner SipUri :=
  if parseParams then Scanner.whileNext semicolon sipUrlParam url else pure url

def sipUrlHeader (url : SipUri) : PjScanner SipUri := do
  let param ← intParseHparam
  pure { url with headerParam := url.headerParam ++ [param] }

def sipUrlHeaders (parseParams : Bool) (url : SipUri) : PjScanner SipUri :=
  if parseParams then do
    if (← Scanner.current) = some question then
      let first ← sipUrlHeader url
      Scanner.whileNext ampersand sipUrlHeader first
    else pure url
  else pure url

def sipUrlRest (parseParams : Bool) (url : SipUri) : PjScanner SipUri := do
  let url ← sipUrlHostPort url
  let url ← sipUrlParams parseParams url
  let url ← sipUrlHeaders parseParams url
  scanSkipWhitespace
  pure url

def intParseSipUrl (parseParams : Bool) : PjScanner SipUri := do
  let url ← sipUrlScheme
  let url ← sipUrlUser url
  sipUrlRest parseParams url

end SipUrl

section OtherUris

def intParseOtherUri : PjScanner OtherUri := do
  let scheme ← scanGet tokenSpec
  let next ← scanGetChar
  if next = colon then
    let content ← scanGet otherUriContent
    pure { scheme, content }
  else failure

def TelUri.setParam (uri : TelUri) (param : SipParam) : TelUri :=
  if stricmp param.name "isub" then { uri with isubParam := param.value }
  else if stricmp param.name "ext" then { uri with extParam := param.value }
  else if stricmp param.name "phone-context" then { uri with context := param.value }
  else { uri with otherParam := uri.otherParam ++ [param] }

def telUriParam (uri : TelUri) : PjScanner TelUri := do
  let _ ← scanGetChar
  let name ← scanGet paramCharSpec
  if (← Scanner.current) = some equals then
    let _ ← scanGetChar
    let value ← parserGetAndUnescape telParsingPvalueSpec
    pure (uri.setParam { name, value })
  else pure (uri.setParam { name, value := [] })

def telUriParse (parseParams : Bool) : PjScanner TelUri := do
  let scheme ← scanGet tokenSpec
  let next ← scanGetChar
  if next = colon && stricmp scheme "tel" then
    let number ← parserGetAndUnescape telNumberSpec
    let created : TelUri := { number, context := [], extParam := [], isubParam := [], otherParam := [] }
    let uri ← if parseParams then Scanner.whileNext semicolon telUriParam created else pure created
    scanSkipWhitespace
    pure uri
  else failure

end OtherUris

inductive UriHandler
  | sipUrl
  | telUri
  | otherUri
  deriving DecidableEq

def UriHandler.parse (parseParams : Bool) : UriHandler → PjScanner Uri
  | .sipUrl => do
    let url ← intParseSipUrl parseParams
    pure (.sip url)
  | .telUri => do
    let uri ← telUriParse parseParams
    pure (.tel uri)
  | .otherUri => do
    let uri ← intParseOtherUri
    pure (.other uri)

-- The table in the order of registration: the parser registers two schemes, and the endpoint "tel".
def findUriHandler (scheme : List UInt8) : UriHandler :=
  if stricmp scheme "sip" || stricmp scheme "sips" then .sipUrl
  else if stricmp scheme "tel" then .telUri
  else .otherUri

def intParseUri (parseParams : Bool) : PjScanner Uri := do
  let peeked ← scanPeek tokenSpec
  if peeked.2 = some colon then (findUriHandler peeked.1).parse parseParams
  else failure

def intParseDisplay : PjScanner (List UInt8) := do
  if (← Scanner.current) = some quotation then
    let quoted ← scanGetQuote
    pure quoted.tail.dropLast
  else if (← Scanner.current) = some less then pure []
  else
    let peeked ← scanPeek displaySpec
    if peeked.2 = some less then
      let display ← scanGetUntilCh less
      pure (strTrim display)
    else pure []

def intParseBracketed (display : List UInt8) : PjScanner NameAddr := do
  let _ ← scanGetChar
  let uri ← intParseUri true
  let next ← scanGetChar
  if next = greater then pure { display, uri } else failure

def intParseNameAddr : PjScanner NameAddr := do
  let display ← intParseDisplay
  scanSkipWhitespace
  if (← Scanner.current) = some less then intParseBracketed display
  else if display ≠ [] then failure
  else
    let uri ← intParseUri true
    pure { display, uri }

def asParsed (option : ParseOption) (uri : Uri) : ParsedUri :=
  if option.asNameAddr then .named { display := [], uri } else .bare uri

def intParseUriOrNameAddr (option : ParseOption) : PjScanner ParsedUri := do
  scanSkipWhitespace
  let next ← Scanner.current
  if next = some quotation ∨ next = some less then
    let nameAddr ← intParseNameAddr
    pure (.named nameAddr)
  else
    let peeked ← scanPeek displaySpec
    if peeked.2 = some colon then
      let uri ← (findUriHandler peeked.1).parse (!option.inFromToHdr)
      pure (asParsed option uri)
    else
      let nameAddr ← intParseNameAddr
      pure (.named nameAddr)

def parseUri (option : ParseOption) (text : List UInt8) : Option ParsedUri :=
  match (intParseUriOrNameAddr option).run text with
  | none => none
  | some (uri, rest) => if rest.isEmpty || rest.head?.any isNewline then some uri else none

end TiSIP.Pjsip
