import EndpointResolution.Url.Address
import EndpointResolution.Url.Path

/-!
Web addresses: the absolute addresses with the schemes `http` and `https`, and a parser of them.
-/
namespace EndpointResolution.Url

/-- The scheme of a web address. -/
inductive Scheme where
  | http
  | https
  deriving DecidableEq, Repr

/-- The name of a scheme. -/
def Scheme.display : Scheme → String
  | .http => "http"
  | .https => "https"

/-- The port that an address with the scheme means if it names none. -/
def Scheme.defaultPort : Scheme → Nat
  | .http => 80
  | .https => 443

/-- A web address, as far as endpoints are concerned. The port is absent where it is the default
one, and of the query only its presence counts. -/
structure WebAddress where
  scheme : Scheme
  host : Host
  port : Option Nat
  path : List Char
  hasQuery : Bool
  deriving DecidableEq, Repr

namespace WebAddress

/-- The host and the port. -/
def authority (address : WebAddress) : List Char :=
  address.host.display ++ match address.port with
    | some port => ':' :: Text.writeDigits port
    | none => []

/-- The text without controls and spaces at the ends, and without tabs and line breaks. -/
def cleaned (text : List Char) : List Char :=
  let isEdge := fun c : Char => decide (c.toNat ≤ 0x20)
  let trimmed := ((text.dropWhile isEdge).reverse.dropWhile isEdge).reverse
  trimmed.filter fun c => !(c == '\t' || c == '\n' || c == '\r')

/-- The character may stand in the name of a scheme. -/
def isSchemeChar (c : Char) : Bool :=
  c.isAlphanum || c == '+' || c == '-' || c == '.'

/-- Reads the scheme and returns what follows its colon. -/
def readScheme (text : List Char) : Option (Scheme × List Char) :=
  match text.dropWhile isSchemeChar with
  | ':' :: rest =>
    let name := String.ofList ((text.takeWhile isSchemeChar).map Char.toLower)
    if name = "http" then some (.http, rest)
    else if name = "https" then some (.https, rest)
    else none
  | _ => none

/-- The character is a slash of either direction. -/
def isSlash (c : Char) : Bool :=
  c == '/' || c == '\\'

/-- The character ends the path. -/
def endsPath (c : Char) : Bool :=
  c == '?' || c == '#'

/-- What follows the last `@`, or the whole text if there is none. -/
def afterUserInfo (text : List Char) : List Char :=
  (text.reverse.takeWhile (· != '@')).reverse

/-- Splits a host from the colon and the port after it. Colons in brackets belong to the host. -/
def splitPort (inBrackets : Bool) : List Char → List Char × List Char
  | [] => ([], [])
  | c :: rest =>
    if c = ':' ∧ !inBrackets then ([], c :: rest)
    else
      let inside := if c = '[' then true else if c = ']' then false else inBrackets
      let (host, port) := splitPort inside rest
      (c :: host, port)

/-- Reads a port after its colon. Without digits and for the default port there is none. -/
def readPort (scheme : Scheme) (text : List Char) : Option (Option Nat) :=
  match text with
  | [] => some none
  | _ :: [] => some none
  | _ :: digits =>
    match Text.readDigits digits with
    | none => none
    | some port =>
      if 65536 ≤ port then none
      else some (if port = scheme.defaultPort then none else some port)

/-- The parts that the text of an address is cut into. Of the query only its presence counts. -/
structure Cut where
  scheme : Scheme
  host : List Char
  port : List Char
  path : List Char
  hasQuery : Bool
  deriving DecidableEq, Repr

/-- The character ends the host and the port. -/
def endsAuthority (c : Char) : Bool :=
  isSlash c || endsPath c

/-- Cuts what follows the scheme. The number of slashes before the host is free. -/
def Cut.afterScheme (scheme : Scheme) (text : List Char) : Cut :=
  let relative := text.dropWhile isSlash
  let (host, port) :=
    splitPort false (afterUserInfo (relative.takeWhile fun c => !endsAuthority c))
  let afterAuthority := relative.dropWhile fun c => !endsAuthority c
  let afterPath := afterAuthority.dropWhile fun c => !endsPath c
  { scheme := scheme
    host := host
    port := port
    path := afterAuthority.takeWhile fun c => !endsPath c
    hasQuery := afterPath.head? == some '?' }

/-- Cuts a text into the parts of an address. -/
def cut? (text : String) : Option Cut :=
  (readScheme (cleaned text.toList)).map fun (scheme, rest) => Cut.afterScheme scheme rest

/-- Reads the parts of an address. -/
def Cut.read (cut : Cut) : Option WebAddress := do
  let host ← if cut.host.isEmpty then none else Host.parse cut.host
  let port ← readPort cut.scheme cut.port
  return {
    scheme := cut.scheme
    host := host
    port := port
    path := Path.normalize cut.path
    hasQuery := cut.hasQuery }

/-- Reads an address. -/
def parse (text : String) : Option WebAddress := do
  let cut ← cut? text
  cut.read

/-- What is reported of a web address. -/
def report (address : WebAddress) : Address where
  scheme := address.scheme.display
  host := some address.host
  authority := address.authority
  path := address.path
  hasQuery := address.hasQuery

/-- The parser that reports web addresses and nothing else. -/
def parser : Parser := fun text => (parse text).map report

end WebAddress
end EndpointResolution.Url
