import EndpointResolution.Function.Basic
import EndpointResolution.Text.WhiteSpace
import EndpointResolution.Url.Basic

/-!
The function that takes a web address apart. It works with any parser of addresses.
-/
namespace EndpointResolution.Function

/-- What follows the first `://` in a text. -/
def afterSchemeMark? : List Char → Option (List Char)
  | ':' :: '/' :: '/' :: rest => some rest
  | _ :: rest => afterSchemeMark? rest
  | [] => none

/-- The text of an address writes a path down: there is a slash after the scheme mark and before
the fragment. -/
def writesPath (text : List Char) : Bool :=
  match afterSchemeMark? text with
  | none => false
  | some rest => (rest.takeWhile (· != '#')).contains '/'

/-- The path with a slash at both ends. Where there is nothing but white space, it is a slash. -/
def normalizedPath (path : List Char) : List Char :=
  if path.all Text.isWhiteSpace then ['/']
  else
    let start := if path.head? = some '/' then [] else ['/']
    let ending := if path.getLast? = some '/' then [] else ['/']
    start ++ path ++ ending

/-- The parts of a web address without a query, in ascending order of their names. The path is empty
where the text of the address writes none. -/
def urlPartsWith? (parse : Url.Parser) (text : String) : Option (Fields Value) := do
  let address ← parse text
  if !address.isWeb || address.hasQuery then none
  else
    let host ← address.host
    let path := if writesPath text.toList then address.path else []
    return [
      ("authority", .string (String.ofList address.authority)),
      ("isIp", .boolean host.isIp),
      ("normalizedPath", .string (String.ofList (normalizedPath path))),
      ("path", .string (String.ofList path)),
      ("scheme", .string address.scheme)]

/-- The type of the parts of a web address. -/
def urlTy : Ty :=
  .record [("authority", .string), ("isIp", .boolean), ("normalizedPath", .string),
    ("path", .string), ("scheme", .string)]

/-- The parts of a web address, or the empty value if the text is not one or has a query. -/
def parseUrlWith (parse : Url.Parser) : Function :=
  unary "parseUrl" .string (.optional urlTy) fun value => do
    let text ← value.expectString
    return match urlPartsWith? parse text with
      | some parts => .record parts
      | none => .empty

/-- The parts of what this library reads as a web address. -/
def urlParts? : String → Option (Fields Value) :=
  urlPartsWith? Url.WebAddress.parser

/-- The function with the parser of this library. -/
def parseUrl : Function :=
  parseUrlWith Url.WebAddress.parser

end EndpointResolution.Function
