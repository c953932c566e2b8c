import EndpointResolution.Fields
import EndpointResolution.Json.Number

/-!
JSON documents and their compact text.
-/
namespace EndpointResolution

/-- A JSON document. The members of an object ascend by name. -/
inductive Json where
  | null
  | boolean (value : Bool)
  | number (value : JsonNumber)
  | string (text : String)
  | array (items : List Json)
  | object (members : List (String × Json))
  deriving Inhabited

namespace Json

/-- The kind of a document in messages. -/
def kind : Json → String
  | .null => "null"
  | .boolean _ => "boolean"
  | .number _ => "number"
  | .string _ => "string"
  | .array _ => "array"
  | .object _ => "object"

/-- A character inside a string literal: the quote, the backslash and the controls are escaped,
by a letter where there is one. -/
def escapedChar (c : Char) : List Char :=
  match c with
  | '"' => ['\\', '"']
  | '\\' => ['\\', '\\']
  | '\x08' => ['\\', 'b']
  | '\x0c' => ['\\', 'f']
  | '\n' => ['\\', 'n']
  | '\r' => ['\\', 'r']
  | '\t' => ['\\', 't']
  | c =>
    if c.toNat < 0x20 then
      ['\\', 'u', '0', '0', Text.lowerHexDigit (c.toNat / 16), Text.lowerHexDigit (c.toNat % 16)]
    else [c]

/-- The string literal of a text. -/
def stringLiteral (text : String) : String :=
  String.ofList (['"'] ++ text.toList.flatMap escapedChar ++ ['"'])

/-- The text of an array, from the texts of its items. -/
def arrayText (items : List String) : String :=
  "[" ++ ",".intercalate items ++ "]"

/-- The text of one member of an object. -/
def memberText (name value : String) : String :=
  stringLiteral name ++ ":" ++ value

/-- The text of an object, from the texts of its members. -/
def objectText (members : List String) : String :=
  "\x7b" ++ ",".intercalate members ++ "\x7d"

mutual

/-- The text of a document without spaces. -/
def compact : Json → String
  | .null => "null"
  | .boolean value => if value then "true" else "false"
  | .number value => value.display
  | .string text => stringLiteral text
  | .array items => arrayText (compactItems items)
  | .object members => objectText (compactMembers members)

/-- The texts of documents. -/
def compactItems : List Json → List String
  | [] => []
  | item :: rest => item.compact :: compactItems rest

/-- The texts of members. -/
def compactMembers : List (String × Json) → List String
  | [] => []
  | (name, value) :: rest => memberText name value.compact :: compactMembers rest

end

end Json
end EndpointResolution
