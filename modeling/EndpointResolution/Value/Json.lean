import EndpointResolution.Json.Basic
import EndpointResolution.Ty.Basic
import EndpointResolution.Value.Basic

/-!
Values as JSON. Encoding loses the difference between an endpoint and a record of its parts;
decoding is guided by the type that is asked for.
-/
namespace EndpointResolution.Value

/-- The headers of an endpoint as JSON. -/
def headersToJson (headers : Fields (List String)) : Json :=
  .object (Fields.mapValues (fun values => .array (values.map .string)) headers)

/-- The members of an endpoint: its headers, its properties and its address, where there are any
headers and properties. -/
def endpointMembers (url : String) (headers : Fields (List String)) (properties : Fields Json) :
    Fields Json :=
  (if headers.isEmpty then [] else [("headers", headersToJson headers)])
    ++ (if properties.isEmpty then [] else [("properties", .object properties)])
    ++ [("url", .string url)]

mutual

/-- The JSON document of a value, with `null` for the empty value. -/
def toJson : Value → Json
  | .string text => .string text
  | .boolean truth => .boolean truth
  | .integer number => .number (.integer number)
  | .array items => .array (itemsToJson items)
  | .record fields => .object (fieldsToJson fields)
  | .endpoint url headers properties =>
    .object (endpointMembers url headers (fieldsToJson properties))
  | .empty => .null

/-- The documents of values. -/
def itemsToJson : List Value → List Json
  | [] => []
  | item :: rest => item.toJson :: itemsToJson rest

/-- The members for fields. -/
def fieldsToJson : List (String × Value) → List (String × Json)
  | [] => []
  | (name, value) :: rest => (name, value.toJson) :: fieldsToJson rest

end

/-- The texts of the members of an endpoint: its address, and then its headers and its properties,
each left out if there are none. -/
def endpointMemberTexts (url : String) (headers : Fields (List String))
    (properties : List String) : List String :=
  [Json.memberText "url" (Json.stringLiteral url)]
    ++ (if headers.isEmpty then [] else [Json.memberText "headers" (headersToJson headers).compact])
    ++ if properties.isEmpty then []
      else [Json.memberText "properties" (Json.objectText properties)]

mutual

/-- The compact JSON text of a value. It is that of `toJson`, but for the order of the members of
an endpoint. -/
def serialize : Value → String
  | .string text => Json.stringLiteral text
  | .boolean truth => if truth then "true" else "false"
  | .integer number => toString number.toInt
  | .array items => Json.arrayText (serializeItems items)
  | .record fields => Json.objectText (serializeFields fields)
  | .endpoint url headers properties =>
    Json.objectText (endpointMemberTexts url headers (serializeFields properties))
  | .empty => "null"

/-- The texts of values. -/
def serializeItems : List Value → List String
  | [] => []
  | item :: rest => item.serialize :: serializeItems rest

/-- The texts of the members for fields. -/
def serializeFields : List (String × Value) → List String
  | [] => []
  | (name, value) :: rest => Json.memberText name value.serialize :: serializeFields rest

end

mutual

/-- The value of a document that nothing is asked of. A number that is no 64-bit integer becomes
its text. -/
def ofUntypedJson : Json → Value
  | .null => .empty
  | .boolean truth => .boolean truth
  | .number (.integer number) => .integer number
  | .number other => .string other.display
  | .string text => .string text
  | .array items => .array (ofUntypedItems items)
  | .object members => .record (ofUntypedMembers members)

/-- The values of documents. -/
def ofUntypedItems : List Json → List Value
  | [] => []
  | item :: rest => ofUntypedJson item :: ofUntypedItems rest

/-- The fields for members. -/
def ofUntypedMembers : List (String × Json) → List (String × Value)
  | [] => []
  | (name, value) :: rest => (name, ofUntypedJson value) :: ofUntypedMembers rest

end

/-- The failure of a document to be of the type that is asked for. -/
def jsonMismatch (ty : Ty) (json : Json) : EvaluationError :=
  .unexpectedValue ty.display json.kind

mutual

/-- The value of a document under a type. Only an optional type and `Any` take `null`, and members
that the type does not declare are passed over. -/
def ofJson : Ty → Json → Except EvaluationError Value
  | .optional inner, json =>
    match json with
    | .null => .ok .empty
    | other => ofJson inner other
  | .string, .string text => .ok (.string text)
  | .boolean, .boolean truth => .ok (.boolean truth)
  | .integer, .number (.integer number) => .ok (.integer number)
  | .array element, .array items => (items.mapM (ofJson element)).map .array
  | .record declared, .object members => (ofJsonFields declared members).map .record
  | .any, json => .ok (ofUntypedJson json)
  | ty, json => .error (jsonMismatch ty json)

/-- The fields of a record: a member that is absent counts as `null`, and a field whose value is
empty is left out. -/
def ofJsonFields : List (String × Ty) → Fields Json → Except EvaluationError (Fields Value)
  | [], _ => .ok []
  | (name, ty) :: rest, members =>
    match ofJson ty ((Fields.get? name members).getD .null) with
    | .error error => .error error
    | .ok value =>
      (ofJsonFields rest members).map fun fields =>
        if value.isEmpty then fields else (name, value) :: fields

end

end EndpointResolution.Value
