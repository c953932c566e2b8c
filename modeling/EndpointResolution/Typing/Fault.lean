import EndpointResolution.Ty.Basic
import EndpointResolution.TypingError
import EndpointResolution.Value.Basic

/-!
What can be wrong with the types of an expression.
-/
namespace EndpointResolution

/-- The positional word of an argument, in digits from the sixth on. -/
def ordinal : Nat → String
  | 1 => "first"
  | 2 => "second"
  | 3 => "third"
  | 4 => "fourth"
  | 5 => "fifth"
  | n => toString n

/-- A place that asks for an expression of a certain type. -/
inductive Place where
  /-- The argument of a call, counted from one. -/
  | argument (position : Nat)
  /-- The array that a function is mapped over. -/
  | mapSource
  /-- A placeholder of a template, by the text of its expression. -/
  | hole (text : String)
  | errorMessage
  | endpointUrl
  | header (name : String)
  deriving DecidableEq, Repr

/-- The text of a place in messages. -/
def Place.display : Place → String
  | .argument position => "the " ++ ordinal position ++ " argument"
  | .mapSource => "function map"
  | .hole text => "template placeholder `\x7b" ++ text ++ "\x7d`"
  | .errorMessage => "the error message"
  | .endpointUrl => "the endpoint url"
  | .header name => "header `" ++ name ++ "`"

/-- What is wrong with the types of an expression. -/
inductive TypingFault where
  /-- Nothing is bound to a name. -/
  | unbound (name : String)
  /-- The items of a literal array are of different types. -/
  | mixedArray (value : Value)
  /-- The items of a tuple are of different types. -/
  | mixedTuple (first other : Ty)
  /-- A record has no field of a name. -/
  | missingField (found : Ty) (name : String)
  /-- A field is asked of something that is not a record. -/
  | notRecord (name : String) (found : Ty)
  /-- An element is asked of something that is not an array. -/
  | notArray (position : UInt64) (found : Ty)
  /-- A call has too few or too many arguments. -/
  | argumentCount (expected found : Nat)
  /-- A function without arguments is mapped. -/
  | nothingToMap (function : String)
  /-- A function with typing rules of its own is mapped. -/
  | unmappable (function : String)
  /-- An expression is not of the type that its place asks for. -/
  | mismatch (place : Place) (expected found : Ty)
  /-- A path is not a literal text. -/
  | noLiteralPath
  /-- A literal text is not a path. -/
  | invalidPath (path : String) (fault : Path.Fault)

namespace TypingFault

/-- The explanation of a fault. -/
def message : TypingFault → String
  | .unbound name => "No binding for `" ++ name ++ "`"
  | .mixedArray value => "Array literal elements must share one type: found " ++ value.display
  | .mixedTuple first other =>
    "Tuple elements must share one type: Expected " ++ first.display ++ " but found "
      ++ other.display
  | .missingField found name => found.display ++ " does not contain field `" ++ name ++ "`"
  | .notRecord name found =>
    "Cannot access field `" ++ name ++ "`: Expected a record but found " ++ found.display
  | .notArray position found =>
    "Cannot access index " ++ toString position.toNat ++ ": Expected an array but found "
      ++ found.display
  | .argumentCount expected found =>
    "Expected " ++ toString expected ++ " arguments but found " ++ toString found
  | .nothingToMap function => function ++ " takes no arguments and cannot be mapped"
  | .unmappable function => function ++ " cannot be applied in map mode"
  | .mismatch place expected found =>
    "Unexpected type in " ++ place.display ++ ": Expected " ++ expected.display ++ " but found "
      ++ found.display
  | .noLiteralPath =>
    "Unexpected type in the second argument: Expected a literal path string"
  | .invalidPath path fault => "invalid attribute path `" ++ path ++ "`: " ++ fault.message

/-- The report of a fault. -/
def error (fault : TypingFault) : TypingError :=
  .ofMessage fault.message

end TypingFault

namespace Ty

/-- The type of the elements of an array type. -/
def expectArray : Ty → Except TypingError Ty
  | .array element => .ok element
  | other => .error (.ofMessage ("Expected an array but found " ++ other.display))

/-- The fields of a record type. -/
def expectRecord : Ty → Except TypingError (Fields Ty)
  | .record fields => .ok fields
  | other => .error (.ofMessage ("Expected a record but found " ++ other.display))

/-- The type inside an optional wrapper. -/
def expectOptional : Ty → Except TypingError Ty
  | .optional inner => .ok inner
  | other => .error (.ofMessage ("Expected an optional but found " ++ other.display))

/-- The type of the part that a path leads to. Optional wrappers on the way are passed through, and
the result may be empty since any part may be absent. -/
def part (ty : Ty) : Path → Except TypingFault Ty
  | [] => .ok ty.orEmpty
  | step :: rest =>
    match ty.required, step with
    | .any, _ => .ok (.optional .any)
    | .record fields, .field name =>
      match Fields.get? name fields with
      | some field => part field rest
      | none => .error (.missingField ty name)
    | .array element, .index _ => part element rest
    | other, .field name => .error (.notRecord name other)
    | other, .index position => .error (.notArray position other)

end Ty
end EndpointResolution
