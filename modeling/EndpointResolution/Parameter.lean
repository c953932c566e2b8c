import EndpointResolution.ConstructionError
import EndpointResolution.Expr.Basic
import EndpointResolution.Ty.Membership

/-!
Parameters of rule-sets. A default always is a value of the declared type other than the empty one.
-/
namespace EndpointResolution

/-- What kind of values a parameter takes. -/
inductive ParameterKind where
  | string
  | boolean
  | stringArray
  deriving DecidableEq, Repr

namespace ParameterKind

/-- The name of a kind. -/
def display : ParameterKind → String
  | .string => "String"
  | .boolean => "Boolean"
  | .stringArray => "StringArray"

/-- The type of the values. -/
def ty : ParameterKind → Ty
  | .string => .string
  | .boolean => .boolean
  | .stringArray => .array .string

/-- The two texts differ at most in the case of ASCII letters. -/
def sameIgnoringCase (a b : String) : Bool :=
  a.toList.map Char.toLower == b.toList.map Char.toLower

/-- The kind of a name, in whatever case it is written. -/
def parse (name : String) : Except ConstructionError ParameterKind :=
  if sameIgnoringCase name "String" then .ok .string
  else if sameIgnoringCase name "Boolean" then .ok .boolean
  else if sameIgnoringCase name "StringArray" then .ok .stringArray
  else .error (.unknownParameterType name)

end ParameterKind

/-- Why a parameter should not be used any more, and since when. -/
structure Deprecation where
  message : Option String
  since : Option String
  deriving DecidableEq, Repr

/-- The value may be the default of a parameter of the kind. -/
def ParameterKind.allowsDefault (kind : ParameterKind) (value : Value) : Bool :=
  !value.isEmpty && kind.ty.admits value

/-- A parameter. -/
structure Parameter where
  name : String
  kind : ParameterKind
  required : Bool
  default : Option Value
  builtIn : Option String
  documentation : Option String
  deprecated : Option Deprecation
  location : Location
  default_allowed : default.all kind.allowsDefault = true

namespace Parameter

/-- An optional parameter without default. -/
def ofName (name : String) (kind : ParameterKind) : Parameter where
  name := name
  kind := kind
  required := false
  default := none
  builtIn := none
  documentation := none
  deprecated := none
  location := .unknown
  default_allowed := rfl

/-- Sets the default, which has to be a value of the declared type other than the empty one. -/
def withDefault (parameter : Parameter) (value : Value) : Except ConstructionError Parameter :=
  if allowed : parameter.kind.allowsDefault value = true then
    .ok { parameter with default := some value, default_allowed := allowed }
  else .error (.invalidDefault parameter.name parameter.kind.ty.display value.kind)

/-- The declared type, as callers see it. -/
def declaredTy (parameter : Parameter) : Ty :=
  parameter.kind.ty

/-- The type as rules see it: a required or defaulted parameter is always set. -/
def scopeTy (parameter : Parameter) : Ty :=
  if parameter.required || parameter.default.isSome then parameter.declaredTy
  else parameter.declaredTy.orEmpty

/-- The reference to a parameter, declared where the parameter is. -/
def toExpr (parameter : Parameter) : Expr :=
  .reference parameter.name parameter.location

end Parameter
end EndpointResolution
