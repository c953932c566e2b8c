import EndpointResolution.ConstructionError
import EndpointResolution.Expr.Template
import EndpointResolution.Function.Standard
import EndpointResolution.Function.Text
import EndpointResolution.Function.Url

/-!
The functions that the expressions of a rule-set may call, by name.
-/
namespace EndpointResolution

/-- Functions under their names. -/
structure Registry where
  functions : Fields Function

namespace Registry

/-- The registry without functions. -/
def empty : Registry := ⟨[]⟩

/-- The function of a name. -/
def get? (registry : Registry) (id : String) : Option Function :=
  Fields.get? id registry.functions

/-- Adds a function in place of the one that has its name. -/
def register (registry : Registry) (function : Function) : Registry :=
  ⟨Fields.insert function.id function registry.functions⟩

/-- Adds functions in order. -/
def registerAll (registry : Registry) (functions : List Function) : Registry :=
  functions.foldl register registry

/-- The registry of the functions that every rule-set may call. -/
def standard : Registry :=
  empty.registerAll (Function.standard ++ Function.onTexts ++ [Function.parseUrl])

/-- The function of a name, which has to be there. -/
def lookup (registry : Registry) (id : String) : Except ConstructionError Function :=
  match registry.get? id with
  | some function => .ok function
  | none => .error (.unknownFunction id)

/-- A call of the function of a name. -/
def call (registry : Registry) (id : String) (arguments : List Expr) :
    Except ConstructionError Expr :=
  (registry.lookup id).map fun function => .call function arguments .unknown

/-- A call of the function of a name for each element of an array. -/
def map (registry : Registry) (id : String) (source : Expr) (arguments : List Expr) :
    Except ConstructionError Expr :=
  (registry.lookup id).bind fun function => Expr.mappedOver function source arguments

end Registry
end EndpointResolution
