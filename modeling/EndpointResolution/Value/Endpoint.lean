import EndpointResolution.Value.Basic

/-!
Resolved endpoints, the values that rule-sets are evaluated for.
-/
namespace EndpointResolution

/-- A resolved endpoint: where to send requests, with which headers, and what else to know. -/
structure ResolvedEndpoint where
  url : String
  headers : Fields (List String)
  properties : Fields Value
  deriving DecidableEq, Inhabited

namespace ResolvedEndpoint

/-- An endpoint without headers and properties. -/
def ofUrl (url : String) : ResolvedEndpoint :=
  ⟨url, [], []⟩

/-- Adds a value to the header of a name, after the values it has. -/
def addHeader (endpoint : ResolvedEndpoint) (name value : String) : ResolvedEndpoint :=
  let headers := Fields.modify name (fun values => values.getD [] ++ [value]) endpoint.headers
  { endpoint with headers := headers }

/-- Sets the property of a name. -/
def setProperty (endpoint : ResolvedEndpoint) (name : String) (value : Value) :
    ResolvedEndpoint :=
  { endpoint with properties := Fields.insert name value endpoint.properties }

/-- The endpoint as a value. -/
def toValue (endpoint : ResolvedEndpoint) : Value :=
  .endpoint endpoint.url endpoint.headers endpoint.properties

end ResolvedEndpoint

/-- The endpoint that a value is. -/
def Value.expectEndpoint : Value → Except EvaluationError ResolvedEndpoint
  | .endpoint url headers properties => .ok ⟨url, headers, properties⟩
  | other => .error (Value.unexpected "Endpoint" other)

end EndpointResolution
