import EndpointResolution.Value.Endpoint
import EndpointResolution.Value.Json

/-!
What the evaluation of a rule-set comes to.
-/
namespace EndpointResolution

/-- The outcome of an evaluation: an endpoint, or the message of an error rule. -/
inductive Outcome where
  | endpoint (endpoint : ResolvedEndpoint)
  | error (message : String)
  deriving DecidableEq

/-- The JSON document of an outcome: its kind, and the message or the members of the endpoint. -/
def Outcome.toJson : Outcome → Json
  | .endpoint ⟨url, headers, properties⟩ =>
    .object (Fields.insert "type" (.string "endpoint")
      (Value.endpointMembers url headers (Value.fieldsToJson properties)))
  | .error message => .object [("message", .string message), ("type", .string "error")]

end EndpointResolution
