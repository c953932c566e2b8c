import EndpointResolution.Path

/-!
Why an evaluation ends without an outcome.
-/
namespace EndpointResolution

/-- A failed evaluation. That an error rule matches is an outcome, not a failure. -/
inductive EvaluationError where
  /-- A value is not of the kind that its place asks for. -/
  | unexpectedValue (expected found : String)
  /-- A function is applied to too few or too many arguments. -/
  | argumentCount (function : String) (expected found : Nat)
  /-- A text that an attribute access takes for a path is not one. -/
  | invalidPath (path : String) (fault : Path.Fault)
  /-- A required parameter has neither an argument nor a default. -/
  | missingParameter (name : String)
  /-- An argument is not of the type that its parameter declares. -/
  | invalidParameter (name expected found : String)
  /-- The conditions of a tree rule held and none of its rules matched. -/
  | exhaustedTree (rule : String)
  /-- No rule of the rule-set matched. -/
  | noRuleMatched
  deriving DecidableEq, Repr

/-- The text of a failed evaluation. -/
def EvaluationError.message : EvaluationError → String
  | .unexpectedValue expected found => "type error: expected " ++ expected ++ " but found " ++ found
  | .argumentCount function expected found =>
    "`" ++ function ++ "` expected " ++ toString expected ++ " arguments but received "
      ++ toString found
  | .invalidPath path fault => "invalid attribute path `" ++ path ++ "`: " ++ fault.message
  | .missingParameter name => "missing required parameter `" ++ name ++ "`"
  | .invalidParameter name expected found =>
    "invalid value for parameter `" ++ name ++ "`: expected " ++ expected ++ ", found " ++ found
  | .exhaustedTree rule => "no rules inside of tree rule matched; invalid rules:\n" ++ rule
  | .noRuleMatched => "no rules in rule-set matched"

end EndpointResolution
