import EndpointResolution.Evaluation.Rules
import EndpointResolution.RuleSet

/-!
The evaluation of a rule-set on arguments, given as values or as JSON.
-/
namespace EndpointResolution.RuleSet

/-- The scope with the defaults of parameters. -/
def seedDefaults (parameters : List Parameter) (scope : Scope Value) : Scope Value :=
  parameters.foldl (fun scope parameter =>
    match parameter.default with
    | some value => scope.insert parameter.name value
    | none => scope) scope

/-- The failure of an argument to be of the type that its parameter declares. -/
def rejection (parameter : Parameter) (value : Value) : EvaluationError :=
  .invalidParameter parameter.name parameter.declaredTy.display value.kind

/-- An argument for a declared parameter has to be of the declared type. -/
def admitArgument (set : RuleSet) (name : String) (value : Value) : Except EvaluationError Unit :=
  match set.parameter? name with
  | none => .ok ()
  | some parameter =>
    if parameter.declaredTy.admits value then .ok () else .error (rejection parameter value)

/-- Binds arguments in order. An empty one leaves its name as it is. -/
def seedArguments (set : RuleSet) :
    Fields Value → Scope Value → Except EvaluationError (Scope Value)
  | [], scope => .ok scope
  | (name, value) :: rest, scope =>
    if value.isEmpty then set.seedArguments rest scope
    else
      match set.admitArgument name value with
      | .error error => .error error
      | .ok () => set.seedArguments rest (scope.insert name value)

/-- The first required parameter that a scope does not bind. -/
def missing? (parameters : List Parameter) (scope : Scope Value) : Option Parameter :=
  parameters.find? fun parameter => parameter.required && (scope.resolve parameter.name).isNone

/-- The root scope for arguments: they replace the defaults of the parameters they name. -/
def seed (set : RuleSet) (arguments : Fields Value) : Except EvaluationError (Scope Value) :=
  match set.seedArguments arguments (seedDefaults set.parameters .empty) with
  | .error error => .error error
  | .ok scope =>
    match missing? set.parameters scope with
    | some parameter => .error (.missingParameter parameter.name)
    | none => .ok scope

/-- The outcome of the rules of a rule-set in a scope. -/
def evalRules (set : RuleSet) (scope : Scope Value) : Except EvaluationError Outcome :=
  match (Rule.evalAll set.rules scope).1 with
  | .error error => .error error
  | .ok none => .error .noRuleMatched
  | .ok (some outcome) => .ok outcome

/-- The outcome of a rule-set on arguments. -/
def evaluate (set : RuleSet) (arguments : Fields Value) : Except EvaluationError Outcome :=
  match set.seed arguments with
  | .error error => .error error
  | .ok scope => set.evalRules scope

/-- The arguments in the members of a JSON object, each decoded under the type that its parameter
declares. A `null` is an argument that is not set, and members that name no parameter are passed
over. -/
def decodeArguments (set : RuleSet) : Fields Json → Except EvaluationError (Fields Value)
  | [] => .ok []
  | (name, json) :: rest =>
    match set.parameter? name with
    | none => set.decodeArguments rest
    | some parameter =>
      match Value.ofJson parameter.declaredTy.orEmpty json with
      | .error _ =>
        .error (.invalidParameter name parameter.declaredTy.display json.compact)
      | .ok value => (set.decodeArguments rest).map ((name, value) :: ·)

/-- The outcome of a rule-set on the members of a JSON object. -/
def evaluateJson (set : RuleSet) (json : Json) : Except EvaluationError Outcome :=
  match json with
  | .object members =>
    match set.decodeArguments members with
    | .error error => .error error
    | .ok arguments => set.evaluate arguments
  | other => .error (.unexpectedValue "object" other.compact)

end EndpointResolution.RuleSet
