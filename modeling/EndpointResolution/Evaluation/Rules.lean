import EndpointResolution.Evaluation.Expr
import EndpointResolution.Outcome
import EndpointResolution.Rule.Printer

/-!
First-match evaluation of rules. The conditions of a rule are evaluated in order up to the first
empty or false value; the first rule whose conditions all hold decides. A tree rule that has been
entered is not left again: if none of its rules matches, the evaluation fails.
-/
namespace EndpointResolution

namespace Condition

/-- A condition with the value holds. -/
def isMet (value : Value) : Bool :=
  !value.isEmpty && value != .boolean false

/-- Binds the result of a condition. -/
def bind (condition : Condition) (value : Value) (scope : Scope Value) : Scope Value :=
  match condition.result with
  | some name => scope.insert name value
  | none => scope

/-- Evaluates conditions up to the first that does not hold, and tells whether all do. -/
def evalAll : List Condition → Scope Value → Except EvaluationError Bool × Scope Value
  | [], scope => (.ok true, scope)
  | condition :: rest, scope =>
    match condition.test.eval scope with
    | .error error => (.error error, scope)
    | .ok value =>
      if isMet value then evalAll rest (condition.bind value scope) else (.ok false, scope)

end Condition

namespace EndpointTemplate

/-- The values of a header, which have to be strings. -/
def evalHeader (scope : Scope Value) : List Expr → Except EvaluationError (List String)
  | [] => .ok []
  | value :: rest =>
    match value.evalString scope with
    | .error error => .error error
    | .ok text => (evalHeader scope rest).map (text :: ·)

/-- The headers. One without values is left out. -/
def evalHeaders (scope : Scope Value) :
    Fields (List Expr) → Except EvaluationError (Fields (List String))
  | [] => .ok []
  | (name, values) :: rest =>
    match evalHeader scope values with
    | .error error => .error error
    | .ok texts =>
      (evalHeaders scope rest).map fun others =>
        if texts.isEmpty then others else (name, texts) :: others

/-- The properties. One whose value is empty is left out. -/
def evalProperties (scope : Scope Value) : Fields Expr → Except EvaluationError (Fields Value)
  | [] => .ok []
  | (name, expr) :: rest =>
    match expr.eval scope with
    | .error error => .error error
    | .ok value =>
      (evalProperties scope rest).map fun others =>
        if value.isEmpty then others else (name, value) :: others

/-- The endpoint that results. The address comes first, then the headers and the properties. -/
def eval (endpoint : EndpointTemplate) (scope : Scope Value) :
    Except EvaluationError ResolvedEndpoint :=
  match endpoint.url.evalString scope with
  | .error error => .error error
  | .ok url =>
    match evalHeaders scope endpoint.headers with
    | .error error => .error error
    | .ok headers =>
      (evalProperties scope endpoint.properties).map fun properties =>
        ⟨url, headers, properties⟩

end EndpointTemplate

namespace Rule

mutual

/-- Evaluates a rule in the innermost frame, where the results of its conditions stay. Without an
outcome some condition did not hold, and the next rule is to be tried. -/
def eval : Rule → Scope Value → Except EvaluationError (Option Outcome) × Scope Value
  | .tree conditions rules notes, scope =>
    match Condition.evalAll conditions scope with
    | (.error failure, after) => (.error failure, after)
    | (.ok false, after) => (.ok none, after)
    | (.ok true, after) =>
      match evalAll rules after with
      | (.ok none, after) =>
        (.error (.exhaustedTree (Rule.tree conditions rules notes).display), after)
      | decided => decided
  | .error conditions message _, scope =>
    match Condition.evalAll conditions scope with
    | (.error failure, after) => (.error failure, after)
    | (.ok false, after) => (.ok none, after)
    | (.ok true, after) => ((message.evalString after).map fun text => some (.error text), after)
  | .endpoint conditions target _, scope =>
    match Condition.evalAll conditions scope with
    | (.error failure, after) => (.error failure, after)
    | (.ok false, after) => (.ok none, after)
    | (.ok true, after) => ((target.eval after).map fun result => some (.endpoint result), after)

/-- Evaluates rules in order, each in a frame of its own, up to the first that has an outcome. -/
def evalAll : List Rule → Scope Value → Except EvaluationError (Option Outcome) × Scope Value
  | [], scope => (.ok none, scope)
  | rule :: rest, scope =>
    match scope.within (eval rule) with
    | (.ok none, after) => evalAll rest after
    | decided => decided

end

end Rule
end EndpointResolution
