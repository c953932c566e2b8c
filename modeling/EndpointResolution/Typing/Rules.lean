import EndpointResolution.RuleSet
import EndpointResolution.Typing.Expr

/-!
The type check of rules. A condition makes facts known for what comes after it in its frame: that
the argument of `isSet` is set, and that its result is bound to a value other than the empty one.
-/
namespace EndpointResolution

namespace Condition

/-- The expression that a condition proves set if it holds: the argument of `isSet`. -/
def proven? : Expr → Option Expr
  | .call function (argument :: _) _ => if function.id = "isSet" then some argument else none
  | _ => none

/-- Records what a condition proves. -/
def learnProven (condition : Condition) (scope : Scope Ty) : Scope Ty :=
  match proven? condition.test with
  | some expr => scope.know expr
  | none => scope

/-- Binds the result of a condition of a type, which is not empty if the condition holds. A result
of the type `Any` is not bound. -/
def learnResult (condition : Condition) (ty : Ty) (scope : Scope Ty) : Scope Ty :=
  match condition.result with
  | some name => if ty.required = .any then scope else scope.insert name ty.required
  | none => scope

/-- The type of a condition, and the scope with what it makes known. -/
def check (condition : Condition) (scope : Scope Ty) : Except TypingError Ty × Scope Ty :=
  match condition.test.check scope with
  | .error error =>
    let description := "while typechecking the condition `" ++ condition.display ++ "`"
    (.error (error.within description condition.location), scope)
  | .ok ty => (.ok ty, condition.learnResult ty (condition.learnProven scope))

/-- Checks conditions in order, up to the first error. -/
def checkAll : List Condition → Scope Ty → Except TypingError Unit × Scope Ty
  | [], scope => (.ok (), scope)
  | condition :: rest, scope =>
    match condition.check scope with
    | (.error error, after) => (.error error, after)
    | (.ok _, after) => checkAll rest after

end Condition

namespace EndpointTemplate

/-- The values of headers have to be strings. -/
def checkHeader (scope : Scope Ty) (name : String) : List Expr → Except TypingError Unit
  | [] => .ok ()
  | value :: rest =>
    match value.expect scope (.header name) .string with
    | .error error => .error error
    | .ok () => checkHeader scope name rest

/-- The values of all headers have to be strings. -/
def checkHeaders (scope : Scope Ty) : Fields (List Expr) → Except TypingError Unit
  | [] => .ok ()
  | (name, values) :: rest =>
    match checkHeader scope name values with
    | .error error => .error error
    | .ok () => checkHeaders scope rest

/-- Properties may be of any type. -/
def checkProperties (scope : Scope Ty) : Fields Expr → Except TypingError Unit
  | [] => .ok ()
  | (_, value) :: rest =>
    match value.check scope with
    | .error error => .error error
    | .ok _ => checkProperties scope rest

/-- Checks the parts of an endpoint in order, up to the first error. -/
def checkParts (endpoint : EndpointTemplate) (scope : Scope Ty) : Except TypingError Unit :=
  match endpoint.url.expect scope .endpointUrl .string with
  | .error error => .error error
  | .ok () =>
    match checkHeaders scope endpoint.headers with
    | .error error => .error error
    | .ok () => checkProperties scope endpoint.properties

/-- Checks an endpoint. -/
def check (endpoint : EndpointTemplate) (scope : Scope Ty) : Except TypingError Unit :=
  match endpoint.checkParts scope with
  | .ok () => .ok ()
  | .error error => .error (error.within "while typechecking the endpoint" endpoint.location)

end EndpointTemplate

namespace Rule

/-- Checks the message of an error rule. -/
def checkMessage (message : Expr) (location : Location) (scope : Scope Ty) :
    Except TypingError Unit :=
  match message.expect scope .errorMessage .string with
  | .ok () => .ok ()
  | .error report => .error (report.locate location)

mutual

/-- Checks a rule in the innermost frame. What its conditions make known stays there. -/
def check : Rule → Scope Ty → Except TypingError Unit × Scope Ty
  | .tree conditions rules _, scope =>
    match Condition.checkAll conditions scope with
    | (.error report, after) => (.error report, after)
    | (.ok (), after) => checkAll rules after
  | .error conditions message notes, scope =>
    match Condition.checkAll conditions scope with
    | (.error report, after) => (.error report, after)
    | (.ok (), after) => (checkMessage message notes.location after, after)
  | .endpoint conditions target _, scope =>
    match Condition.checkAll conditions scope with
    | (.error report, after) => (.error report, after)
    | (.ok (), after) => (target.check after, after)

/-- Checks rules in order, each in a frame of its own, up to the first error. -/
def checkAll : List Rule → Scope Ty → Except TypingError Unit × Scope Ty
  | [], scope => (.ok (), scope)
  | rule :: rest, scope =>
    match scope.within (check rule) with
    | (.error report, after) => (.error report, after)
    | (.ok (), after) => checkAll rest after

end

end Rule

namespace RuleSet

/-- The root scope in which the rules of a rule-set are checked: every parameter with its type. -/
def typeScope (set : RuleSet) : Scope Ty :=
  set.parameters.foldl (fun scope parameter => scope.insert parameter.name parameter.scopeTy)
    .empty

/-- Checks the rules of a rule-set. -/
def check (set : RuleSet) : Except TypingError Unit :=
  (Rule.checkAll set.rules set.typeScope).1

end RuleSet
end EndpointResolution
