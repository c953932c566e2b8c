import EndpointResolution.Expr.Basic

/-!
Rules: conditions, and what follows if they hold. Two rules are alike if they differ in the source
locations of expressions at most; the locations of rules and endpoints count.
-/
namespace EndpointResolution

/-- A test in front of a rule, whose result may be bound to a name. -/
structure Condition where
  test : Expr
  result : Option String

namespace Condition

/-- Where the condition was declared. -/
def location (condition : Condition) : Location :=
  condition.test.location

/-- The result by its name or, without one, the test itself. -/
def toExpr (condition : Condition) : Expr :=
  match condition.result with
  | some name => .reference name condition.location
  | none => condition.test

/-- The text of a condition. -/
def display (condition : Condition) : String :=
  match condition.result with
  | some name => name ++ " = " ++ condition.test.display
  | none => condition.test.display

/-- The two conditions differ in source locations at most. -/
def alike (a b : Condition) : Bool :=
  a.test.alike b.test && a.result == b.result

end Condition

/-- What an endpoint rule makes an endpoint of. -/
structure EndpointTemplate where
  url : Expr
  headers : Fields (List Expr)
  properties : Fields Expr
  location : Location

namespace EndpointTemplate

/-- An endpoint without headers and properties, declared where its address is. -/
def ofUrl (url : Expr) : EndpointTemplate :=
  ⟨url, [], [], url.location⟩

/-- Adds values to the header of a name, after the ones it has. -/
def withHeader (endpoint : EndpointTemplate) (name : String) (values : List Expr) :
    EndpointTemplate :=
  let headers := Fields.modify name (fun earlier => earlier.getD [] ++ values) endpoint.headers
  { endpoint with headers := headers }

/-- Sets the property of a name. -/
def withProperty (endpoint : EndpointTemplate) (name : String) (value : Expr) :
    EndpointTemplate :=
  { endpoint with properties := Fields.insert name value endpoint.properties }

/-- The two lists of headers differ in source locations at most. -/
def alikeHeaders : Fields (List Expr) → Fields (List Expr) → Bool
  | [], [] => true
  | (n, a) :: as, (m, b) :: bs => n == m && Expr.alikeAll a b && alikeHeaders as bs
  | _, _ => false

/-- The two endpoints differ in the source locations of expressions at most. -/
def alike (a b : EndpointTemplate) : Bool :=
  a.url.alike b.url && alikeHeaders a.headers b.headers
    && Expr.alikeFields a.properties b.properties && a.location == b.location

end EndpointTemplate

/-- What is known about a rule beside what it does. -/
structure RuleNotes where
  documentation : Option String
  location : Location
  deriving DecidableEq, Repr

/-- No documentation and an unknown location. -/
def RuleNotes.none : RuleNotes := ⟨.none, .unknown⟩

/-- A rule: conditions, and what follows if all of them hold. -/
inductive Rule where
  /-- The first of further rules that matches. -/
  | tree (conditions : List Condition) (rules : List Rule) (notes : RuleNotes)
  /-- An error with a message. -/
  | error (conditions : List Condition) (message : Expr) (notes : RuleNotes)
  /-- An endpoint. -/
  | endpoint (conditions : List Condition) (endpoint : EndpointTemplate) (notes : RuleNotes)

namespace Rule

/-- The conditions of a rule. -/
def conditions : Rule → List Condition
  | .tree conditions _ _ => conditions
  | .error conditions _ _ => conditions
  | .endpoint conditions _ _ => conditions

/-- What is known about a rule beside what it does. -/
def notes : Rule → RuleNotes
  | .tree _ _ notes => notes
  | .error _ _ notes => notes
  | .endpoint _ _ notes => notes

/-- The rule with other notes. -/
def withNotes (rule : Rule) (notes : RuleNotes) : Rule :=
  match rule with
  | .tree conditions rules _ => .tree conditions rules notes
  | .error conditions message _ => .error conditions message notes
  | .endpoint conditions target _ => .endpoint conditions target notes

/-- The rule with a documentation. -/
def withDocumentation (rule : Rule) (documentation : String) : Rule :=
  rule.withNotes { rule.notes with documentation := some documentation }

/-- The rule at another location. -/
def relocate (rule : Rule) (location : Location) : Rule :=
  rule.withNotes { rule.notes with location := location }

/-- If all conditions hold, the rule `next`; else an error with the message. -/
def validateOrElse (message : Expr) (conditions : List Condition) (next : Rule) : Rule :=
  .tree [] [.tree conditions [next] .none, .error [] message .none] .none

/-- If all conditions hold, an error with the message; else the rule `next`. -/
def errorOrElse (message : Expr) (conditions : List Condition) (next : Rule) : Rule :=
  .tree [] [.error conditions message .none, next] .none

/-- The two lists of conditions differ in source locations at most. -/
def alikeConditions : List Condition → List Condition → Bool
  | [], [] => true
  | a :: as, b :: bs => a.alike b && alikeConditions as bs
  | _, _ => false

mutual

/-- The two rules differ in the source locations of expressions at most. -/
def alike : Rule → Rule → Bool
  | .tree cs as m, .tree ds bs n => alikeConditions cs ds && alikeAll as bs && m == n
  | .error cs a m, .error ds b n => alikeConditions cs ds && a.alike b && m == n
  | .endpoint cs a m, .endpoint ds b n => alikeConditions cs ds && a.alike b && m == n
  | _, _ => false

/-- The two lists of rules differ in the source locations of expressions at most. -/
def alikeAll : List Rule → List Rule → Bool
  | [], [] => true
  | a :: as, b :: bs => alike a b && alikeAll as bs
  | _, _ => false

end

end Rule
end EndpointResolution
