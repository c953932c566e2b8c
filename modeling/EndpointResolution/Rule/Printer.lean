import EndpointResolution.Rule.Basic

/-!
The printed form of rules: a line for each part, indented by two spaces for each level of depth.
-/
namespace EndpointResolution.Rule

/-- A line at a depth. -/
def line (depth : Nat) (text : String) : String :=
  String.ofList (List.replicate (2 * depth) ' ') ++ text ++ "\n"

/-- The lines before what a rule does: its documentation and its conditions, where there are any. -/
def displayHead (depth : Nat) (conditions : List Condition) (notes : RuleNotes) : String :=
  (match notes.documentation with
    | some text => line depth ("# " ++ text)
    | none => "")
  ++ (if conditions.isEmpty then ""
    else line depth "conditions:"
      ++ String.join (conditions.map fun condition => line (depth + 1) condition.display))

/-- The lines of an endpoint: its address, its headers and its properties. -/
def displayEndpoint (depth : Nat) (target : EndpointTemplate) : String :=
  line depth ("endpoint: " ++ target.url.display)
  ++ String.join (target.headers.map fun header =>
    line (depth + 1) ("header " ++ header.1 ++ ": ["
      ++ ", ".intercalate (Expr.displayAll header.2) ++ "]"))
  ++ String.join (target.properties.map fun property =>
    line (depth + 1) ("property " ++ property.1 ++ ": " ++ property.2.display))

mutual

/-- The lines of a rule at a depth. -/
def displayAt : Rule → Nat → String
  | .tree conditions rules notes, depth =>
    displayHead depth conditions notes ++ line depth "tree:" ++ displayAll rules (depth + 1)
  | .error conditions message notes, depth =>
    displayHead depth conditions notes ++ line depth ("error: " ++ message.display)
  | .endpoint conditions target notes, depth =>
    displayHead depth conditions notes ++ displayEndpoint depth target

/-- The lines of rules at a depth. -/
def displayAll : List Rule → Nat → String
  | [], _ => ""
  | rule :: rest, depth => displayAt rule depth ++ displayAll rest depth

end

/-- The text of a rule. -/
def display (rule : Rule) : String :=
  rule.displayAt 0

end EndpointResolution.Rule
