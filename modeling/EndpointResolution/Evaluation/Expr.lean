import EndpointResolution.Scope

/-!
The values of expressions in a scope. That something is absent is no failure: a name without a
binding and an attribute that is not there have the empty value.
-/
namespace EndpointResolution.Expr

mutual

/-- The value of an expression. -/
def eval (scope : Scope Value) : Expr → Except EvaluationError Value
  | .literal value _ => .ok value
  | .template parts _ => (evalParts scope parts).map .string
  | .tuple items _ => (evalAll scope items).map .array
  | .record fields _ => (evalFields scope fields).map .record
  | .reference name _ => .ok ((scope.resolve name).getD .empty)
  | .attribute target path _ =>
    match eval scope target with
    | .error error => .error error
    | .ok value => value.follow path
  | .call function arguments _ =>
    match evalAll scope arguments with
    | .error error => .error error
    | .ok values => function.apply values
  | .mapped function source arguments _ =>
    match evalAll scope arguments with
    | .error error => .error error
    | .ok values =>
      match eval scope source with
      | .error error => .error error
      | .ok .empty => .ok .empty
      | .ok (.array elements) => (function.applyEach values elements).map .array
      | .ok other => .error (Value.unexpected "Array" other)

/-- The text of a template. Every placeholder has to be a string. -/
def evalParts (scope : Scope Value) : List (TemplatePart Expr) → Except EvaluationError String
  | [] => .ok ""
  | .text text :: rest => (evalParts scope rest).map (text ++ ·)
  | .hole expr :: rest =>
    match eval scope expr with
    | .error error => .error error
    | .ok value =>
      match value.expectString with
      | .error error => .error error
      | .ok text => (evalParts scope rest).map (text ++ ·)

/-- The values of expressions, in order. -/
def evalAll (scope : Scope Value) : List Expr → Except EvaluationError (List Value)
  | [] => .ok []
  | expr :: rest =>
    match eval scope expr with
    | .error error => .error error
    | .ok value => (evalAll scope rest).map (value :: ·)

/-- The values of the fields of a record, in order. -/
def evalFields (scope : Scope Value) :
    List (String × Expr) → Except EvaluationError (List (String × Value))
  | [] => .ok []
  | (name, expr) :: rest =>
    match eval scope expr with
    | .error error => .error error
    | .ok value => (evalFields scope rest).map ((name, value) :: ·)

end

/-- The value of an expression that has to be a string. -/
def evalString (scope : Scope Value) (expr : Expr) : Except EvaluationError String :=
  match expr.eval scope with
  | .error error => .error error
  | .ok value => value.expectString

end EndpointResolution.Expr
