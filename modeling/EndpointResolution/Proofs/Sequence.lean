import EndpointResolution.Evaluation.Rules

/-!
The evaluation of compound expressions as a sequence: the parts come first, and what they have as
values decides what comes next. A failure of a part is the failure of the whole.
-/
namespace EndpointResolution

namespace Expr

variable (scope : Scope Value)

theorem eval_attribute (target : Expr) (path : Path) (location : Location) :
    (Expr.attribute target path location).eval scope =
      (target.eval scope).bind fun value => value.follow path := by
  rw [eval]
  cases target.eval scope <;> rfl

theorem eval_call (function : Function) (arguments : List Expr) (location : Location) :
    (Expr.call function arguments location).eval scope =
      (evalAll scope arguments).bind function.apply := by
  rw [eval]
  cases evalAll scope arguments <;> rfl

theorem eval_call_one (function : Function) (argument : Expr) (location : Location) :
    (Expr.call function [argument] location).eval scope =
      (argument.eval scope).bind fun value => function.apply [value] := by
  simp only [eval_call, evalAll]
  cases argument.eval scope <;> rfl

theorem eval_call_literal (function : Function) (target : Expr) (value : Value)
    (place location : Location) :
    (Expr.call function [target, .literal value place] location).eval scope =
      (target.eval scope).bind fun whole => function.apply [whole, value] := by
  simp only [evalAll, eval]
  cases target.eval scope <;> rfl

theorem evalParts_hole (expr : Expr) (rest : List (TemplatePart Expr)) :
    evalParts scope (.hole expr :: rest) = (expr.evalString scope).bind fun text =>
      (evalParts scope rest).map (text ++ ·) := by
  rw [evalParts, evalString]
  rcases expr.eval scope with failure | value
  · rfl
  · cases value <;> rfl

theorem evalAll_cons (expr : Expr) (rest : List Expr) :
    evalAll scope (expr :: rest) = (expr.eval scope).bind fun value =>
      (evalAll scope rest).map (value :: ·) := by
  rw [evalAll]
  cases expr.eval scope <;> rfl

theorem evalFields_cons (name : String) (expr : Expr) (rest : List (String × Expr)) :
    evalFields scope ((name, expr) :: rest) = (expr.eval scope).bind fun value =>
      (evalFields scope rest).map ((name, value) :: ·) := by
  rw [evalFields]
  cases expr.eval scope <;> rfl

theorem evalString_eq_bind (expr : Expr) :
    expr.evalString scope = (expr.eval scope).bind Value.expectString := by
  rw [evalString]
  cases expr.eval scope <;> rfl

end Expr

/-- What a function mapped over a value has as its result: over the empty value it is empty. -/
def Function.applyOver (function : Function) (others : List Value) :
    Value → Except EvaluationError Value
  | .empty => .ok .empty
  | .array elements => (function.applyEach others elements).map .array
  | other => .error (Value.unexpected "Array" other)

theorem Function.applyEach_cons (function : Function) (others : List Value) (element : Value)
    (rest : List Value) :
    function.applyEach others (element :: rest) = (function.apply (element :: others)).bind
      fun result => (function.applyEach others rest).map (result :: ·) := by
  rw [applyEach]
  cases function.apply (element :: others) <;> rfl

theorem Expr.eval_mapped (scope : Scope Value) (function : Function) (source : Expr)
    (arguments : List Expr) (location : Location) :
    (Expr.mapped function source arguments location).eval scope =
      (evalAll scope arguments).bind fun others =>
        (source.eval scope).bind (function.applyOver others) := by
  rw [eval]
  rcases evalAll scope arguments with failure | others
  · rfl
  · rcases source.eval scope with failure | whole
    · rfl
    · cases whole <;> rfl

namespace EndpointTemplate

variable (scope : Scope Value)

theorem evalHeader_cons (value : Expr) (rest : List Expr) :
    evalHeader scope (value :: rest) = (value.evalString scope).bind fun text =>
      (evalHeader scope rest).map (text :: ·) := by
  rw [evalHeader]
  cases value.evalString scope <;> rfl

theorem evalHeaders_cons (name : String) (values : List Expr) (rest : Fields (List Expr)) :
    evalHeaders scope ((name, values) :: rest) = (evalHeader scope values).bind fun texts =>
      (evalHeaders scope rest).map fun others =>
        if texts.isEmpty then others else (name, texts) :: others := by
  rw [evalHeaders]
  cases evalHeader scope values <;> rfl

theorem evalProperties_cons (name : String) (expr : Expr) (rest : Fields Expr) :
    evalProperties scope ((name, expr) :: rest) = (expr.eval scope).bind fun value =>
      (evalProperties scope rest).map fun others =>
        if value.isEmpty then others else (name, value) :: others := by
  rw [evalProperties]
  cases expr.eval scope <;> rfl

theorem eval_eq_bind (endpoint : EndpointTemplate) :
    endpoint.eval scope = (endpoint.url.evalString scope).bind fun url =>
      (evalHeaders scope endpoint.headers).bind fun headers =>
        (evalProperties scope endpoint.properties).map fun properties =>
          ⟨url, headers, properties⟩ := by
  rw [eval]
  rcases endpoint.url.evalString scope with failure | url
  · rfl
  · cases evalHeaders scope endpoint.headers <;> rfl

end EndpointTemplate
end EndpointResolution
