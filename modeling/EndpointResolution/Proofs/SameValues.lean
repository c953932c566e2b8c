import EndpointResolution.Proofs.Composition
import EndpointResolution.Proofs.Frames
import EndpointResolution.Proofs.Likeness
import EndpointResolution.Proofs.Sequence

/-!
Scopes that give every name the same value. Rules have the same results in both: it does not matter
in which frame a name is bound, nor what is known to be set.
-/
namespace EndpointResolution

/-- The two scopes give every name the same value. -/
def Scope.SameValues (left right : Scope Value) : Prop :=
  ∀ name, left.valueOf name = right.valueOf name

variable {left right : Scope Value}

theorem Scope.sameValues_push (scope : Scope Value) : scope.push.SameValues scope :=
  fun name => scope.valueOf_push name

theorem Scope.SameValues.push (same : left.SameValues right) : left.push.SameValues right.push := by
  intro name
  rw [Scope.valueOf_push, Scope.valueOf_push, same name]

theorem Scope.SameValues.bind (same : left.SameValues right) (condition : Condition)
    (value : Value) : (condition.bind value left).SameValues (condition.bind value right) := by
  unfold Condition.bind
  split
  next result _ =>
    intro name
    by_cases named : name = result
    · rw [named, Scope.valueOf_insert_self, Scope.valueOf_insert_self]
    · rw [Scope.valueOf_insert_of_ne named, Scope.valueOf_insert_of_ne named, same name]
  next => exact same

theorem Expr.evalString_congr {expr : Expr} (same : expr.eval left = expr.eval right) :
    expr.evalString left = expr.evalString right := by
  rw [evalString, evalString, same]

namespace EndpointTemplate

theorem evalHeader_congr {values : List Expr}
    (same : ∀ value ∈ values, value.eval left = value.eval right) :
    evalHeader left values = evalHeader right values := by
  induction values with
  | nil => rfl
  | cons value rest ih =>
    obtain ⟨here, later⟩ := List.forall_mem_cons.mp same
    rw [evalHeader_cons, evalHeader_cons, Expr.evalString_congr here, ih later]

theorem evalHeaders_congr {headers : Fields (List Expr)}
    (same : ∀ header ∈ headers, ∀ value ∈ header.2, value.eval left = value.eval right) :
    evalHeaders left headers = evalHeaders right headers := by
  induction headers with
  | nil => rfl
  | cons header rest ih =>
    obtain ⟨here, later⟩ := List.forall_mem_cons.mp same
    rw [evalHeaders_cons, evalHeaders_cons, evalHeader_congr here, ih later]

theorem evalProperties_congr {properties : Fields Expr}
    (same : ∀ entry ∈ properties, entry.2.eval left = entry.2.eval right) :
    evalProperties left properties = evalProperties right properties := by
  induction properties with
  | nil => rfl
  | cons entry rest ih =>
    obtain ⟨here, later⟩ := List.forall_mem_cons.mp same
    rw [evalProperties_cons, evalProperties_cons, here, ih later]

/-- An endpoint has the same value in both scopes if its expressions have. -/
theorem eval_congr {endpoint : EndpointTemplate}
    (same : endpoint.Each fun expr => expr.eval left = expr.eval right) :
    endpoint.eval left = endpoint.eval right := by
  rw [eval_eq_bind, eval_eq_bind, Expr.evalString_congr same.url, evalHeaders_congr same.headers,
    evalProperties_congr same.properties]

end EndpointTemplate

theorem Expr.eval_of_sameValues (same : left.SameValues right) (expr : Expr) :
    expr.eval left = expr.eval right :=
  eval_congr expr fun name _ => same name

theorem EndpointTemplate.eval_of_sameValues (same : left.SameValues right)
    (endpoint : EndpointTemplate) : endpoint.eval left = endpoint.eval right :=
  eval_congr {
    url := Expr.eval_of_sameValues same _
    headers := fun _ _ value _ => Expr.eval_of_sameValues same value
    properties := fun entry _ => Expr.eval_of_sameValues same entry.2 }

theorem Condition.evalAll_of_sameValues (same : left.SameValues right)
    (conditions : List Condition) :
    (evalAll conditions left).1 = (evalAll conditions right).1 ∧
      (evalAll conditions left).2.SameValues (evalAll conditions right).2 := by
  induction conditions generalizing left right with
  | nil => exact ⟨rfl, same⟩
  | cons condition rest ih =>
    rw [evalAll, evalAll, condition.test.eval_of_sameValues same]
    cases condition.test.eval right with
    | error failure => exact ⟨rfl, same⟩
    | ok value =>
      by_cases met : isMet value = true
      · simp only [met, if_true]
        exact ih (same.bind condition value)
      · simp only [met, Bool.false_eq_true, if_false]
        exact ⟨trivial, same⟩

namespace Rule

theorem eval_of_bodies {rule : Rule} (same : left.SameValues right)
    (bodies : ∀ {reached arrived : Scope Value}, reached.SameValues arrived →
      rule.evalBody reached = rule.evalBody arrived) :
    (rule.eval left).1 = (rule.eval right).1 := by
  obtain ⟨decided, further⟩ := Condition.evalAll_of_sameValues same rule.conditions
  rw [eval_result, eval_result]
  generalize Condition.evalAll rule.conditions left = first at decided further ⊢
  generalize Condition.evalAll rule.conditions right = second at decided further ⊢
  obtain ⟨result, reached⟩ := first
  obtain ⟨other, arrived⟩ := second
  cases decided
  rcases result with failure | _ | _
  · rfl
  · rfl
  · exact bodies further

mutual

theorem evalBody_of_sameValues : (rule : Rule) → {left right : Scope Value} →
    left.SameValues right → rule.evalBody left = rule.evalBody right
  | .tree _ children _, left, right, same => by
    simp only [evalBody, evalAll_of_sameValues children same]
  | .error _ message _, left, right, same => by
    simp only [evalBody, Expr.evalString_congr (message.eval_of_sameValues same)]
  | .endpoint _ target _, left, right, same => by
    simp only [evalBody, target.eval_of_sameValues same]

/-- Rules have the same result in scopes that give every name the same value. -/
theorem evalAll_of_sameValues : (rules : List Rule) → {left right : Scope Value} →
    left.SameValues right → (evalAll rules left).1 = (evalAll rules right).1
  | [], _, _, _ => rfl
  | rule :: rest, left, right, same => by
    have here : (rule.eval left.push).1 = (rule.eval right.push).1 :=
      eval_of_bodies same.push (evalBody_of_sameValues rule)
    rw [evalAll_cons, evalAll_cons, here, evalAll_of_sameValues rest same]

end

theorem eval_of_sameValues (same : left.SameValues right) (rule : Rule) :
    (rule.eval left).1 = (rule.eval right).1 :=
  eval_of_bodies same (evalBody_of_sameValues rule)

/-- The frame in which a rule is evaluated does not matter to its result. -/
theorem eval_push (rule : Rule) (scope : Scope Value) :
    (rule.eval scope.push).1 = (rule.eval scope).1 :=
  rule.eval_of_sameValues scope.sameValues_push

end Rule
end EndpointResolution
