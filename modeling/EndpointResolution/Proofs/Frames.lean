import EndpointResolution.Evaluation.Rules
import EndpointResolution.Typing.Rules

/-!
The frames around the innermost one. Neither pass changes them, so that a rule run in a frame of its
own leaves the scope as it was, and the rules of a list are independent of one another.
-/
namespace EndpointResolution

namespace Scope

universe u

variable {α : Type u}

/-- Closing a frame undoes all that was done in it alone. -/
theorem leave_of_outer {scope after : Scope α} (kept : after.outer = scope.push.outer) :
    after.leave = scope := by
  rw [leave, pop?, kept]
  rfl

end Scope

@[simp] theorem Condition.outer_bind (condition : Condition) (value : Value)
    (scope : Scope Value) : (condition.bind value scope).outer = scope.outer := by
  unfold bind
  split <;> rfl

theorem Condition.outer_evalAll (conditions : List Condition) (scope : Scope Value) :
    (evalAll conditions scope).2.outer = scope.outer := by
  induction conditions generalizing scope with
  | nil => rfl
  | cons condition rest ih =>
    rw [evalAll]
    split
    · rfl
    · split
      · rw [ih, outer_bind]
      · rfl

namespace Rule

mutual

theorem outer_eval : (rule : Rule) → (scope : Scope Value) →
    (rule.eval scope).2.outer = scope.outer
  | .tree conditions rules notes, scope => by
    have kept := Condition.outer_evalAll conditions scope
    rw [eval]
    split
    next held => rwa [held] at kept
    next held => rwa [held] at kept
    next after held =>
      rw [held] at kept
      have children := evalAll_scope rules after
      split
      next decided =>
        rw [decided] at children
        rw [show _ = after from children]
        exact kept
      next =>
        rw [children]
        exact kept
  | .error conditions message notes, scope => by
    have kept := Condition.outer_evalAll conditions scope
    rw [eval]
    split
    next held => rwa [held] at kept
    next held => rwa [held] at kept
    next held => rwa [held] at kept
  | .endpoint conditions target notes, scope => by
    have kept := Condition.outer_evalAll conditions scope
    rw [eval]
    split
    next held => rwa [held] at kept
    next held => rwa [held] at kept
    next held => rwa [held] at kept

/-- The evaluation of rules leaves the scope as it was. -/
theorem evalAll_scope : (rules : List Rule) → (scope : Scope Value) →
    (evalAll rules scope).2 = scope
  | [], _ => rfl
  | rule :: rest, scope => by
    have restored : (scope.within rule.eval).2 = scope :=
      Scope.leave_of_outer (rule.outer_eval scope.push)
    rw [evalAll]
    split
    next after decided =>
      rw [decided] at restored
      rw [show after = scope from restored]
      exact evalAll_scope rest scope
    · exact restored

end

/-- What a rule results in once its conditions hold. -/
def evalBody (rule : Rule) (scope : Scope Value) : Except EvaluationError (Option Outcome) :=
  match rule with
  | .tree _ children _ =>
    match (evalAll children scope).1 with
    | .ok none => .error (.exhaustedTree rule.display)
    | decided => decided
  | .error _ message _ => (message.evalString scope).map fun text => some (.error text)
  | .endpoint _ target _ => (target.eval scope).map fun result => some (.endpoint result)

/-- The conditions of a rule come first, and what follows them is evaluated only if all hold. -/
theorem eval_result (rule : Rule) (scope : Scope Value) :
    (rule.eval scope).1 = match Condition.evalAll rule.conditions scope with
      | (.error failure, _) => .error failure
      | (.ok false, _) => .ok none
      | (.ok true, reached) => rule.evalBody reached := by
  cases rule with
  | tree conditions children notes =>
    simp only [eval, Rule.conditions]
    rcases Condition.evalAll conditions scope with ⟨failure | _ | _, reached⟩
    · rfl
    · rfl
    · simp only [evalBody]
      rcases evalAll children reached with ⟨failure | _ | outcome, after⟩ <;> rfl
  | error conditions message notes =>
    simp only [eval, Rule.conditions]
    rcases Condition.evalAll conditions scope with ⟨failure | _ | _, reached⟩ <;> rfl
  | endpoint conditions target notes =>
    simp only [eval, Rule.conditions]
    rcases Condition.evalAll conditions scope with ⟨failure | _ | _, reached⟩ <;> rfl

/-- The first rule decides in a frame of its own, unless it has no outcome. -/
theorem evalAll_cons (rule : Rule) (rest : List Rule) (scope : Scope Value) :
    (evalAll (rule :: rest) scope).1 = match (rule.eval scope.push).1 with
      | .ok none => (evalAll rest scope).1
      | decided => decided := by
  have restored : (scope.within rule.eval).2 = scope :=
    Scope.leave_of_outer (rule.outer_eval scope.push)
  have inside : (scope.within rule.eval).1 = (rule.eval scope.push).1 := rfl
  rw [evalAll, ← inside]
  generalize scope.within rule.eval = run at restored ⊢
  obtain ⟨result, after⟩ := run
  cases restored
  rcases result with failure | _ | outcome <;> rfl

end Rule

@[simp] theorem Condition.outer_learnProven (condition : Condition) (scope : Scope Ty) :
    (condition.learnProven scope).outer = scope.outer := by
  unfold learnProven
  split <;> rfl

@[simp] theorem Condition.outer_learnResult (condition : Condition) (ty : Ty) (scope : Scope Ty) :
    (condition.learnResult ty scope).outer = scope.outer := by
  unfold learnResult
  split
  · split <;> rfl
  · rfl

theorem Condition.outer_check (condition : Condition) (scope : Scope Ty) :
    (condition.check scope).2.outer = scope.outer := by
  rw [check]
  split
  · rfl
  · rw [outer_learnResult, outer_learnProven]

theorem Condition.outer_checkAll (conditions : List Condition) (scope : Scope Ty) :
    (checkAll conditions scope).2.outer = scope.outer := by
  induction conditions generalizing scope with
  | nil => rfl
  | cons condition rest ih =>
    have kept := condition.outer_check scope
    rw [checkAll]
    split
    next checked => rwa [checked] at kept
    next after checked =>
      rw [checked] at kept
      rw [ih, kept]

namespace Rule

mutual

theorem outer_check : (rule : Rule) → (scope : Scope Ty) →
    (rule.check scope).2.outer = scope.outer
  | .tree conditions rules notes, scope => by
    have kept := Condition.outer_checkAll conditions scope
    rw [check]
    split
    next learned => rwa [learned] at kept
    next after learned =>
      rw [learned] at kept
      rw [checkAll_scope rules after]
      exact kept
  | .error conditions message notes, scope => by
    have kept := Condition.outer_checkAll conditions scope
    rw [check]
    split
    next learned => rwa [learned] at kept
    next learned => rwa [learned] at kept
  | .endpoint conditions target notes, scope => by
    have kept := Condition.outer_checkAll conditions scope
    rw [check]
    split
    next learned => rwa [learned] at kept
    next learned => rwa [learned] at kept

/-- The check of rules leaves the scope as it was. -/
theorem checkAll_scope : (rules : List Rule) → (scope : Scope Ty) →
    (checkAll rules scope).2 = scope
  | [], _ => rfl
  | rule :: rest, scope => by
    have restored : (scope.within rule.check).2 = scope :=
      Scope.leave_of_outer (rule.outer_check scope.push)
    rw [checkAll]
    split
    next after decided =>
      rw [decided] at restored
      exact restored
    next after decided =>
      rw [decided] at restored
      rw [show after = scope from restored]
      exact checkAll_scope rest scope

end

/-- The rules of a list are accepted if each is, in a frame of its own. -/
theorem checkAll_eq_ok_iff (rules : List Rule) (scope : Scope Ty) :
    (checkAll rules scope).1 = .ok () ↔ ∀ rule ∈ rules, (rule.check scope.push).1 = .ok () := by
  induction rules with
  | nil => simp [checkAll]
  | cons rule rest ih =>
    have restored : (scope.within rule.check).2 = scope :=
      Scope.leave_of_outer (rule.outer_check scope.push)
    have inside : (scope.within rule.check).1 = (rule.check scope.push).1 := rfl
    rw [List.forall_mem_cons, ← ih, ← inside, checkAll]
    generalize scope.within rule.check = run at restored ⊢
    obtain ⟨result, after⟩ := run
    cases restored
    rcases result with report | accepted <;> simp

end Rule
end EndpointResolution
