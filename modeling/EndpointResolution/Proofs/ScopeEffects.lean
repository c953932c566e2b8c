import EndpointResolution.Proofs.Acceptance
import EndpointResolution.Proofs.Frames

/-!
What the two passes leave in a scope. Of a rule there remain in the innermost frame the results of
the conditions that held, or the types and the facts of those that were accepted, and the frames
around it are as they were. The rules of a list have a frame each, so that nothing of them remains,
and whether they are accepted does not depend on their order.
-/
namespace EndpointResolution

universe u

variable {α : Type u}

/-- Binds names in order and records facts, all in the innermost frame. -/
def Scope.extend (bindings : List (String × α)) (facts : List Expr) (scope : Scope α) : Scope α :=
  let inner : Frame α := {
    bindings := bindings.foldl (fun fields (name, value) => Fields.insert name value fields)
      scope.inner.bindings
    known := facts.reverse ++ scope.inner.known }
  { scope with inner := inner }

@[simp] theorem Scope.extend_extend (bindings later : List (String × α)) (facts more : List Expr)
    (scope : Scope α) :
    (scope.extend bindings facts).extend later more =
      scope.extend (bindings ++ later) (facts ++ more) := by
  simp only [extend, List.foldl_append, List.reverse_append, List.append_assoc]

namespace Condition

/-- Conditions take a step each, in the scope that those before it have extended, and all that they
add is collected. -/
inductive InTurn (step : Condition → Scope α → List (String × α) → List Expr → Prop) :
    List Condition → Scope α → List (String × α) → List Expr → Prop where
  | nil (scope : Scope α) : InTurn step [] scope [] []
  | cons {condition : Condition} {rest : List Condition} {scope : Scope α}
      {bindings later : List (String × α)} {facts more : List Expr}
      (first : step condition scope bindings facts)
      (others : InTurn step rest (scope.extend bindings facts) later more) :
      InTurn step (condition :: rest) scope (bindings ++ later) (facts ++ more)

/-- The conditions up to the first that cannot take its step add the bindings and the facts. -/
def Leave (step : Condition → Scope α → List (String × α) → List Expr → Prop)
    (conditions : List Condition) (scope : Scope α) (bindings : List (String × α))
    (facts : List Expr) : Prop :=
  ∃ before rest, conditions = before ++ rest ∧ InTurn step before scope bindings facts ∧
    ∀ next ∈ rest.head?, ∀ later more, ¬ step next (scope.extend bindings facts) later more

section

variable {step : Condition → Scope α → List (String × α) → List Expr → Prop}
  {condition : Condition} {rest : List Condition} {scope : Scope α}

theorem leave_nil (scope : Scope α) : Leave step [] scope [] [] :=
  ⟨[], [], rfl, .nil scope, nofun⟩

theorem leave_of_stop (stops : ∀ later more, ¬ step condition scope later more) :
    Leave step (condition :: rest) scope [] [] := by
  refine ⟨[], condition :: rest, rfl, .nil scope, ?_⟩
  rintro next ⟨⟩
  exact stops

theorem Leave.cons {bindings later : List (String × α)} {facts more : List Expr}
    (first : step condition scope bindings facts)
    (others : Leave step rest (scope.extend bindings facts) later more) :
    Leave step (condition :: rest) scope (bindings ++ later) (facts ++ more) := by
  obtain ⟨before, after, rfl, taken, stops⟩ := others
  rw [Scope.extend_extend] at stops
  exact ⟨condition :: before, after, rfl, .cons first taken, stops⟩

end

/-- The name of the result of a condition, if it has one, with the result. -/
def resultAs (condition : Condition) (result : α) : List (String × α) :=
  (condition.result.map fun name => (name, result)).toList

/-- The condition holds and adds its result. -/
def HoldsWith (condition : Condition) (scope : Scope Value) (bindings : List (String × Value))
    (facts : List Expr) : Prop :=
  ∃ value, condition.test.eval scope = .ok value ∧ isMet value = true ∧
    bindings = condition.resultAs value ∧ facts = []

theorem bind_eq_extend (condition : Condition) (value : Value) (scope : Scope Value) :
    condition.bind value scope = scope.extend (condition.resultAs value) [] := by
  unfold bind resultAs
  cases condition.result <;> rfl

/-- Of conditions there remain the results of those that held. -/
theorem evalAll_leave (conditions : List Condition) (scope : Scope Value) :
    ∃ bindings, Leave HoldsWith conditions scope bindings [] ∧
      (evalAll conditions scope).2 = scope.extend bindings [] := by
  induction conditions generalizing scope with
  | nil => exact ⟨[], leave_nil scope, rfl⟩
  | cons condition rest ih =>
    cases executed : condition.test.eval scope with
    | error failure =>
      refine ⟨[], leave_of_stop ?_, by rw [evalAll, executed]; rfl⟩
      rintro later more ⟨value, evaluated, -⟩
      rw [executed] at evaluated
      cases evaluated
    | ok value =>
      have next : evalAll (condition :: rest) scope = if isMet value = true then
          evalAll rest (scope.extend (condition.resultAs value) []) else (.ok false, scope) := by
        rw [evalAll, executed, ← bind_eq_extend]
      rw [next]
      cases met : isMet value with
      | false =>
        refine ⟨[], leave_of_stop ?_, rfl⟩
        rintro later more ⟨other, evaluated, held, -⟩
        rw [executed] at evaluated
        cases evaluated
        rw [met] at held
        cases held
      | true =>
        obtain ⟨bindings, left, reached⟩ := ih (scope.extend (condition.resultAs value) [])
        refine ⟨condition.resultAs value ++ bindings,
          left.cons ⟨value, executed, met, rfl, rfl⟩, ?_⟩
        rw [if_pos rfl, reached, Scope.extend_extend, List.append_nil]

/-- The binding of a result of a type. Results of the type `Any` have none. -/
def typedResult (condition : Condition) (ty : Ty) : List (String × Ty) :=
  if ty.required = .any then [] else condition.resultAs ty.required

/-- The condition is accepted and adds the type of its result and what it proves. -/
def AcceptedWith (condition : Condition) (scope : Scope Ty) (bindings : List (String × Ty))
    (facts : List Expr) : Prop :=
  ∃ ty, condition.test.check scope = .ok ty ∧ bindings = condition.typedResult ty ∧
    facts = (proven? condition.test).toList

theorem learnProven_eq_extend (condition : Condition) (scope : Scope Ty) :
    condition.learnProven scope = scope.extend [] (proven? condition.test).toList := by
  unfold learnProven
  cases proven? condition.test <;> rfl

theorem learnResult_eq_extend (condition : Condition) (ty : Ty) (scope : Scope Ty) :
    condition.learnResult ty scope = scope.extend (condition.typedResult ty) [] := by
  unfold learnResult typedResult resultAs
  by_cases unknown : ty.required = .any
  · simp only [if_pos unknown]
    cases condition.result <;> rfl
  · simp only [if_neg unknown]
    cases condition.result <;> rfl

/-- A condition whose expression is accepted adds the type of its result and what it proves. The
check of the expression adds nothing. -/
theorem check_eq (condition : Condition) (scope : Scope Ty) :
    (condition.check scope).2 = match condition.test.check scope with
      | .error _ => scope
      | .ok ty => scope.extend (condition.typedResult ty) (proven? condition.test).toList := by
  rw [check]
  cases condition.test.check scope with
  | error report => rfl
  | ok ty =>
    simp only [learnProven_eq_extend, learnResult_eq_extend, Scope.extend_extend, List.nil_append,
      List.append_nil]

/-- Of conditions there remain the types of results and the facts of those that were accepted. -/
theorem checkAll_leave (conditions : List Condition) (scope : Scope Ty) :
    ∃ bindings facts, Leave AcceptedWith conditions scope bindings facts ∧
      (checkAll conditions scope).2 = scope.extend bindings facts := by
  induction conditions generalizing scope with
  | nil => exact ⟨[], [], leave_nil scope, rfl⟩
  | cons condition rest ih =>
    cases checked : condition.test.check scope with
    | error report =>
      refine ⟨[], [], leave_of_stop ?_, by rw [checkAll, check, checked]; rfl⟩
      rintro later more ⟨ty, accepted, -⟩
      rw [checked] at accepted
      cases accepted
    | ok ty =>
      have next : checkAll (condition :: rest) scope = checkAll rest
          (scope.extend (condition.typedResult ty) (proven? condition.test).toList) := by
        have first := condition.check_eq scope
        rw [checked] at first
        simp only at first
        rw [← first, checkAll, check, checked]
      obtain ⟨bindings, facts, left, reached⟩ := ih (scope.extend (condition.typedResult ty)
        (proven? condition.test).toList)
      refine ⟨_, _, left.cons ⟨ty, checked, rfl, rfl⟩, ?_⟩
      rw [next, reached, Scope.extend_extend]

end Condition

namespace Rule

/-- What follows the conditions of a rule leaves nothing. -/
theorem eval_scope (rule : Rule) (scope : Scope Value) :
    (rule.eval scope).2 = (Condition.evalAll rule.conditions scope).2 := by
  cases rule with
  | tree tests children notes =>
    rw [eval, conditions]
    rcases Condition.evalAll tests scope with ⟨failure | _ | _, after⟩
    · rfl
    · rfl
    · have restored := evalAll_scope children after
      simp only
      generalize evalAll children after = run at restored ⊢
      obtain ⟨failure | _ | outcome, reached⟩ := run <;> exact restored
  | error tests message notes =>
    rw [eval, conditions]
    rcases Condition.evalAll tests scope with ⟨failure | _ | _, after⟩ <;> rfl
  | endpoint tests target notes =>
    rw [eval, conditions]
    rcases Condition.evalAll tests scope with ⟨failure | _ | _, after⟩ <;> rfl

theorem check_scope (rule : Rule) (scope : Scope Ty) :
    (rule.check scope).2 = (Condition.checkAll rule.conditions scope).2 := by
  cases rule with
  | tree tests children notes =>
    rw [check, conditions]
    rcases Condition.checkAll tests scope with ⟨report | accepted, after⟩
    · rfl
    · exact checkAll_scope children after
  | error tests message notes =>
    rw [check, conditions]
    rcases Condition.checkAll tests scope with ⟨report | accepted, after⟩ <;> rfl
  | endpoint tests target notes =>
    rw [check, conditions]
    rcases Condition.checkAll tests scope with ⟨report | accepted, after⟩ <;> rfl

/-- The rules are the same but for the order of siblings, at any depth. -/
inductive Reordered : List Rule → List Rule → Prop where
  | perm {rules others : List Rule} (permuted : rules.Perm others) : Reordered rules others
  | inside {children others : List Rule} (before : List Rule) (conditions : List Condition)
      (notes : RuleNotes) (after : List Rule) (inner : Reordered children others) :
      Reordered (before ++ .tree conditions children notes :: after)
        (before ++ .tree conditions others notes :: after)
  | trans {rules others more : List Rule} (first : Reordered rules others)
      (second : Reordered others more) : Reordered rules more

/-- The order of siblings does not matter for the check. -/
theorem checkAll_eq_ok_iff_of_reordered {rules others : List Rule}
    (reordered : Reordered rules others) (scope : Scope Ty) :
    (checkAll rules scope).1 = .ok () ↔ (checkAll others scope).1 = .ok () := by
  induction reordered generalizing scope with
  | perm permuted =>
    simp only [checkAll_eq_ok_iff, permuted.mem_iff]
  | inside before conditions notes after inner ih =>
    simp only [checkAll_eq_ok_iff, List.forall_mem_append, List.forall_mem_cons,
      check_eq_ok_iff (.tree _ _ _), BodyAccepted, Rule.conditions, ih]
  | trans first second ihFirst ihSecond => exact (ihFirst scope).trans (ihSecond scope)

/-- The scope discipline of both passes. The evaluation and the check of a list of rules leave the
scope as it was, whatever they result in, as does that of one of its rules in a frame of its own. A
rule alone changes the innermost frame only, by the results of the conditions that held, or by the
types and the facts of those that were accepted; expressions, messages and endpoints change nothing.
Therefore siblings, at any depth, are accepted in any order or in none. -/
theorem scope_effects :
    (∀ rules (scope : Scope Value), (evalAll rules scope).2 = scope) ∧
    (∀ (rule : Rule) (scope : Scope Value), (rule.eval scope).2.outer = scope.outer ∧
      ∃ bindings, Condition.Leave Condition.HoldsWith rule.conditions scope bindings [] ∧
        (rule.eval scope).2 = scope.extend bindings []) ∧
    (∀ (condition : Condition) (scope : Scope Ty),
      (condition.check scope).2 = match condition.test.check scope with
        | .error _ => scope
        | .ok ty =>
          scope.extend (condition.typedResult ty) (Condition.proven? condition.test).toList) ∧
    (∀ (rule : Rule) (scope : Scope Ty), (rule.check scope).2.outer = scope.outer ∧
      ∃ bindings facts,
        Condition.Leave Condition.AcceptedWith rule.conditions scope bindings facts ∧
          (rule.check scope).2 = scope.extend bindings facts) ∧
    (∀ rule (scope : Scope Ty), (scope.within (check rule)).2 = scope) ∧
    (∀ rules (scope : Scope Ty), (checkAll rules scope).2 = scope) ∧
    (∀ children others, Reordered children others → ∀ conditions notes scope,
      ((Rule.tree conditions children notes).check scope).1 = .ok () ↔
        ((Rule.tree conditions others notes).check scope).1 = .ok ()) ∧
    (∀ set other : RuleSet, set.parameters = other.parameters → Reordered set.rules other.rules →
      (set.check = .ok () ↔ other.check = .ok ())) := by
  refine ⟨evalAll_scope, ?_, Condition.check_eq, ?_, ?_, checkAll_scope, ?_, ?_⟩
  · intro rule scope
    refine ⟨rule.outer_eval scope, ?_⟩
    rw [eval_scope]
    exact Condition.evalAll_leave rule.conditions scope
  · intro rule scope
    refine ⟨rule.outer_check scope, ?_⟩
    rw [check_scope]
    exact Condition.checkAll_leave rule.conditions scope
  · intro rule scope
    exact Scope.leave_of_outer (rule.outer_check scope.push)
  · intro children others reordered conditions notes scope
    rw [check_eq_ok_iff, check_eq_ok_iff]
    exact and_congr_right fun _ => checkAll_eq_ok_iff_of_reordered reordered _
  · intro set other same reordered
    rw [RuleSet.check, RuleSet.check, RuleSet.typeScope, RuleSet.typeScope, same]
    exact checkAll_eq_ok_iff_of_reordered reordered _

/-- A rule for the case that the region is set, which names it. -/
def namesRegion : Rule :=
  .error [⟨.reference "Region" .unknown, some "Name"⟩] (.reference "Name" .unknown) .none

/-- A rule for the case that no other matches. -/
def otherwise : Rule :=
  .error [] (.string "no region") .none

end Rule

/-- A rule-set with an optional region and the rules. -/
def RuleSet.regional (rules : List Rule) : RuleSet where
  version := "1.0"
  parameters := [Parameter.ofName "Region" .string]
  rules := rules
  distinct := by decide

namespace Rule

/-- The rules in the tree and the tree itself change their places with their siblings. -/
theorem scope_effects_of_namesRegion :
    (RuleSet.regional [otherwise, .tree [] [otherwise, namesRegion] .none]).check = .ok () := by
  have accepted : (RuleSet.regional
      [.tree [] [namesRegion, otherwise] .none, otherwise]).check = .ok () := by rfl
  have reordered : Reordered [.tree [] [namesRegion, otherwise] .none, otherwise]
      [otherwise, .tree [] [otherwise, namesRegion] .none] :=
    .trans (.inside [] [] .none [otherwise] (.perm (.swap _ _ []))) (.perm (.swap _ _ []))
  exact (scope_effects.2.2.2.2.2.2.2 (.regional _) (.regional _) (by rfl) reordered).mp accepted

end Rule
end EndpointResolution
