import EndpointResolution.Proofs.Failures
import EndpointResolution.Proofs.Frames

/-!
First-match semantics by paths. The evaluation of rules arrives at a rule if the rules before it and
before the trees around it fall through and the conditions of these trees hold. The first rule
arrived at that does not fall through decides, whatever comes after it.
-/
namespace EndpointResolution

namespace Condition

/-- The conditions hold in order: the value of each, in the scope extended by the results of those
before it, is neither empty nor false. -/
inductive Hold : List Condition → Scope Value → Scope Value → Prop where
  | nil (scope : Scope Value) : Hold [] scope scope
  | cons {condition : Condition} {rest : List Condition} {scope after : Scope Value}
      {value : Value} (executed : condition.test.eval scope = .ok value)
      (set : value ≠ .empty) (notFalse : value ≠ .boolean false)
      (others : Hold rest (condition.bind value scope) after) :
      Hold (condition :: rest) scope after

/-- Some of the conditions hold, and the value of the next one is empty or false. -/
def FallThrough (conditions : List Condition) (scope : Scope Value) : Prop :=
  ∃ before condition rest reached value, conditions = before ++ condition :: rest ∧
    Hold before scope reached ∧ condition.test.eval reached = .ok value ∧
    (value = .empty ∨ value = .boolean false)

/-- Some of the conditions hold, and the next one has no value. -/
def Fail (conditions : List Condition) (scope : Scope Value) (failure : EvaluationError) : Prop :=
  ∃ before condition rest reached, conditions = before ++ condition :: rest ∧
    Hold before scope reached ∧ condition.test.eval reached = .error failure

theorem isMet_iff (value : Value) :
    isMet value = true ↔ value ≠ .empty ∧ value ≠ .boolean false := by
  simp [isMet, Value.isEmpty_iff, ← Bool.not_eq_true]

theorem isMet_eq_false_iff (value : Value) :
    isMet value = false ↔ value = .empty ∨ value = .boolean false := by
  rw [← Bool.not_eq_true, isMet_iff]
  simp only [ne_eq, ← not_or, Classical.not_not]

theorem evalAll_of_hold {conditions : List Condition} {scope after : Scope Value}
    (held : Hold conditions scope after) (rest : List Condition) :
    evalAll (conditions ++ rest) scope = evalAll rest after := by
  induction held with
  | nil scope => rfl
  | cons executed set notFalse others ih =>
    rw [List.cons_append, evalAll, executed]
    simp only [(isMet_iff _).mpr ⟨set, notFalse⟩, if_true]
    exact ih

theorem evalAll_of_fallThrough {conditions : List Condition} {scope : Scope Value}
    (falls : FallThrough conditions scope) : (evalAll conditions scope).1 = .ok false := by
  obtain ⟨before, condition, rest, reached, value, rfl, held, executed, unmet⟩ := falls
  rw [evalAll_of_hold held, evalAll, executed]
  simp only [(isMet_eq_false_iff value).mpr unmet, Bool.false_eq_true, if_false]

theorem evalAll_of_fail {conditions : List Condition} {scope : Scope Value}
    {failure : EvaluationError} (fails : Fail conditions scope failure) :
    (evalAll conditions scope).1 = .error failure := by
  obtain ⟨before, condition, rest, reached, rfl, held, failed⟩ := fails
  rw [evalAll_of_hold held, evalAll, failed]

section

variable {condition : Condition} {rest : List Condition} {scope : Scope Value} {value : Value}
  (executed : condition.test.eval scope = .ok value)
include executed

theorem fallThrough_head (unmet : value = .empty ∨ value = .boolean false) :
    FallThrough (condition :: rest) scope :=
  ⟨[], condition, rest, scope, value, rfl, .nil scope, executed, unmet⟩

variable (set : value ≠ .empty) (notFalse : value ≠ .boolean false)
include set notFalse

theorem FallThrough.cons (falls : FallThrough rest (condition.bind value scope)) :
    FallThrough (condition :: rest) scope := by
  obtain ⟨before, next, others, reached, last, rfl, held, decided⟩ := falls
  exact ⟨condition :: before, next, others, reached, last, rfl,
    .cons executed set notFalse held, decided⟩

theorem Fail.cons {failure : EvaluationError}
    (fails : Fail rest (condition.bind value scope) failure) :
    Fail (condition :: rest) scope failure := by
  obtain ⟨before, next, others, reached, rfl, held, failed⟩ := fails
  exact ⟨condition :: before, next, others, reached, rfl, .cons executed set notFalse held, failed⟩

end

/-- Conditions hold, fall through or fail. -/
theorem hold_or_fallThrough_or_fail (conditions : List Condition) (scope : Scope Value) :
    (∃ after, Hold conditions scope after) ∨ FallThrough conditions scope ∨
      ∃ failure, Fail conditions scope failure := by
  induction conditions generalizing scope with
  | nil => exact .inl ⟨scope, .nil scope⟩
  | cons condition rest ih =>
    cases executed : condition.test.eval scope with
    | error failure =>
      exact .inr (.inr ⟨failure, [], condition, rest, scope, rfl, .nil scope, executed⟩)
    | ok value =>
      by_cases met : isMet value = true
      · obtain ⟨set, notFalse⟩ := (isMet_iff value).mp met
        rcases ih (condition.bind value scope) with ⟨after, held⟩ | falls | ⟨failure, fails⟩
        · exact .inl ⟨after, .cons executed set notFalse held⟩
        · exact .inr (.inl (falls.cons executed set notFalse))
        · exact .inr (.inr ⟨failure, fails.cons executed set notFalse⟩)
      · have unmet := (isMet_eq_false_iff value).mp (Bool.eq_false_iff.mpr met)
        exact .inr (.inl (fallThrough_head executed unmet))

theorem not_fallThrough_of_hold {conditions : List Condition} {scope after : Scope Value}
    (held : Hold conditions scope after) : ¬ FallThrough conditions scope := by
  intro falls
  have decided := evalAll_of_fallThrough falls
  have executed := evalAll_of_hold held []
  rw [List.append_nil] at executed
  rw [executed] at decided
  cases decided

theorem not_fallThrough_of_fail {conditions : List Condition} {scope : Scope Value}
    {failure : EvaluationError} (fails : Fail conditions scope failure) :
    ¬ FallThrough conditions scope := by
  intro falls
  have decided := evalAll_of_fallThrough falls
  rw [evalAll_of_fail fails] at decided
  cases decided

theorem Hold.unique {conditions : List Condition} {scope first second : Scope Value}
    (held : Hold conditions scope first) (again : Hold conditions scope second) :
    first = second := by
  have left := evalAll_of_hold held []
  rw [evalAll_of_hold again [], evalAll, evalAll] at left
  exact (Prod.mk.inj left).2.symm

theorem not_fail_of_hold {conditions : List Condition} {scope after : Scope Value}
    {failure : EvaluationError} (held : Hold conditions scope after) :
    ¬ Fail conditions scope failure := by
  intro fails
  have decided := evalAll_of_fail fails
  have executed := evalAll_of_hold held []
  rw [List.append_nil] at executed
  rw [executed] at decided
  cases decided

end Condition

/-! ## Rules -/

namespace Rule

/-- The rule falls through where the rules of its list are evaluated. -/
def FallsThrough (rule : Rule) (scope : Scope Value) : Prop :=
  Condition.FallThrough rule.conditions scope.push

/-- What the message or the endpoint of a rule evaluates to. Tree rules have neither. -/
def conclusion (rule : Rule) (scope : Scope Value) : Option (Except EvaluationError Outcome) :=
  match rule with
  | .tree _ _ _ => none
  | .error _ message _ => some ((message.evalString scope).map .error)
  | .endpoint _ target _ => some ((target.eval scope).map .endpoint)

/-- There is a path from a list of rules to a rule, through tree rules whose conditions hold, and
every earlier sibling on the way falls through. The conditions of the rule are to be evaluated in
the last scope. -/
inductive Arrives : List Rule → Scope Value → List Rule → Rule → Scope Value → Prop where
  | here {before after : List Rule} {rule : Rule} {scope : Scope Value}
      (passed : ∀ earlier ∈ before, earlier.FallsThrough scope) :
      Arrives (before ++ rule :: after) scope [] rule scope.push
  | inside {before after children path : List Rule} {conditions : List Condition}
      {notes : RuleNotes} {rule : Rule} {scope reached inner : Scope Value}
      (passed : ∀ earlier ∈ before, earlier.FallsThrough scope)
      (held : Condition.Hold conditions scope.push reached)
      (further : Arrives children reached path rule inner) :
      Arrives (before ++ .tree conditions children notes :: after) scope
        (.tree conditions children notes :: path) rule inner

/-- The conditions of an error or endpoint rule hold, and it has an outcome. -/
def Yields (rule : Rule) (inner : Scope Value) (outcome : Outcome) : Prop :=
  ∃ reached, Condition.Hold rule.conditions inner reached ∧
    rule.conclusion reached = some (.ok outcome)

/-- The conditions of a tree rule hold, and all of its rules fall through. -/
inductive Exhausted : Rule → Scope Value → Prop where
  | intro {conditions : List Condition} {children : List Rule} {notes : RuleNotes}
      {inner reached : Scope Value} (held : Condition.Hold conditions inner reached)
      (fall : ∀ child ∈ children, child.FallsThrough reached) :
      Exhausted (.tree conditions children notes) inner

/-- A condition of the rule has no value, or all hold and its message or endpoint has none. -/
def Fails (rule : Rule) (inner : Scope Value) (failure : EvaluationError) : Prop :=
  Condition.Fail rule.conditions inner failure ∨
    ∃ reached, Condition.Hold rule.conditions inner reached ∧
      rule.conclusion reached = some (.error failure)

theorem eval_of_fallThrough {rule : Rule} {inner : Scope Value}
    (falls : Condition.FallThrough rule.conditions inner) : (rule.eval inner).1 = .ok none := by
  have decided := Condition.evalAll_of_fallThrough falls
  generalize run : Condition.evalAll rule.conditions inner = result at decided
  obtain ⟨held, after⟩ := result
  cases decided
  cases rule <;> simp only [conditions] at run <;> simp only [eval, run]

theorem eval_of_fail {rule : Rule} {inner : Scope Value} {failure : EvaluationError}
    (fails : Condition.Fail rule.conditions inner failure) :
    (rule.eval inner).1 = .error failure := by
  have decided := Condition.evalAll_of_fail fails
  generalize run : Condition.evalAll rule.conditions inner = result at decided
  obtain ⟨held, after⟩ := result
  cases decided
  cases rule <;> simp only [conditions] at run <;> simp only [eval, run]

theorem eval_of_conclusion {rule : Rule} {inner reached : Scope Value}
    {result : Except EvaluationError Outcome}
    (held : Condition.Hold rule.conditions inner reached)
    (concluded : rule.conclusion reached = some result) : (rule.eval inner).1 = result.map some := by
  have run := Condition.evalAll_of_hold held []
  rw [List.append_nil, Condition.evalAll] at run
  cases rule with
  | tree => cases concluded
  | error tests message notes =>
    cases concluded
    simp only [conditions] at run
    simp only [eval, run]
    cases message.evalString reached <;> rfl
  | endpoint tests target notes =>
    cases concluded
    simp only [conditions] at run
    simp only [eval, run]
    cases target.eval reached <;> rfl

/-- Once its conditions hold, the rules of a tree decide: none matching is a failure, and no reason
to try the rules after the tree. -/
theorem eval_tree_of_hold {conditions : List Condition} {children : List Rule} {notes : RuleNotes}
    {inner reached : Scope Value} (held : Condition.Hold conditions inner reached) :
    ((Rule.tree conditions children notes).eval inner).1 = match (evalAll children reached).1 with
      | .ok none => .error (.exhaustedTree (Rule.tree conditions children notes).display)
      | decided => decided := by
  have run := Condition.evalAll_of_hold held []
  rw [List.append_nil, Condition.evalAll] at run
  simp only [eval, run]
  generalize evalAll children reached = result
  obtain ⟨found, after⟩ := result
  rcases found with failure | _ | outcome <;> rfl

/-- A rule has no outcome and does not fail exactly if it falls through. -/
theorem eval_eq_ok_none_iff (rule : Rule) (inner : Scope Value) :
    (rule.eval inner).1 = .ok none ↔ Condition.FallThrough rule.conditions inner := by
  refine ⟨fun passed => ?_, eval_of_fallThrough⟩
  rcases Condition.hold_or_fallThrough_or_fail rule.conditions inner with
    ⟨reached, held⟩ | falls | ⟨failure, fails⟩
  · exfalso
    cases rule with
    | tree tests children notes =>
      have all : Condition.Hold tests inner reached := held
      rw [eval_tree_of_hold all] at passed
      split at passed
      · cases passed
      next other => exact other passed
    | error conditions message notes =>
      rw [eval_of_conclusion held rfl] at passed
      cases text : message.evalString reached <;> simp [text, Except.map] at passed
    | endpoint conditions target notes =>
      rw [eval_of_conclusion held rfl] at passed
      cases result : target.eval reached <;> simp [result, Except.map] at passed
  · exact falls
  · rw [eval_of_fail fails] at passed
    cases passed

/-- Rules that fall through do not matter to those after them. -/
theorem evalAll_of_fallsThrough {before : List Rule} {scope : Scope Value}
    (passed : ∀ earlier ∈ before, earlier.FallsThrough scope) (rest : List Rule) :
    (evalAll (before ++ rest) scope).1 = (evalAll rest scope).1 := by
  induction before with
  | nil => rfl
  | cons first others ih =>
    obtain ⟨here, later⟩ := List.forall_mem_cons.mp passed
    rw [List.cons_append, evalAll_cons, (eval_eq_ok_none_iff first _).mpr here]
    exact ih later

/-- A rule that does not fall through decides, whatever comes after it. -/
theorem evalAll_cons_of_not_fallsThrough {rule : Rule} {scope : Scope Value}
    (decides : ¬ rule.FallsThrough scope) (rest : List Rule) :
    (evalAll (rule :: rest) scope).1 = (rule.eval scope.push).1 := by
  rw [evalAll_cons]
  split
  next passed => exact absurd ((eval_eq_ok_none_iff rule _).mp passed) decides
  · rfl

theorem not_fallsThrough_tree {conditions : List Condition} {children : List Rule}
    {notes : RuleNotes} {scope reached : Scope Value}
    (held : Condition.Hold conditions scope.push reached) :
    ¬ (Rule.tree conditions children notes).FallsThrough scope :=
  Condition.not_fallThrough_of_hold held

/-- The rule arrived at decides the evaluation if it does not fall through. -/
theorem evalAll_of_arrives {rules path : List Rule} {rule : Rule} {scope inner : Scope Value}
    (arrives : Arrives rules scope path rule inner)
    (decides : ¬ Condition.FallThrough rule.conditions inner) :
    (evalAll rules scope).1 = (rule.eval inner).1 := by
  induction arrives with
  | here passed =>
    rw [evalAll_of_fallsThrough passed, evalAll_cons_of_not_fallsThrough decides]
  | inside passed held further ih =>
    rw [evalAll_of_fallsThrough passed,
      evalAll_cons_of_not_fallsThrough (not_fallsThrough_tree held), eval_tree_of_hold held,
      ih decides]
    split
    next none => exact absurd ((eval_eq_ok_none_iff _ _).mp none) decides
    · rfl

/-! ## The deciding rule -/

theorem eval_of_yields {rule : Rule} {inner : Scope Value} {outcome : Outcome}
    (yields : rule.Yields inner outcome) : (rule.eval inner).1 = .ok (some outcome) := by
  obtain ⟨reached, held, concluded⟩ := yields
  rw [eval_of_conclusion held concluded]
  rfl

theorem eval_of_exhausted {rule : Rule} {inner : Scope Value} (exhausted : rule.Exhausted inner) :
    (rule.eval inner).1 = .error (.exhaustedTree rule.display) := by
  obtain ⟨held, fall⟩ := exhausted
  have passed := evalAll_of_fallsThrough fall []
  rw [List.append_nil] at passed
  rw [eval_tree_of_hold held, passed, evalAll]

theorem eval_of_fails {rule : Rule} {inner : Scope Value} {failure : EvaluationError}
    (fails : rule.Fails inner failure) : (rule.eval inner).1 = .error failure := by
  rcases fails with condition | ⟨reached, held, concluded⟩
  · exact eval_of_fail condition
  · rw [eval_of_conclusion held concluded]
    rfl

/-- What the evaluation of a rule ends with if it ends there: an outcome, an exhausted tree or a
failed expression. -/
def Ends (rule : Rule) (inner : Scope Value) (result : Except EvaluationError Outcome) : Prop :=
  (∃ outcome, rule.Yields inner outcome ∧ result = .ok outcome) ∨
  (rule.Exhausted inner ∧ result = .error (.exhaustedTree rule.display)) ∨
  ∃ failure, rule.Fails inner failure ∧ result = .error failure

theorem eval_of_ends {rule : Rule} {inner : Scope Value}
    {result : Except EvaluationError Outcome} (ends : rule.Ends inner result) :
    (rule.eval inner).1 = result.map some := by
  rcases ends with ⟨outcome, yields, rfl⟩ | ⟨exhausted, rfl⟩ | ⟨failure, fails, rfl⟩
  · exact eval_of_yields yields
  · exact eval_of_exhausted exhausted
  · exact eval_of_fails fails

/-- An error or endpoint rule whose conditions hold ends the evaluation. -/
theorem ends_of_conclusion {rule : Rule} {inner reached : Scope Value}
    {result : Except EvaluationError Outcome}
    (held : Condition.Hold rule.conditions inner reached)
    (concluded : rule.conclusion reached = some result) : rule.Ends inner result := by
  cases result with
  | ok outcome => exact .inl ⟨outcome, ⟨reached, held, concluded⟩, rfl⟩
  | error failure => exact .inr (.inr ⟨failure, .inr ⟨reached, held, concluded⟩, rfl⟩)

theorem evalAll_of_ends {rules path : List Rule} {rule : Rule} {scope inner : Scope Value}
    {result : Except EvaluationError Outcome} (arrives : Arrives rules scope path rule inner)
    (ends : rule.Ends inner result) : (evalAll rules scope).1 = result.map some := by
  have decided := eval_of_ends ends
  rw [evalAll_of_arrives arrives, decided]
  intro falls
  rw [eval_of_fallThrough falls] at decided
  cases result <;> cases decided

theorem Arrives.cons {first rule : Rule} {rest path : List Rule} {scope inner : Scope Value}
    (falls : first.FallsThrough scope) (arrives : Arrives rest scope path rule inner) :
    Arrives (first :: rest) scope path rule inner := by
  cases arrives with
  | @here before after rule scope passed =>
    exact @Arrives.here (first :: before) after rule scope
      (List.forall_mem_cons.mpr ⟨falls, passed⟩)
  | @inside before after children path conditions notes rule scope reached inner passed held
      further =>
    exact @Arrives.inside (first :: before) after children path conditions notes rule scope reached
      inner (List.forall_mem_cons.mpr ⟨falls, passed⟩) held further

/-- The evaluation arrives at the first rule of a list, whatever comes after it. -/
theorem arrives_head (rule : Rule) (rest : List Rule) (scope : Scope Value) :
    Arrives (rule :: rest) scope [] rule scope.push :=
  @Arrives.here [] rest rule scope (by simp)

theorem arrives_inside {conditions : List Condition} {children path : List Rule}
    {notes : RuleNotes} {last : Rule} {scope reached inner : Scope Value}
    (held : Condition.Hold conditions scope.push reached)
    (further : Arrives children reached path last inner) (rest : List Rule) :
    Arrives (.tree conditions children notes :: rest) scope
      (.tree conditions children notes :: path) last inner :=
  @Arrives.inside [] rest children path conditions notes last scope reached inner (by simp) held
    further

mutual

/-- A rule falls through, or the evaluation ends at it or at a rule inside it. -/
theorem fallThrough_or_ends : (rule : Rule) → (rest : List Rule) → (scope : Scope Value) →
    rule.FallsThrough scope ∨
      ∃ path last inner result, Arrives (rule :: rest) scope path last inner ∧
        last.Ends inner result
  | .tree conditions children notes, rest, scope => by
    have head := arrives_head (.tree conditions children notes) rest scope
    rcases Condition.hold_or_fallThrough_or_fail conditions scope.push with
      ⟨reached, held⟩ | falls | ⟨failure, fails⟩
    · rcases fall_or_end children reached with fall | ⟨path, last, inner, result, further, ends⟩
      · exact .inr ⟨_, _, _, _, head, .inr (.inl ⟨.intro held fall, rfl⟩)⟩
      · exact .inr ⟨_, last, inner, result, arrives_inside held further rest, ends⟩
    · exact .inl falls
    · exact .inr ⟨_, _, _, _, head, .inr (.inr ⟨failure, .inl fails, rfl⟩)⟩
  | .error conditions message notes, rest, scope => by
    have head := arrives_head (.error conditions message notes) rest scope
    rcases Condition.hold_or_fallThrough_or_fail conditions scope.push with
      ⟨reached, held⟩ | falls | ⟨failure, fails⟩
    · exact .inr ⟨_, _, _, _, head, ends_of_conclusion held rfl⟩
    · exact .inl falls
    · exact .inr ⟨_, _, _, _, head, .inr (.inr ⟨failure, .inl fails, rfl⟩)⟩
  | .endpoint conditions target notes, rest, scope => by
    have head := arrives_head (.endpoint conditions target notes) rest scope
    rcases Condition.hold_or_fallThrough_or_fail conditions scope.push with
      ⟨reached, held⟩ | falls | ⟨failure, fails⟩
    · exact .inr ⟨_, _, _, _, head, ends_of_conclusion held rfl⟩
    · exact .inl falls
    · exact .inr ⟨_, _, _, _, head, .inr (.inr ⟨failure, .inl fails, rfl⟩)⟩

/-- All rules fall through, or the evaluation ends at a rule that it arrives at. -/
theorem fall_or_end : (rules : List Rule) → (scope : Scope Value) →
    (∀ rule ∈ rules, rule.FallsThrough scope) ∨
      ∃ path last inner result, Arrives rules scope path last inner ∧ last.Ends inner result
  | [], _ => .inl (by simp)
  | rule :: rest, scope => by
    rcases fallThrough_or_ends rule rest scope with falls | ends
    · rcases fall_or_end rest scope with fall | ⟨path, last, inner, result, further, ends⟩
      · exact .inl (List.forall_mem_cons.mpr ⟨falls, fall⟩)
      · exact .inr ⟨path, last, inner, result, further.cons falls, ends⟩
    · exact .inr ends

end

theorem evalAll_of_fall {rules : List Rule} {scope : Scope Value}
    (fall : ∀ rule ∈ rules, rule.FallsThrough scope) : (evalAll rules scope).1 = .ok none := by
  have passed := evalAll_of_fallsThrough fall []
  rwa [List.append_nil, evalAll] at passed

theorem evalAll_eq_ok_none_iff (rules : List Rule) (scope : Scope Value) :
    (evalAll rules scope).1 = .ok none ↔ ∀ rule ∈ rules, rule.FallsThrough scope := by
  refine ⟨fun passed => ?_, evalAll_of_fall⟩
  rcases fall_or_end rules scope with fall | ⟨path, last, inner, result, arrives, ends⟩
  · exact fall
  · rw [evalAll_of_ends arrives ends] at passed
    cases result <;> cases passed

/-- The evaluation has a result exactly if it arrives at a rule that ends with this result. -/
theorem evalAll_eq_iff_ends (rules : List Rule) (scope : Scope Value)
    (result : Except EvaluationError Outcome) :
    (evalAll rules scope).1 = result.map some ↔
      ∃ path rule inner, Arrives rules scope path rule inner ∧ rule.Ends inner result := by
  constructor
  · intro decided
    rcases fall_or_end rules scope with fall | ⟨path, last, inner, other, arrives, ends⟩
    · rw [evalAll_of_fall fall] at decided
      cases result <;> cases decided
    · rw [evalAll_of_ends arrives ends] at decided
      have same : other = result := by
        cases other <;> cases result <;> cases decided <;> rfl
      exact ⟨path, last, inner, arrives, same ▸ ends⟩
  · rintro ⟨path, rule, inner, arrives, ends⟩
    exact evalAll_of_ends arrives ends

/-! ## What never matters -/

/-- Every expression of a rule arrived at, and of the tree rules on the path, is one of the rules. -/
theorem Arrives.each {property : Expr → Prop} {rules path : List Rule} {rule : Rule}
    {scope inner : Scope Value} (arrives : Arrives rules scope path rule inner)
    (each : AllEach property rules) : rule.Each property := by
  induction arrives with
  | here passed =>
    rw [allEach_iff] at each
    exact each _ (by simp)
  | inside passed held further ih =>
    rw [allEach_iff] at each
    exact ih (each _ (List.mem_append_right _ List.mem_cons_self)).2

/-- A rule fails with failures of a kind only, if its expressions do. -/
theorem Fails.kind {kind : EvaluationError → Prop}
    (unexpected : ∀ expected found, kind (.unexpectedValue expected found)) {rule : Rule}
    {inner : Scope Value} {failure : EvaluationError} (fails : rule.Fails inner failure)
    (each : rule.Each (Expr.FailsOnly kind)) : kind failure := by
  rcases fails with ⟨before, condition, rest, reached, split, held, failed⟩ |
    ⟨reached, held, concluded⟩
  · have only := each.conditions condition (by rw [split]; simp) reached
    rw [failed] at only
    exact only
  · cases rule with
    | tree => cases concluded
    | error tests message notes =>
      have only := (each.2.evalString unexpected reached).map Outcome.error
      rw [Option.some.inj concluded] at only
      exact only
    | endpoint tests target notes =>
      have only := (target.eval_failsOnly unexpected reached each.2).map Outcome.endpoint
      rw [Option.some.inj concluded] at only
      exact only

/-- A rule fails with failures of a kind only, if the functions that it calls do. -/
theorem failsOnly_of_fails {kind : EvaluationError → Prop} (common : EvaluationError.Common kind)
    {rule : Rule} {inner : Scope Value} {failure : EvaluationError}
    (each : rule.Each (Expr.Calls (Function.FailsOnly kind)))
    (fails : rule.Fails inner failure) : kind failure :=
  fails.kind common.unexpected (each.mono (Expr.failsOnly_of_calls common))

/-- No result depends on what comes after the condition that decides. -/
theorem eval_eq_of_same_conditions {rule other : Rule} {before rest others : List Condition}
    {condition : Condition} {inner reached : Scope Value}
    (first : rule.conditions = before ++ condition :: rest)
    (second : other.conditions = before ++ condition :: others)
    (held : Condition.Hold before inner reached)
    (unmet : ∀ value, condition.test.eval reached = .ok value →
      value = .empty ∨ value = .boolean false) : (rule.eval inner).1 = (other.eval inner).1 := by
  cases executed : condition.test.eval reached with
  | error failure =>
    rw [eval_of_fail ⟨before, condition, rest, reached, first, held, executed⟩,
      eval_of_fail ⟨before, condition, others, reached, second, held, executed⟩]
  | ok value =>
    have decided := unmet value executed
    rw [eval_of_fallThrough ⟨before, condition, rest, reached, value, first, held, executed, decided⟩,
      eval_of_fallThrough
        ⟨before, condition, others, reached, value, second, held, executed, decided⟩]

/-- A failure other than that a tree is exhausted. -/
def NeverExhausted (failure : EvaluationError) : Prop :=
  ∀ rule, failure ≠ .exhaustedTree rule

theorem neverExhausted_common : EvaluationError.Common NeverExhausted where
  unexpected := nofun
  counted := nofun

theorem standard_neverExhausted :
    ∀ function, Registry.standard.Has function → function.FailsOnly NeverExhausted :=
  Function.standard_failsOnly neverExhausted_common nofun

/-- The evaluation of rules is the first match by paths. There is an outcome exactly if there is a
path to an error or endpoint rule with this outcome; there is none exactly if all rules fall
through; and the evaluation fails exactly if there is a path to a tree rule that is exhausted, or to
a rule with an expression that fails, which reports no exhausted tree unless a function does. The
rule at the end of a path decides alone: neither the rules nor the conditions after the deciding one
matter, and a tree whose conditions hold is not left again. -/
theorem evalAll_first_match (rules : List Rule) (scope : Scope Value) :
    (∀ outcome, (evalAll rules scope).1 = .ok (some outcome) ↔
      ∃ path rule inner, Arrives rules scope path rule inner ∧ rule.Yields inner outcome) ∧
    ((evalAll rules scope).1 = .ok none ↔ ∀ rule ∈ rules, rule.FallsThrough scope) ∧
    (∀ failure, (evalAll rules scope).1 = .error failure ↔
      ∃ path rule inner, Arrives rules scope path rule inner ∧
        ((rule.Exhausted inner ∧ failure = .exhaustedTree rule.display) ∨
          rule.Fails inner failure)) ∧
    (AllEach (Expr.Calls (Function.FailsOnly NeverExhausted)) rules →
      ∀ text, (evalAll rules scope).1 = .error (.exhaustedTree text) ↔
        ∃ path rule inner, Arrives rules scope path rule inner ∧ rule.Exhausted inner ∧
          text = rule.display) ∧
    (∀ path rule inner, Arrives rules scope path rule inner →
      ¬ Condition.FallThrough rule.conditions inner →
      (evalAll rules scope).1 = (rule.eval inner).1) ∧
    (∀ (rule other : Rule) before condition rest others inner reached,
      rule.conditions = before ++ condition :: rest →
      other.conditions = before ++ condition :: others → Condition.Hold before inner reached →
      (∀ value, condition.test.eval reached = .ok value →
        value = .empty ∨ value = .boolean false) →
      (rule.eval inner).1 = (other.eval inner).1) ∧
    (∀ conditions children notes inner reached, Condition.Hold conditions inner reached →
      ((Rule.tree conditions children notes).eval inner).1 = match (evalAll children reached).1 with
        | .ok none => .error (.exhaustedTree (Rule.tree conditions children notes).display)
        | decided => decided) := by
  have outcomes : ∀ outcome, (evalAll rules scope).1 = .ok (some outcome) ↔
      ∃ path rule inner, Arrives rules scope path rule inner ∧ rule.Yields inner outcome := by
    intro outcome
    refine (evalAll_eq_iff_ends rules scope (.ok outcome)).trans ?_
    simp only [Ends, Except.ok.injEq, exists_eq_right', reduceCtorEq, and_false, exists_false,
      or_false]
  have failures : ∀ failure, (evalAll rules scope).1 = .error failure ↔
      ∃ path rule inner, Arrives rules scope path rule inner ∧
        ((rule.Exhausted inner ∧ failure = .exhaustedTree rule.display) ∨
          rule.Fails inner failure) := by
    intro failure
    refine (evalAll_eq_iff_ends rules scope (.error failure)).trans ?_
    simp only [Ends, Except.error.injEq, exists_eq_right', reduceCtorEq, and_false, exists_false,
      false_or]
  refine ⟨outcomes, evalAll_eq_ok_none_iff rules scope, failures, ?_, ?_, ?_, ?_⟩
  · intro each text
    rw [failures]
    constructor
    · rintro ⟨path, rule, inner, arrives, ⟨exhausted, same⟩ | fails⟩
      · exact ⟨path, rule, inner, arrives, exhausted, EvaluationError.exhaustedTree.inj same⟩
      · have never := failsOnly_of_fails neverExhausted_common (arrives.each each) fails
        exact absurd rfl (never text)
    · rintro ⟨path, rule, inner, arrives, exhausted, rfl⟩
      exact ⟨path, rule, inner, arrives, .inl ⟨exhausted, rfl⟩⟩
  · intro path rule inner arrives decides
    exact evalAll_of_arrives arrives decides
  · intro rule other before condition rest others inner reached first second held unmet
    exact eval_eq_of_same_conditions first second held unmet
  · intro conditions children notes inner reached held
    exact eval_tree_of_hold held

/-- A tree with one rule, for the case that `Region` is set. -/
def regionTree : Rule :=
  .tree [] [.error [⟨.call .isSet [.reference "Region" .unknown] .unknown, none⟩]
    (.string "region is set") .none] .none

theorem evalAll_first_match_of_regionTree :
    (evalAll [regionTree] .empty).1 = .error (.exhaustedTree regionTree.display) := by
  have each : AllEach (Expr.Calls (Function.FailsOnly NeverExhausted)) [regionTree] := by
    refine ⟨⟨by simp, ⟨?_, trivial⟩, trivial⟩, trivial⟩
    rintro condition (_ | ⟨_, ⟨⟩⟩)
    exact ⟨standard_neverExhausted .isSet rfl, trivial, trivial⟩
  refine ((evalAll_first_match [regionTree] .empty).2.2.2.1 each _).mpr
    ⟨[], regionTree, _, arrives_head regionTree [] .empty, .intro (.nil _) ?_, rfl⟩
  rintro child (_ | ⟨_, ⟨⟩⟩)
  exact ⟨[], _, [], _, .boolean false, rfl, .nil _, rfl, .inr rfl⟩

end Rule
end EndpointResolution
