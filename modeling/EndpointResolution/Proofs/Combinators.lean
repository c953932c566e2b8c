import EndpointResolution.Function.Registry
import EndpointResolution.Proofs.FirstMatch
import EndpointResolution.Proofs.SameValues

/-!
Rules made of a message, conditions and another rule. They are trees of two rules without conditions
of their own, and mean what their names say: one of the two results, with the bindings of the
conditions exactly where these hold. They never fall through, and the two forms differ in the text
of the exhausted tree alone where the one condition is the negation of the other.
-/
namespace EndpointResolution.Rule

/-- The result of the rules in a tree. If all fall through the tree is exhausted. -/
def orExhausted (tree : Rule) (result : Except EvaluationError (Option Outcome)) :
    Except EvaluationError (Option Outcome) :=
  match result with
  | .ok none => .error (.exhaustedTree tree.display)
  | decided => decided

theorem orExhausted_of_ne {tree : Rule} {result : Except EvaluationError (Option Outcome)}
    (decided : result ≠ .ok none) : tree.orExhausted result = result := by
  rcases result with failure | _ | outcome
  · rfl
  · exact absurd rfl decided
  · rfl

/-- The outcome of an error rule that matches: its message. -/
def evalMessage (message : Expr) (scope : Scope Value) :
    Except EvaluationError (Option Outcome) :=
  (message.evalString scope).map fun text => some (.error text)

theorem evalMessage_ne_none (message : Expr) (scope : Scope Value) :
    evalMessage message scope ≠ .ok none := by
  unfold evalMessage
  cases message.evalString scope <;> exact nofun

section

variable {conditions : List Condition} {scope reached : Scope Value}

theorem evalAll_one (rule : Rule) (scope : Scope Value) :
    (evalAll [rule] scope).1 = (rule.eval scope).1 := by
  rw [evalAll_cons, eval_push]
  rcases (rule.eval scope).1 with failure | _ | outcome <;> rfl

theorem eval_tree_one (held : Condition.Hold conditions scope reached) (next : Rule)
    (notes : RuleNotes) : ((Rule.tree conditions [next] notes).eval scope).1 =
      (Rule.tree conditions [next] notes).orExhausted (next.eval reached).1 := by
  rw [eval_tree_of_hold held, evalAll_one]
  rfl

theorem eval_error (held : Condition.Hold conditions scope reached) (message : Expr)
    (notes : RuleNotes) :
    ((Rule.error conditions message notes).eval scope).1 = evalMessage message reached := by
  have tests : Condition.Hold (Rule.error conditions message notes).conditions scope reached := held
  rw [eval_of_conclusion tests rfl, evalMessage]
  cases message.evalString reached <;> rfl

/-- Without conditions of its own a tree has the result of its first rule or else of its second
one. -/
theorem eval_tree_two (first second : Rule) (scope : Scope Value) :
    ((Rule.tree [] [first, second] .none).eval scope).1 =
      (Rule.tree [] [first, second] .none).orExhausted (match (first.eval scope).1 with
        | .ok none => (second.eval scope).1
        | decided => decided) := by
  rw [eval_tree_of_hold (.nil scope), evalAll_cons, evalAll_one, eval_push]
  rfl

theorem eval_tree_two_of_first {first second : Rule} (decides : (first.eval scope).1 ≠ .ok none) :
    ((Rule.tree [] [first, second] .none).eval scope).1 = (first.eval scope).1 := by
  rw [eval_tree_two]
  split
  next passed => exact absurd passed decides
  next => exact orExhausted_of_ne decides

theorem eval_tree_two_of_second {first second : Rule} (passed : (first.eval scope).1 = .ok none) :
    ((Rule.tree [] [first, second] .none).eval scope).1 =
      (Rule.tree [] [first, second] .none).orExhausted (second.eval scope).1 := by
  rw [eval_tree_two, passed]

theorem eval_tree_ne_none (held : Condition.Hold conditions scope reached) (rules : List Rule)
    (notes : RuleNotes) : ((Rule.tree conditions rules notes).eval scope).1 ≠ .ok none := by
  rw [ne_eq, eval_eq_ok_none_iff]
  exact Condition.not_fallThrough_of_hold held

variable (message : Expr) (next : Rule)

theorem eval_validateOrElse_of_hold (held : Condition.Hold conditions scope reached) :
    ((validateOrElse message conditions next).eval scope).1 =
      (Rule.tree conditions [next] .none).orExhausted (next.eval reached).1 := by
  rw [validateOrElse, eval_tree_two_of_first (eval_tree_ne_none held [next] .none),
    eval_tree_one held]

theorem eval_validateOrElse_of_fallThrough (falls : Condition.FallThrough conditions scope) :
    ((validateOrElse message conditions next).eval scope).1 = evalMessage message scope := by
  have passed : ((Rule.tree conditions [next] .none).eval scope).1 = .ok none :=
    eval_of_fallThrough falls
  rw [validateOrElse, eval_tree_two_of_second passed, eval_error (.nil scope),
    orExhausted_of_ne (evalMessage_ne_none message scope)]

theorem eval_validateOrElse_of_fail {failure : EvaluationError}
    (fails : Condition.Fail conditions scope failure) :
    ((validateOrElse message conditions next).eval scope).1 = .error failure := by
  have failed : ((Rule.tree conditions [next] .none).eval scope).1 = .error failure :=
    eval_of_fail fails
  rw [validateOrElse, eval_tree_two_of_first (failed ▸ nofun), failed]

theorem eval_errorOrElse_of_hold (held : Condition.Hold conditions scope reached) :
    ((errorOrElse message conditions next).eval scope).1 = evalMessage message reached := by
  have decided := eval_error held message .none
  rw [errorOrElse, eval_tree_two_of_first (decided ▸ evalMessage_ne_none message reached), decided]

theorem eval_errorOrElse_of_fallThrough (falls : Condition.FallThrough conditions scope) :
    ((errorOrElse message conditions next).eval scope).1 =
      (errorOrElse message conditions next).orExhausted (next.eval scope).1 := by
  have passed : ((Rule.error conditions message .none).eval scope).1 = .ok none :=
    eval_of_fallThrough falls
  exact eval_tree_two_of_second passed

theorem eval_errorOrElse_of_fail {failure : EvaluationError}
    (fails : Condition.Fail conditions scope failure) :
    ((errorOrElse message conditions next).eval scope).1 = .error failure := by
  have failed : ((Rule.error conditions message .none).eval scope).1 = .error failure :=
    eval_of_fail fails
  rw [errorOrElse, eval_tree_two_of_first (failed ▸ nofun), failed]

end

theorem eval_negation {test negated : Expr} {scope : Scope Value} {answer : Bool}
    (executed : test.eval scope = .ok (.boolean answer))
    (built : Registry.standard.call "not" [test] = .ok negated) (location : Location) :
    (negated.relocate location).eval scope = .ok (.boolean !answer) := by
  cases built
  have called := Expr.eval_call_one scope .negation test location
  rw [executed] at called
  exact called

/-- A condition without a result name whose value is true holds and binds nothing. -/
theorem hold_of_true {condition : Condition} {scope : Scope Value}
    (unnamed : condition.result = none)
    (executed : condition.test.eval scope = .ok (.boolean true)) :
    Condition.Hold [condition] scope scope := by
  have others : Condition.Hold [] (condition.bind (.boolean true) scope) scope := by
    rw [Condition.bind, unnamed]
    exact .nil scope
  exact .cons executed nofun (by simp) others

theorem fallThrough_of_false {condition : Condition} {scope : Scope Value}
    (executed : condition.test.eval scope = .ok (.boolean false)) :
    Condition.FallThrough [condition] scope :=
  Condition.fallThrough_head executed (.inr rfl)

/-- To validate a condition is to refuse its negation, up to the tree that may be exhausted. -/
theorem eval_validateOrElse_negation (message : Expr) (next : Rule) {scope : Scope Value}
    {condition : Condition} {negated : Expr} {answer : Bool} (location : Location)
    (unnamed : condition.result = none)
    (executed : condition.test.eval scope = .ok (.boolean answer))
    (built : Registry.standard.call "not" [condition.test] = .ok negated) :
    ((validateOrElse message [condition] next).eval scope).1 =
        ((errorOrElse message [⟨negated.relocate location, none⟩] next).eval scope).1 ∨
      ((validateOrElse message [condition] next).eval scope).1 =
          .error (.exhaustedTree (Rule.tree [condition] [next] .none).display) ∧
        ((errorOrElse message [⟨negated.relocate location, none⟩] next).eval scope).1 =
          .error (.exhaustedTree
            (errorOrElse message [⟨negated.relocate location, none⟩] next).display) := by
  have opposite := eval_negation executed built location
  cases answer with
  | true =>
    rw [eval_validateOrElse_of_hold message next (hold_of_true unnamed executed),
      eval_errorOrElse_of_fallThrough message next (fallThrough_of_false opposite)]
    rcases (next.eval scope).1 with failure | _ | outcome
    · exact .inl rfl
    · exact .inr ⟨rfl, rfl⟩
    · exact .inl rfl
  | false =>
    rw [eval_validateOrElse_of_fallThrough message next (fallThrough_of_false executed),
      eval_errorOrElse_of_hold message next (hold_of_true rfl opposite)]
    exact .inl rfl

/-- The two forms mean what they say, for all conditions, rules inside them and scopes around them.
The failure of a condition after others that hold is theirs. If all conditions hold the inner rule
or the message sees their results, and else neither does. There always is an outcome or a failure,
and a truth value may be validated or its opposite refused. -/
theorem orElse_exact (message : Expr) (conditions : List Condition) (next : Rule)
    (scope : Scope Value) :
    ((∃ reached, Condition.Hold conditions scope reached) ∨
      Condition.FallThrough conditions scope ∨
        ∃ failure, Condition.Fail conditions scope failure) ∧
    (∀ failure, Condition.Fail conditions scope failure →
      ((validateOrElse message conditions next).eval scope).1 = .error failure ∧
        ((errorOrElse message conditions next).eval scope).1 = .error failure) ∧
    (∀ reached, Condition.Hold conditions scope reached →
      ((validateOrElse message conditions next).eval scope).1 =
          (Rule.tree conditions [next] .none).orExhausted (next.eval reached).1 ∧
        ((errorOrElse message conditions next).eval scope).1 = evalMessage message reached) ∧
    (Condition.FallThrough conditions scope →
      ((validateOrElse message conditions next).eval scope).1 = evalMessage message scope ∧
        ((errorOrElse message conditions next).eval scope).1 =
          (errorOrElse message conditions next).orExhausted (next.eval scope).1) ∧
    ((validateOrElse message conditions next).eval scope).1 ≠ .ok none ∧
    ((errorOrElse message conditions next).eval scope).1 ≠ .ok none ∧
    ∀ (condition : Condition) (negated : Expr) (answer : Bool) (location : Location),
      condition.result = none → condition.test.eval scope = .ok (.boolean answer) →
      Registry.standard.call "not" [condition.test] = .ok negated →
        ((validateOrElse message [condition] next).eval scope).1 =
            ((errorOrElse message [⟨negated.relocate location, none⟩] next).eval scope).1 ∨
          ((validateOrElse message [condition] next).eval scope).1 =
              .error (.exhaustedTree (Rule.tree [condition] [next] .none).display) ∧
            ((errorOrElse message [⟨negated.relocate location, none⟩] next).eval scope).1 =
              .error (.exhaustedTree
                (errorOrElse message [⟨negated.relocate location, none⟩] next).display) := by
  refine ⟨Condition.hold_or_fallThrough_or_fail conditions scope, fun failure fails => ?_,
    fun reached held => ?_, fun falls => ?_, eval_tree_ne_none (.nil scope) _ _,
    eval_tree_ne_none (.nil scope) _ _, fun condition negated answer location => ?_⟩
  · exact ⟨eval_validateOrElse_of_fail message next fails,
      eval_errorOrElse_of_fail message next fails⟩
  · exact ⟨eval_validateOrElse_of_hold message next held,
      eval_errorOrElse_of_hold message next held⟩
  · exact ⟨eval_validateOrElse_of_fallThrough message next falls,
      eval_errorOrElse_of_fallThrough message next falls⟩
  · exact eval_validateOrElse_negation message next location

/-- The region, under another name. -/
def namedRegion : Condition := ⟨.reference "Region" .unknown, some "Name"⟩

/-- An error rule whose message is the name. -/
def showsName : Rule := .error [] (.reference "Name" .unknown) .none

/-- The rule inside sees the name of a region that is set. Without a region there is the message, and
refusing that no region is set comes to the same. -/
theorem orElse_exact_of_region :
    ((validateOrElse (.string "no region") [namedRegion] showsName).eval
        (Scope.empty.insert "Region" (.string "a"))).1 = .ok (some (.error "a")) ∧
      ((validateOrElse (.string "no region") [namedRegion] showsName).eval .empty).1 =
        .ok (some (.error "no region")) ∧
      ((errorOrElse (.string "no region")
        [⟨.call .negation [.call .isSet [.reference "Region" .unknown] .unknown] .unknown, none⟩]
          showsName).eval .empty).1 = .ok (some (.error "no region")) ∧
      ((validateOrElse (.string "no region") [⟨.call .negation [.string "a"] .unknown, none⟩]
        showsName).eval .empty).1 = .error (.unexpectedValue "Boolean" "String") := by
  have bound : Condition.Hold [namedRegion] (Scope.empty.insert "Region" (.string "a"))
      ((Scope.empty.insert "Region" (.string "a")).insert "Name" (.string "a")) :=
    .cons rfl nofun nofun (.nil _)
  have unbound : Condition.FallThrough [namedRegion] .empty :=
    ⟨[], _, [], _, .empty, rfl, .nil _, rfl, .inl rfl⟩
  have failing : Condition.Fail [⟨.call .negation [.string "a"] .unknown, none⟩] .empty
      (.unexpectedValue "Boolean" "String") := ⟨[], _, [], _, rfl, .nil _, rfl⟩
  have unset : Condition.FallThrough
      [⟨.call .isSet [.reference "Region" .unknown] .unknown, none⟩] .empty :=
    fallThrough_of_false rfl
  refine ⟨?_, ?_, ?_, ?_⟩
  · exact ((orElse_exact (.string "no region") [namedRegion] showsName _).2.2.1 _ bound).1
  · exact ((orElse_exact (.string "no region") [namedRegion] showsName _).2.2.2.1 unbound).1
  · obtain ⟨-, -, -, falls, -, -, negate⟩ := orElse_exact (.string "no region")
      [⟨.call .isSet [.reference "Region" .unknown] .unknown, none⟩] showsName .empty
    have refused := (falls unset).1
    rcases negate ⟨.call .isSet [.reference "Region" .unknown] .unknown, none⟩ _ false .unknown rfl
      rfl rfl with same | ⟨exhausted, -⟩
    · exact same.symm.trans refused
    · cases exhausted.symm.trans refused
  · exact ((orElse_exact (.string "no region") _ showsName _).2.1 _ failing).1

end EndpointResolution.Rule
