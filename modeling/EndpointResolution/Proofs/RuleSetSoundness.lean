import EndpointResolution.Proofs.RuleSoundness

/-!
What the evaluation of a checked rule-set may fail with. Arguments may be refused or missing, and
the rules may not match; an expression fails only after a fact that its check relied on went stale.
-/
namespace EndpointResolution

/-- The failure is one that checked rule-sets may have. -/
def EvaluationError.Foreseen : EvaluationError → Prop
  | .missingParameter _ => True
  | .invalidParameter _ _ _ => True
  | .exhaustedTree _ => True
  | .noRuleMatched => True
  | .unexpectedValue _ _ => False
  | .argumentCount _ _ _ => False
  | .invalidPath _ _ => False

/-- The failure is one that no checked rule-set should have. -/
def EvaluationError.Unforeseen (failure : EvaluationError) : Prop :=
  ¬ failure.Foreseen

theorem EvaluationError.unforeseen_common : Common Unforeseen where
  unexpected := fun _ _ foreseen => foreseen
  counted := fun _ _ _ foreseen => foreseen

theorem Function.standard_unforeseen :
    ∀ function, Registry.standard.Has function →
      function.FailsOnly EvaluationError.Unforeseen :=
  standard_failsOnly EvaluationError.unforeseen_common fun _ _ foreseen => foreseen

namespace Rule

mutual

/-- The conditions of the rule and of the rules inside it. -/
def allConditions : Rule → List Condition
  | .tree conditions rules _ => conditions ++ conditionsOfAll rules
  | .error conditions _ _ => conditions
  | .endpoint conditions _ _ => conditions

/-- The conditions of the rules and of the rules inside them. -/
def conditionsOfAll : List Rule → List Condition
  | [] => []
  | rule :: rest => allConditions rule ++ conditionsOfAll rest

end

theorem conditions_subset_allConditions (rule : Rule) : rule.conditions ⊆ rule.allConditions := by
  cases rule with
  | tree conditions rules notes =>
    rw [allConditions]
    exact List.subset_append_left _ _
  | error conditions message notes =>
    rw [allConditions]
    exact List.Subset.refl _
  | endpoint conditions target notes =>
    rw [allConditions]
    exact List.Subset.refl _

theorem allConditions_subset_of_mem {rules : List Rule} {rule : Rule} (member : rule ∈ rules) :
    rule.allConditions ⊆ conditionsOfAll rules := by
  induction rules with
  | nil => simp at member
  | cons first rest ih =>
    rw [conditionsOfAll]
    rcases List.mem_cons.mp member with rfl | later
    · exact List.subset_append_left _ _
    · exact List.Subset.trans (ih later) (List.subset_append_right _ _)

/-- The conditions evaluated on the way to a rule, and its own, are among those of the rules. -/
theorem Arrives.conditions_subset {rules path : List Rule} {rule : Rule} {scope inner : Scope Value}
    (arrives : Arrives rules scope path rule inner) :
    ∀ passed ∈ path ++ [rule], passed.conditions ⊆ conditionsOfAll rules := by
  induction arrives with
  | @here before after rule scope passed =>
    intro last same
    obtain rfl : last = rule := by simpa using same
    exact List.Subset.trans (conditions_subset_allConditions last)
      (allConditions_subset_of_mem (List.mem_append_right _ List.mem_cons_self))
  | @inside before after children path conditions notes rule scope reached inner passed held further
      ih =>
    have inside : (Rule.tree conditions children notes).allConditions ⊆
        conditionsOfAll (before ++ .tree conditions children notes :: after) :=
      allConditions_subset_of_mem (List.mem_append_right _ List.mem_cons_self)
    intro last member
    rcases List.mem_cons.mp member with rfl | later
    · exact List.Subset.trans (conditions_subset_allConditions _) inside
    · rw [allConditions] at inside
      exact List.Subset.trans (ih last later)
        (List.Subset.trans (List.subset_append_right _ _) inside)

end Rule

namespace RuleSet

/-- The evaluation arrives at a rule that fails after a condition on the way has made a fact stale:
after it has bound a name by which an expression that was proved set became empty. -/
def FailsStale (set : RuleSet) (arguments : Fields Value) : Prop :=
  ∃ scope path rule inner failure, set.seed arguments = .ok scope ∧
    Rule.Arrives set.rules scope path rule inner ∧ rule.Fails inner failure ∧
    Rule.StaleOnPath [] set.rules scope (path ++ [rule])

/-- No condition binds a name that an expression mentions which some condition proves set. -/
def NeverRebinds (set : RuleSet) : Prop :=
  ∀ binding ∈ Rule.conditionsOfAll set.rules, ∀ name, binding.result = some name →
    ∀ fact ∈ Condition.proven (Rule.conditionsOfAll set.rules), fact.mentions name = false

variable {set : RuleSet} {arguments : Fields Value} {scope : Scope Value}

theorem evaluate_of_seed (seeded : set.seed arguments = .ok scope) :
    set.evaluate arguments = match (Rule.evalAll set.rules scope).1 with
      | .error failure => .error failure
      | .ok none => .error .noRuleMatched
      | .ok (some outcome) => .ok outcome := by
  rw [evaluate, seeded]
  rfl

/-- The evaluation of a rule that fails decides the evaluation of the rule-set. -/
theorem evaluate_of_fails {path : List Rule} {rule : Rule} {inner : Scope Value}
    {failure : EvaluationError} (seeded : set.seed arguments = .ok scope)
    (arrives : Rule.Arrives set.rules scope path rule inner) (fails : rule.Fails inner failure) :
    set.evaluate arguments = .error failure := by
  have ends : rule.Ends inner (.error failure) := .inr (.inr ⟨failure, fails, rfl⟩)
  rw [evaluate_of_seed seeded, Rule.evalAll_of_ends arrives ends]
  rfl

/-- How the evaluation of a rule-set can fail: at the arguments, since no rule matches, since a tree
is exhausted that it arrives at, or at an expression of a rule that it arrives at. -/
theorem failure_cases {failure : EvaluationError}
    (failed : set.evaluate arguments = .error failure) :
    ((∃ name expected found, failure = .invalidParameter name expected found) ∨
      ∃ name, failure = .missingParameter name) ∨
    ∃ scope, set.seed arguments = .ok scope ∧
      ((failure = .noRuleMatched ∧ ∀ rule ∈ set.rules, rule.FallsThrough scope) ∨
      ∃ path rule inner, Rule.Arrives set.rules scope path rule inner ∧
        ((failure = .exhaustedTree rule.display ∧ rule.Exhausted inner) ∨
          rule.Fails inner failure)) := by
  cases seeded : set.seed arguments with
  | error refused =>
    rw [evaluate, seeded] at failed
    exact .inl (seed_error (Except.error.inj failed ▸ seeded))
  | ok scope =>
    right
    refine ⟨scope, rfl, ?_⟩
    rw [evaluate_of_seed seeded] at failed
    rcases Rule.fall_or_end set.rules scope with fall | ⟨path, rule, inner, result, arrives, ends⟩
    · rw [Rule.evalAll_of_fall fall] at failed
      exact .inl ⟨(Except.error.inj failed).symm, fall⟩
    · right
      refine ⟨path, rule, inner, arrives, ?_⟩
      rw [Rule.evalAll_of_ends arrives ends] at failed
      rcases ends with ⟨outcome, -, rfl⟩ | ⟨exhausted, rfl⟩ | ⟨failure, fails, rfl⟩
      · cases failed
      · exact .inl ⟨(Except.error.inj failed).symm, exhausted⟩
      · exact .inr (Except.error.inj failed ▸ fails)

/-- A rule-set fails with foreseen failures, or with those that its expressions have. -/
theorem evaluate_failsOnly {kind : EvaluationError → Prop}
    (foreseen : ∀ failure : EvaluationError, failure.Foreseen → kind failure)
    (unexpected : ∀ expected found, kind (.unexpectedValue expected found))
    (each : Rule.AllEach (Expr.FailsOnly kind) set.rules) (arguments : Fields Value) :
    FailsOnly kind (set.evaluate arguments) := by
  cases decided : set.evaluate arguments with
  | ok outcome => trivial
  | error failure =>
    rcases failure_cases decided with (⟨_, _, _, rfl⟩ | ⟨_, rfl⟩) |
      ⟨scope, -, ⟨rfl, -⟩ | ⟨path, rule, inner, arrives, ⟨rfl, -⟩ | fails⟩⟩
    · exact foreseen _ trivial
    · exact foreseen _ trivial
    · exact foreseen _ trivial
    · exact foreseen _ trivial
    · exact fails.kind unexpected (arrives.each each)

/-- A checked rule-set has an outcome or a failure that is foreseen, or it fails after a fact went
stale. -/
theorem foreseen_or_stale (built : set.Over Registry.standard) (checked : set.check = .ok ())
    (arguments : Fields Value) :
    FailsOnly EvaluationError.Foreseen (set.evaluate arguments) ∨ set.FailsStale arguments := by
  cases seeded : set.seed arguments with
  | error failure =>
    left
    rw [evaluate, seeded]
    rcases seed_error seeded with ⟨name, expected, found, rfl⟩ | ⟨name, rfl⟩ <;> trivial
  | ok scope =>
    rcases Rule.fall_or_end set.rules scope with fall | ⟨path, rule, inner, result, arrives, ends⟩
    · left
      rw [evaluate_of_seed seeded, Rule.evalAll_of_fall fall]
      trivial
    · have decided := Rule.evalAll_of_ends arrives ends
      rcases ends with ⟨outcome, -, rfl⟩ | ⟨-, rfl⟩ | ⟨failure, fails, rfl⟩
      · left
        rw [evaluate_of_seed seeded, decided]
        trivial
      · left
        rw [evaluate_of_seed seeded, decided]
        trivial
      · right
        refine ⟨scope, path, rule, inner, failure, seeded, arrives, fails, ?_⟩
        rcases arrives.agree_or_stale (seed_agree _ seeded) built checked
          (by simp [facts_typeScope]) with ⟨within, agrees, accepted, facts⟩ | stale
        · exact ⟨path, rule, [], inner, rfl, arrives,
            Rule.goStale_of_fails (arrives.each built) agrees accepted facts fails⟩
        · exact stale

theorem NeverRebinds.not_staleOnPath (apart : set.NeverRebinds) (path : List Rule) :
    ¬ Rule.StaleOnPath [] set.rules scope path := by
  rintro ⟨trees, last, later, inner, -, arrives, before, binding, rest, reached, value, name, fact,
    split, -, -, -, -, assigned, known, mentioned, -⟩
  have among := arrives.conditions_subset
  have own : last.conditions ⊆ Rule.conditionsOfAll set.rules := among last (by simp)
  have bound : binding ∈ Rule.conditionsOfAll set.rules := own (by rw [split]; simp)
  have proved : fact ∈ Condition.proven (Rule.conditionsOfAll set.rules) := by
    rw [List.nil_append, List.mem_append] at known
    rcases known with above | here
    · obtain ⟨tree, member, proves⟩ := List.mem_flatMap.mp above
      exact List.filterMap_subset _ (among tree (by simp [member])) proves
    · refine List.filterMap_subset _ (List.Subset.trans ?_ own) here
      rw [split, List.append_cons before binding rest]
      exact List.subset_append_left _ _
  rw [apart binding bound name assigned fact proved] at mentioned
  cases mentioned

/-- No expression of a checked rule-set fails if names in expressions that conditions prove set are
never bound by conditions. -/
theorem evaluate_foreseen_of_neverRebinds (built : set.Over Registry.standard)
    (checked : set.check = .ok ()) (apart : set.NeverRebinds) (arguments : Fields Value) :
    FailsOnly EvaluationError.Foreseen (set.evaluate arguments) := by
  rcases foreseen_or_stale built checked arguments with foreseen | stale
  · exact foreseen
  · obtain ⟨scope, path, rule, inner, failure, -, -, -, stale⟩ := stale
    exact absurd stale (apart.not_staleOnPath _)

/-- A checked rule-set over the standard registry has an outcome or a failure that is foreseen,
exactly if it does not fail after a fact went stale. -/
theorem evaluate_foreseen_iff (set : RuleSet) (built : set.Over Registry.standard)
    (checked : set.check = .ok ()) (arguments : Fields Value) :
    FailsOnly EvaluationError.Foreseen (set.evaluate arguments) ↔ ¬ set.FailsStale arguments := by
  constructor
  · rintro foreseen ⟨scope, path, rule, inner, failure, seeded, arrives, fails, -⟩
    rw [evaluate_of_fails seeded arrives fails] at foreseen
    have each := (arrives.each built).mono fun expr all =>
      Expr.Calls.mono Function.standard_unforeseen expr all.calls
    exact Rule.failsOnly_of_fails EvaluationError.unforeseen_common each fails foreseen
  · intro fresh
    rcases foreseen_or_stale built checked arguments with foreseen | stale
    · exact foreseen
    · exact absurd stale fresh

/-- The error "x" if the first label is set and then, with others in place of the labels, is "x". -/
def replacedRule : Rule :=
  .error [⟨.call .isSet [Expr.firstLabel] .unknown, none⟩,
    ⟨.reference "Others" .unknown, some "Labels"⟩,
    ⟨.call .stringEquals [Expr.firstLabel, .string "x"] .unknown, none⟩] (.string "x") .none

/-- The rule-set with this rule and both lists as its parameters. -/
def replacedLabels : RuleSet where
  version := "1.0"
  parameters := [{ Parameter.ofName "Labels" .stringArray with required := true },
    { Parameter.ofName "Others" .stringArray with required := true }]
  rules := [replacedRule]
  distinct := by decide

/-- One label, and no others. -/
def oneLabel : Fields Value :=
  [("Labels", .array [.string "a"]), ("Others", .array [])]

theorem replacedLabels_over : replacedLabels.Over Registry.standard := by
  refine ⟨⟨?_, ⟨trivial, trivial⟩⟩, trivial⟩
  rintro condition (_ | ⟨_, _ | ⟨_, _ | ⟨_, ⟨⟩⟩⟩⟩)
  · exact ⟨⟨rfl, trivial, trivial⟩, ⟨trivial, trivial⟩⟩
  · exact ⟨trivial, trivial⟩
  · exact ⟨⟨rfl, trivial, trivial, trivial⟩, ⟨trivial, trivial, trivial⟩⟩

/-- A checked rule-set may fail on a value of an unexpected kind: the first of the labels is known
to be set, although they have been replaced. -/
theorem replacedLabels_unforeseen :
    ¬ ∀ set : RuleSet, set.Over Registry.standard → set.check = .ok () → ∀ arguments,
      FailsOnly EvaluationError.Foreseen (set.evaluate arguments) := by
  intro claim
  have foreseen := claim replacedLabels replacedLabels_over (by cbv) oneLabel
  have failed : replacedLabels.evaluate oneLabel = .error (.unexpectedValue "String" "Empty") := rfl
  rw [failed] at foreseen
  exact foreseen

theorem evaluate_foreseen_iff_of_replacedLabels :
    ¬ FailsOnly EvaluationError.Foreseen (replacedLabels.evaluate oneLabel) := by
  intro foreseen
  refine (evaluate_foreseen_iff replacedLabels replacedLabels_over (by cbv) oneLabel).mp foreseen
    ⟨_, [], replacedRule, _, .unexpectedValue "String" "Empty", rfl, Rule.arrives_head _ _ _, ?_, ?_⟩
  · refine .inl ⟨[_, _], _, [], _, rfl, .cons rfl (by decide) (by decide)
      (.cons rfl (by decide) (by decide) (.nil _)), ?_⟩
    rfl
  · refine ⟨[], replacedRule, [], _, rfl, Rule.arrives_head _ _ _, ?_⟩
    exact ⟨[_], _, [_], _, .array [], "Labels", Expr.firstLabel, rfl,
      .cons rfl (by decide) (by decide) (.nil _), rfl, by decide, by decide, rfl,
      by simp [Condition.proven, Condition.proven?, Function.isSet, Function.unary], rfl, rfl⟩

end RuleSet
end EndpointResolution
