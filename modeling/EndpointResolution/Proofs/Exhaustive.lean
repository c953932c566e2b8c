import EndpointResolution.Proofs.RuleSetSoundness

/-!
Exhaustive rules. If the rules of every list end with one that has no conditions, the evaluation
always ends at an error rule or an endpoint rule, or at an expression that fails: no tree is
exhausted, and the rule-set never is without a match.
-/
namespace EndpointResolution

/-- The failure leaves open what the rules decide: none of those to choose from matched. -/
def EvaluationError.Undecided : EvaluationError → Prop
  | .exhaustedTree _ => True
  | .noRuleMatched => True
  | .unexpectedValue _ _ => False
  | .argumentCount _ _ _ => False
  | .invalidPath _ _ => False
  | .missingParameter _ => False
  | .invalidParameter _ _ _ => False

/-- The failure is another one. -/
def EvaluationError.Decided (failure : EvaluationError) : Prop :=
  ¬ failure.Undecided

theorem EvaluationError.decided_common : Common Decided where
  unexpected := fun _ _ undecided => undecided
  counted := fun _ _ _ undecided => undecided

theorem Function.standard_decided :
    ∀ function, Registry.standard.Has function → function.FailsOnly EvaluationError.Decided :=
  standard_failsOnly EvaluationError.decided_common fun _ _ undecided => undecided

/-- Of an endpoint without headers and properties only the address counts. -/
theorem EndpointTemplate.each_ofUrl {property : Expr → Prop} {url : Expr} (holds : property url) :
    (ofUrl url).Each property where
  url := holds
  headers := nofun
  properties := nofun

namespace Rule

/-- The list is not empty, and its last rule has no conditions. -/
def endsOpen (rules : List Rule) : Bool :=
  rules.getLast?.any fun rule => rule.conditions.isEmpty

mutual

/-- The rules of every tree, at any depth, end with one that has no conditions. -/
def exhaustive : Rule → Bool
  | .tree _ rules _ => endsOpen rules && allExhaustive rules
  | .error _ _ _ => true
  | .endpoint _ _ _ => true

/-- Every rule is exhaustive. -/
def allExhaustive : List Rule → Bool
  | [] => true
  | rule :: rest => exhaustive rule && allExhaustive rest

end

theorem endsOpen_iff (rules : List Rule) :
    endsOpen rules = true ↔ ∃ before last, rules = before ++ [last] ∧ last.conditions = [] := by
  rw [endsOpen, Option.any_eq_true]
  constructor
  · rintro ⟨last, found, free⟩
    obtain ⟨before, rfl⟩ := List.getLast?_eq_some_iff.mp found
    exact ⟨before, last, rfl, List.isEmpty_iff.mp free⟩
  · rintro ⟨before, last, rfl, free⟩
    exact ⟨last, List.getLast?_concat, List.isEmpty_iff.mpr free⟩

theorem allExhaustive_iff (rules : List Rule) :
    allExhaustive rules = true ↔ ∀ rule ∈ rules, rule.exhaustive = true := by
  induction rules with
  | nil => simp [allExhaustive]
  | cons rule rest ih => simp [allExhaustive, ih]

theorem exhaustive_tree_iff {conditions : List Condition} {rules : List Rule} {notes : RuleNotes} :
    (Rule.tree conditions rules notes).exhaustive = true ↔
      endsOpen rules = true ∧ allExhaustive rules = true := by
  rw [exhaustive, Bool.and_eq_true]

/-- Both ways to combine a rule with a message keep the shape, if the rule has no conditions. -/
theorem combined_exhaustive {next : Rule} (free : next.conditions = [])
    (inside : next.exhaustive = true) (message : Expr) (conditions : List Condition) :
    (validateOrElse message conditions next).exhaustive = true ∧
      (validateOrElse message conditions next).conditions = [] ∧
      (errorOrElse message conditions next).exhaustive = true ∧
      (errorOrElse message conditions next).conditions = [] := by
  have open_next : endsOpen [next] = true := (endsOpen_iff _).mpr ⟨[], next, rfl, free⟩
  have open_message (earlier : Rule) : endsOpen [earlier, .error [] message .none] = true :=
    (endsOpen_iff _).mpr ⟨[earlier], _, rfl, rfl⟩
  have open_after (earlier : Rule) : endsOpen [earlier, next] = true :=
    (endsOpen_iff _).mpr ⟨[earlier], next, rfl, free⟩
  refine ⟨?_, rfl, ?_, rfl⟩
  · refine exhaustive_tree_iff.mpr ⟨open_message _, ?_⟩
    simp [allExhaustive, exhaustive, open_next, inside]
  · refine exhaustive_tree_iff.mpr ⟨open_after _, ?_⟩
    simp [allExhaustive, exhaustive, inside]

/-- Without conditions there is nothing that could fall through. -/
theorem not_fallThrough_nil (scope : Scope Value) : ¬ Condition.FallThrough [] scope :=
  Condition.not_fallThrough_of_hold (.nil scope)

/-- A list that ends with a rule without conditions does not fall through. -/
theorem not_fall_of_endsOpen {rules : List Rule} (ends : endsOpen rules = true)
    (scope : Scope Value) : ¬ ∀ rule ∈ rules, rule.FallsThrough scope := by
  intro fall
  obtain ⟨before, last, rfl, free⟩ := (endsOpen_iff rules).mp ends
  have falls : last.FallsThrough scope := fall last (by simp)
  rw [FallsThrough, free] at falls
  exact not_fallThrough_nil _ falls

theorem not_exhausted_of_exhaustive {rule : Rule} (shape : rule.exhaustive = true)
    (inner : Scope Value) : ¬ rule.Exhausted inner := by
  rintro ⟨held, fall⟩
  exact not_fall_of_endsOpen (exhaustive_tree_iff.mp shape).1 _ fall

/-- A rule arrived at has the shape of those it is among or inside. -/
theorem Arrives.exhaustive {rules path : List Rule} {rule : Rule} {scope inner : Scope Value}
    (arrives : Arrives rules scope path rule inner) (shape : allExhaustive rules = true) :
    rule.exhaustive = true := by
  induction arrives with
  | here passed => exact (allExhaustive_iff _).mp shape _ (by simp)
  | inside passed held further ih =>
    have tree := (allExhaustive_iff _).mp shape _ (List.mem_append_right _ List.mem_cons_self)
    exact ih (exhaustive_tree_iff.mp tree).2

/-- The evaluation of exhaustive rules ends at a rule that has an outcome, or at one that fails. -/
theorem yields_or_fails_of_exhaustive {rules : List Rule} (ends : endsOpen rules = true)
    (shape : allExhaustive rules = true) (scope : Scope Value) :
    ∃ path rule inner, Arrives rules scope path rule inner ∧
      ((∃ outcome, rule.Yields inner outcome ∧ (evalAll rules scope).1 = .ok (some outcome)) ∨
        ∃ failure, rule.Fails inner failure ∧ (evalAll rules scope).1 = .error failure) := by
  rcases fall_or_end rules scope with fall | ⟨path, rule, inner, result, arrives, last⟩
  · exact absurd fall (not_fall_of_endsOpen ends scope)
  · have decided := evalAll_of_ends arrives last
    refine ⟨path, rule, inner, arrives, ?_⟩
    rcases last with ⟨outcome, yields, rfl⟩ | ⟨exhausted, -⟩ | ⟨failure, fails, rfl⟩
    · exact .inl ⟨outcome, yields, decided⟩
    · exact absurd exhausted (not_exhausted_of_exhaustive (arrives.exhaustive shape) inner)
    · exact .inr ⟨failure, fails, decided⟩

end Rule

namespace RuleSet

/-- The rules of the rule-set and of every tree in it end with one that has no conditions. -/
def exhaustive (set : RuleSet) : Bool :=
  Rule.endsOpen set.rules && Rule.allExhaustive set.rules

variable {set : RuleSet} {arguments : Fields Value}

theorem exists_last_of_exhaustive (shape : set.exhaustive = true) {scope : Scope Value}
    (seeded : set.seed arguments = .ok scope) :
    ∃ path rule inner, Rule.Arrives set.rules scope path rule inner ∧
      ((∃ outcome, rule.Yields inner outcome ∧ set.evaluate arguments = .ok outcome) ∨
        ∃ failure, rule.Fails inner failure ∧ set.evaluate arguments = .error failure) := by
  obtain ⟨ends, inside⟩ := Bool.and_eq_true_iff.mp shape
  obtain ⟨path, rule, inner, arrives, ⟨outcome, yields, decided⟩ | ⟨failure, fails, decided⟩⟩ :=
    Rule.yields_or_fails_of_exhaustive ends inside scope
  · refine ⟨path, rule, inner, arrives, .inl ⟨outcome, yields, ?_⟩⟩
    rw [evaluate_of_seed seeded, decided]
  · refine ⟨path, rule, inner, arrives, .inr ⟨failure, fails, ?_⟩⟩
    rw [evaluate_of_seed seeded, decided]

/-- An exhaustive rule-set has an outcome or a decided failure, or one that a function has which the
rules call. -/
theorem evaluate_failsOnly_of_exhaustive {kind : EvaluationError → Prop}
    (wide : ∀ failure : EvaluationError, failure.Decided → kind failure)
    (shape : set.exhaustive = true)
    (calls : Rule.AllEach (Expr.Calls (Function.FailsOnly kind)) set.rules)
    (arguments : Fields Value) : FailsOnly kind (set.evaluate arguments) := by
  have common : EvaluationError.Common kind := {
    unexpected := fun _ _ => wide _ (EvaluationError.decided_common.unexpected _ _)
    counted := fun _ _ _ => wide _ (EvaluationError.decided_common.counted _ _ _) }
  obtain ⟨ends, inside⟩ := Bool.and_eq_true_iff.mp shape
  cases decided : set.evaluate arguments with
  | ok outcome => trivial
  | error failure =>
    rcases failure_cases decided with (⟨_, _, _, rfl⟩ | ⟨_, rfl⟩) |
      ⟨scope, -, ⟨-, fall⟩ | ⟨path, rule, inner, arrives, ⟨-, exhausted⟩ | fails⟩⟩
    · exact wide _ fun undecided => undecided
    · exact wide _ fun undecided => undecided
    · exact absurd fall (Rule.not_fall_of_endsOpen ends scope)
    · exact absurd exhausted (Rule.not_exhausted_of_exhaustive (arrives.exhaustive inside) inner)
    · exact Rule.failsOnly_of_fails common (arrives.each calls) fails

/-- The evaluation of an exhaustive rule-set, checked or not, always ends at a rule: at one with an
outcome, or at one with an expression that fails. So it never reports an exhausted tree or that no
rule matched, for any arguments, unless a function that the rules call reports this itself, which
the standard functions never do. A rule without conditions that is exhaustive stays so when it is
combined with a message in either way. -/
theorem evaluate_of_exhaustive :
    (∀ set : RuleSet, set.exhaustive = true →
      (∀ arguments scope, set.seed arguments = .ok scope →
        ∃ path rule inner, Rule.Arrives set.rules scope path rule inner ∧
          ((∃ outcome, rule.Yields inner outcome ∧ set.evaluate arguments = .ok outcome) ∨
            ∃ failure, rule.Fails inner failure ∧ set.evaluate arguments = .error failure)) ∧
      (∀ failure : EvaluationError, failure.Undecided →
        Rule.AllEach (Expr.Calls (Function.FailsOnly (· ≠ failure))) set.rules →
        ∀ arguments, set.evaluate arguments ≠ .error failure) ∧
      (set.Over Registry.standard → ∀ arguments,
        set.evaluate arguments ≠ .error .noRuleMatched ∧
        ∀ text, set.evaluate arguments ≠ .error (.exhaustedTree text))) ∧
    ∀ next : Rule, next.conditions = [] → next.exhaustive = true → ∀ message conditions,
      (Rule.validateOrElse message conditions next).exhaustive = true ∧
      (Rule.validateOrElse message conditions next).conditions = [] ∧
      (Rule.errorOrElse message conditions next).exhaustive = true ∧
      (Rule.errorOrElse message conditions next).conditions = [] := by
  refine ⟨fun set shape => ⟨?_, ?_, ?_⟩, fun next free inside message conditions =>
    Rule.combined_exhaustive free inside message conditions⟩
  · intro arguments scope seeded
    exact exists_last_of_exhaustive shape seeded
  · intro failure undecided calls arguments failed
    have wide (other : EvaluationError) (decided : other.Decided) : other ≠ failure :=
      fun same => decided (same ▸ undecided)
    have only := evaluate_failsOnly_of_exhaustive wide shape calls arguments
    rw [failed] at only
    exact only rfl
  · intro built arguments
    have calls := Rule.AllEach.mono (fun expr all =>
      Expr.Calls.mono Function.standard_decided expr all.calls) set.rules built
    have only := evaluate_failsOnly_of_exhaustive (fun _ decided => decided) shape calls arguments
    constructor
    · intro failed
      rw [failed] at only
      exact only trivial
    · intro text failed
      rw [failed] at only
      exact only trivial

/-- The address of the zone. -/
def zoneUrl : Expr :=
  .template [.text "https://", .hole (.reference "Zone" .unknown)] .unknown

/-- The zone is set. -/
def zoneSet : Condition :=
  ⟨.call .isSet [.reference "Zone" .unknown] .unknown, none⟩

/-- The zone is "local". -/
def zoneLocal : Condition :=
  ⟨.call .stringEquals [.reference "Zone" .unknown, .string "local"] .unknown, none⟩

/-- An endpoint at the address of the zone, unless the zone is not set or "local". -/
def guardedZone : Rule :=
  .validateOrElse (.string "no zone") [zoneSet]
    (.errorOrElse (.string "no service") [zoneLocal]
      (.endpoint [] (.ofUrl zoneUrl) .none))

/-- The rule-set with this rule. -/
def zoneOrMessage : RuleSet where
  version := "1.0"
  parameters := [Parameter.ofName "Zone" .string]
  rules := [guardedZone]
  distinct := by decide

theorem guardedZone_over : guardedZone.Each (Expr.Over Registry.standard) := by
  have message (text : String) : (Expr.string text).Over Registry.standard := ⟨trivial, trivial⟩
  have set : zoneSet.test.Over Registry.standard :=
    ⟨⟨rfl, trivial, trivial⟩, ⟨trivial, trivial⟩⟩
  have isLocal : zoneLocal.test.Over Registry.standard :=
    ⟨⟨rfl, trivial, trivial, trivial⟩, ⟨trivial, trivial, trivial⟩⟩
  have url : zoneUrl.Over Registry.standard := ⟨⟨trivial, trivial⟩, ⟨trivial, trivial⟩⟩
  exact ⟨by simp, ⟨by simpa using set, ⟨by simp, ⟨by simpa using isLocal, message _⟩,
    ⟨by simp, EndpointTemplate.each_ofUrl url⟩, trivial⟩, trivial⟩, ⟨by simp, message _⟩, trivial⟩

theorem evaluate_of_exhaustive_of_zoneOrMessage :
    zoneOrMessage.exhaustive = true ∧
    zoneOrMessage.evaluate [] ≠ .error .noRuleMatched ∧
    ∀ text, zoneOrMessage.evaluate [] ≠ .error (.exhaustedTree text) :=
  ⟨rfl, (evaluate_of_exhaustive.1 zoneOrMessage rfl).2.2 ⟨guardedZone_over, trivial⟩ []⟩

end RuleSet
end EndpointResolution
