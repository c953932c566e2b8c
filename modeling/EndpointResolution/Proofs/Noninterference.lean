import EndpointResolution.Proofs.Arguments
import EndpointResolution.Proofs.RuleSoundness
import EndpointResolution.Proofs.SameValues

/-!
Arguments that no parameter declares. They are bound in the root scope, but a checked expression
mentions no name that is not a parameter or bound by a condition before it, so that two runs whose
arguments differ in undeclared names only have the same result.
-/
namespace EndpointResolution

variable {types : Scope Ty} {left right : Scope Value} {name : String}

namespace Expr

mutual

/-- The names that a checked expression mentions have a type. -/
theorem isSome_resolve_of_check : (expr : Expr) → {ty : Ty} → expr.check types = .ok ty →
    expr.mentions name = true → (types.resolve name).isSome = true
  | .literal value location, ty, checked, mentioned => by simp [mentions] at mentioned
  | .template parts location, ty, checked, mentioned => by
    rw [check] at checked
    obtain ⟨plain, typed, -⟩ := eq_ok_of_settle checked
    obtain ⟨⟨⟩, filled, -⟩ := exists_of_map_eq_ok typed
    rw [mentions] at mentioned
    exact isSome_resolve_of_checkParts parts filled mentioned
  | .tuple items location, ty, checked, mentioned => by
    rw [check] at checked
    obtain ⟨plain, typed, -⟩ := eq_ok_of_settle checked
    obtain ⟨element, listed, -⟩ := exists_of_map_eq_ok typed
    rw [mentions] at mentioned
    exact isSome_resolve_of_checkItems items listed mentioned
  | .record fields location, ty, checked, mentioned => by
    rw [check] at checked
    obtain ⟨plain, typed, -⟩ := eq_ok_of_settle checked
    obtain ⟨declared, listed, -⟩ := exists_of_map_eq_ok typed
    rw [mentions] at mentioned
    exact isSome_resolve_of_checkFields fields listed mentioned
  | .reference other location, ty, checked, mentioned => by
    rw [check] at checked
    obtain ⟨plain, typed, -⟩ := eq_ok_of_settle checked
    rw [mentions, beq_iff_eq] at mentioned
    subst mentioned
    simp only [referenceTy] at typed
    split at typed
    next found => simp [found]
    · cases typed
  | .attribute target path location, ty, checked, mentioned => by
    rw [check] at checked
    split at checked
    · cases checked
    next whole known =>
      rw [mentions] at mentioned
      exact isSome_resolve_of_check target known mentioned
  | .call function arguments location, ty, checked, mentioned => by
    rw [check] at checked
    obtain ⟨plain, invoked, -⟩ := eq_ok_of_settle checked
    have typed := eq_ok_of_inInvocation invoked
    rw [mentions] at mentioned
    split at typed
    next signed =>
      split at typed
      next sameLength =>
        obtain ⟨⟨⟩, given, -⟩ := exists_of_map_eq_ok typed
        exact isSome_resolve_of_checkArguments arguments sameLength given mentioned
      · cases typed
    next filters =>
      obtain ⟨argument, element, rfl, known, -⟩ := eq_of_checkFilter typed
      simp only [allMention, Bool.or_false] at mentioned
      exact isSome_resolve_of_check argument known mentioned
    next follows =>
      obtain ⟨target, text, place, path, whole, rfl, -, known, -⟩ := eq_of_checkAttribute typed
      simp only [allMention, mentions, Bool.or_false] at mentioned
      exact isSome_resolve_of_check target known mentioned
  | .mapped function source arguments location, ty, checked, mentioned => by
    obtain ⟨element, others, found, -, -, sameRest, known, -, given, -⟩ :=
      check_mapped_iff.mp checked
    rw [mentions, Bool.or_eq_true] at mentioned
    rcases mentioned with inSource | inArguments
    · exact isSome_resolve_of_check source known inSource
    · exact isSome_resolve_of_checkArguments arguments sameRest given inArguments

theorem isSome_resolve_of_checkParts : (parts : List (TemplatePart Expr)) →
    checkParts types parts = .ok () → partsMention name parts = true →
    (types.resolve name).isSome = true
  | [], _, mentioned => by simp [partsMention] at mentioned
  | .text _ :: rest, checked, mentioned => by
    rw [checkParts] at checked
    rw [partsMention] at mentioned
    exact isSome_resolve_of_checkParts rest checked mentioned
  | .hole expr :: rest, checked, mentioned => by
    rw [checkParts] at checked
    split at checked
    · cases checked
    next found known =>
    split at checked
    · cases checked
    rw [partsMention, Bool.or_eq_true] at mentioned
    rcases mentioned with here | later
    · exact isSome_resolve_of_check expr known here
    · exact isSome_resolve_of_checkParts rest checked later

theorem isSome_resolve_of_checkItems : (items : List Expr) → {first : Option Ty} → {element : Ty} →
    checkItems types first items = .ok element → allMention name items = true →
    (types.resolve name).isSome = true
  | [], _, _, _, mentioned => by simp [allMention] at mentioned
  | item :: rest, first, element, checked, mentioned => by
    rw [checkItems] at checked
    split at checked
    · cases checked
    next found known =>
      rw [allMention, Bool.or_eq_true] at mentioned
      rcases mentioned with here | later
      · exact isSome_resolve_of_check item known here
      · split at checked
        · exact isSome_resolve_of_checkItems rest checked later
        · split at checked
          · exact isSome_resolve_of_checkItems rest checked later
          · cases checked

theorem isSome_resolve_of_checkFields : (fields : List (String × Expr)) →
    {declared : List (String × Ty)} → checkFields types fields = .ok declared →
    fieldsMention name fields = true → (types.resolve name).isSome = true
  | [], _, _, mentioned => by simp [fieldsMention] at mentioned
  | (_, expr) :: rest, declared, checked, mentioned => by
    rw [checkFields] at checked
    split at checked
    · cases checked
    next ty known =>
      obtain ⟨others, listed, -⟩ := exists_of_map_eq_ok checked
      rw [fieldsMention, Bool.or_eq_true] at mentioned
      rcases mentioned with here | later
      · exact isSome_resolve_of_check expr known here
      · exact isSome_resolve_of_checkFields rest listed later

/-- All arguments are checked, since there are as many as are expected. -/
theorem isSome_resolve_of_checkArguments : (arguments : List Expr) → {position : Nat} →
    {expected : List Ty} → expected.length = arguments.length →
    checkArguments types position expected arguments = .ok () →
    allMention name arguments = true → (types.resolve name).isSome = true
  | [], _, _, _, _, mentioned => by simp [allMention] at mentioned
  | argument :: rest, position, [], sameLength, _, _ => by simp at sameLength
  | argument :: rest, position, ty :: others, sameLength, checked, mentioned => by
    rw [checkArguments] at checked
    split at checked
    · cases checked
    next found known =>
    split at checked
    · cases checked
    rw [allMention, Bool.or_eq_true] at mentioned
    rcases mentioned with here | later
    · exact isSome_resolve_of_check argument known here
    · exact isSome_resolve_of_checkArguments rest (by simpa using sameLength) checked later

end

end Expr

/-- The two scopes give every name that has a type the same value. -/
def Scope.AgreeOn (types : Scope Ty) (left right : Scope Value) : Prop :=
  ∀ name, (types.resolve name).isSome = true → left.valueOf name = right.valueOf name

theorem Scope.AgreeOn.push (agree : types.AgreeOn left right) :
    types.push.AgreeOn left.push right.push := by
  intro name typed
  rw [Scope.valueOf_push, Scope.valueOf_push]
  exact agree name (by simpa using typed)

/-- Both runs bind the same result, so that its name may have any type afterwards or none. -/
theorem Scope.AgreeOn.bind (agree : types.AgreeOn left right) (condition : Condition) (ty : Ty)
    (value : Value) : (condition.learnResult ty (condition.learnProven types)).AgreeOn
      (condition.bind value left) (condition.bind value right) := by
  intro name typed
  cases assigned : condition.result with
  | none =>
    simp only [Condition.learnResult, assigned, Condition.resolve_learnProven] at typed
    simp only [Condition.bind, assigned]
    exact agree name typed
  | some result =>
    simp only [Condition.learnResult, assigned] at typed
    simp only [Condition.bind, assigned]
    by_cases same : name = result
    · rw [same, Scope.valueOf_insert_self, Scope.valueOf_insert_self]
    · rw [Scope.valueOf_insert_of_ne same, Scope.valueOf_insert_of_ne same]
      refine agree name ?_
      split at typed
      · rwa [Condition.resolve_learnProven] at typed
      · rwa [Scope.resolve_insert_of_ne same, Condition.resolve_learnProven] at typed

section

variable (agree : types.AgreeOn left right)
include agree

/-- A checked expression has the same value in both runs, or fails in both alike. -/
theorem Expr.eval_eq_of_check {expr : Expr} {ty : Ty} (checked : expr.check types = .ok ty) :
    expr.eval left = expr.eval right :=
  eval_congr expr fun name mentioned => agree name (isSome_resolve_of_check expr checked mentioned)

theorem Expr.eval_eq_of_expect {expr : Expr} {place : Place} {expected : Ty}
    (accepted : expr.expect types place expected = .ok ()) : expr.eval left = expr.eval right := by
  obtain ⟨ty, known⟩ := Expr.exists_check_of_expect accepted
  exact eval_eq_of_check agree known

theorem EndpointTemplate.eval_eq_of_check {endpoint : EndpointTemplate}
    (checked : endpoint.check types = .ok ()) : endpoint.eval left = endpoint.eval right := by
  obtain ⟨url, headers, properties⟩ := check_eq_ok_iff.mp checked
  refine eval_congr ⟨Expr.eval_eq_of_expect agree url, fun header member value inside => ?_,
    fun entry member => ?_⟩
  · exact Expr.eval_eq_of_expect agree (headers header member value inside)
  · obtain ⟨ty, known⟩ := properties entry member
    exact Expr.eval_eq_of_check agree known

/-- Checked conditions hold in both runs, and then the scopes still agree, or in none. -/
theorem Condition.evalAll_eq_of_check {conditions : List Condition} {after : Scope Ty}
    (checked : checkAll conditions types = (.ok (), after)) :
    (evalAll conditions left).1 = (evalAll conditions right).1 ∧
      ((evalAll conditions left).1 = .ok true →
        after.AgreeOn (evalAll conditions left).2 (evalAll conditions right).2) := by
  induction conditions generalizing types left right with
  | nil =>
    cases checked
    exact ⟨rfl, fun _ => agree⟩
  | cons condition rest ih =>
    rw [checkAll] at checked
    split at checked
    · cases checked
    next ty next accepted =>
    obtain ⟨known, rfl⟩ := eq_of_check accepted
    rw [evalAll, evalAll, Expr.eval_eq_of_check agree known]
    cases condition.test.eval right with
    | error failure =>
      refine ⟨rfl, fun held => ?_⟩
      cases held
    | ok value =>
      by_cases met : isMet value = true
      · simp only [met, if_true]
        exact ih (agree.bind condition ty value) checked
      · simp only [met, Bool.false_eq_true, if_false, true_and]
        intro held
        cases held

end

namespace Rule

/-- A checked rule has the same result in both runs if what follows its conditions does. -/
theorem eval_eq_of_bodies {rule : Rule} (agree : types.AgreeOn left right)
    (checked : (rule.check types).1 = .ok ())
    (bodies : ∀ {after : Scope Ty} {reached arrived : Scope Value},
      after.AgreeOn reached arrived → rule.BodyAccepted after →
      rule.evalBody reached = rule.evalBody arrived) :
    (rule.eval left).1 = (rule.eval right).1 := by
  obtain ⟨after, learned, body⟩ := bodyAccepted_of_check checked
  obtain ⟨same, further⟩ := Condition.evalAll_eq_of_check agree learned
  rw [eval_result, eval_result]
  generalize Condition.evalAll rule.conditions left = first at same further ⊢
  generalize Condition.evalAll rule.conditions right = second at same further ⊢
  obtain ⟨result, reached⟩ := first
  obtain ⟨other, arrived⟩ := second
  cases same
  rcases result with failure | _ | _
  · rfl
  · rfl
  · exact bodies (further rfl) body

mutual

/-- What follows the conditions of a checked rule results in the same in both runs. -/
theorem evalBody_eq_of_accepted : (rule : Rule) → {types : Scope Ty} →
    {left right : Scope Value} → types.AgreeOn left right → rule.BodyAccepted types →
    rule.evalBody left = rule.evalBody right
  | .tree _ children _, types, left, right, agree, accepted => by
    simp only [evalBody, evalAll_eq_of_check children agree accepted]
  | .error _ message notes, types, left, right, agree, accepted => by
    have expected := checkMessage_eq_ok_iff.mp accepted
    simp only [evalBody, Expr.evalString_congr (Expr.eval_eq_of_expect agree expected)]
  | .endpoint _ target _, types, left, right, agree, accepted => by
    simp only [evalBody, EndpointTemplate.eval_eq_of_check agree accepted]

/-- Checked rules have the same result in both runs. -/
theorem evalAll_eq_of_check : (rules : List Rule) → {types : Scope Ty} →
    {left right : Scope Value} → types.AgreeOn left right → (checkAll rules types).1 = .ok () →
    (evalAll rules left).1 = (evalAll rules right).1
  | [], _, _, _, _, _ => rfl
  | rule :: rest, types, left, right, agree, checked => by
    have accepted := (checkAll_eq_ok_iff _ _).mp checked
    have here : (rule.eval left.push).1 = (rule.eval right.push).1 :=
      eval_eq_of_bodies agree.push (accepted rule List.mem_cons_self)
        (evalBody_eq_of_accepted rule)
    have later := evalAll_eq_of_check rest agree ((checkAll_eq_ok_iff _ _).mpr
      fun other member => accepted other (List.mem_cons_of_mem _ member))
    rw [evalAll_cons, evalAll_cons, here, later]

end

end Rule

namespace RuleSet

/-- Root scopes that bind every parameter alike agree on all names that have a type. -/
theorem SameBindings.agreeOn {set : RuleSet} (same : set.SameBindings left right) :
    set.typeScope.AgreeOn left right := by
  intro name typed
  obtain ⟨ty, found⟩ := Option.isSome_iff_exists.mp typed
  obtain ⟨parameter, member, rfl, -⟩ := exists_parameter_of_typeScope found
  rw [Scope.valueOf, Scope.valueOf, same parameter member]

/-- Undeclared arguments do not influence a checked rule-set. They are bound in the root scope, as
are all arguments that are not empty; but two runs whose arguments give every parameter the same
value have the same outcome or the same failure. -/
theorem evaluate_eq_of_sameArguments (set : RuleSet) :
    (∀ arguments scope, arguments.Ascending → set.seed arguments = .ok scope →
      ∀ name value, Fields.get? name arguments = some value → value.isEmpty = false →
        scope.resolve name = some value) ∧
    (set.check = .ok () → ∀ first second, first.Ascending → second.Ascending →
      set.SameArguments first second → set.evaluate first = set.evaluate second) := by
  constructor
  · intro arguments scope ascending seeded name value given filled
    exact resolve_seed_of_get? ascending seeded given filled
  · intro checked first second firstAscending secondAscending same
    have seeds := seed_sameSeeds firstAscending secondAscending same
    rw [evaluate, evaluate]
    generalize set.seed first = seeded at seeds ⊢
    generalize set.seed second = other at seeds ⊢
    rcases seeded with failure | scope <;> rcases other with refused | reached
    · exact congrArg Except.error seeds
    · exact seeds.elim
    · exact seeds.elim
    · simp only [evalRules, Rule.evalAll_eq_of_check set.rules seeds.agreeOn checked]

/-- A rule-set whose conditions bind two names that it does not declare, one of them to a result of
type `Any`. -/
def boundNames : RuleSet where
  version := "1.0"
  parameters := [{ Parameter.ofName "Region" .string with required := true }]
  rules := [
    .error [⟨.reference "Region" .unknown, some "Name"⟩, ⟨.call .five [] .unknown, some "Extra"⟩,
      ⟨.call .stringEquals [.reference "Name" .unknown, .string "local"] .unknown, none⟩]
      (.string "no region") .none,
    .error [] (.template [.text "in ", .hole (.reference "Region" .unknown)] .unknown) .none]
  distinct := by decide

/-- Arguments for the parameter alone. -/
def declaredOnly : Fields Value :=
  [("Region", .string "us-east-1")]

/-- The same with arguments for the names that conditions bind. -/
def withUndeclared : Fields Value :=
  [("Extra", .boolean true), ("Name", .string "local"), ("Region", .string "us-east-1")]

theorem evaluate_eq_of_sameArguments_of_boundNames :
    (∀ scope, boundNames.seed withUndeclared = .ok scope →
      scope.resolve "Name" = some (.string "local")) ∧
    boundNames.evaluate declaredOnly = boundNames.evaluate withUndeclared := by
  have ascending : withUndeclared.Ascending := by decide
  obtain ⟨bound, independent⟩ := evaluate_eq_of_sameArguments boundNames
  refine ⟨fun scope seeded => bound _ scope ascending seeded "Name" _ rfl rfl, ?_⟩
  refine independent (by cbv) _ _ (by decide) ascending ?_
  rintro parameter (_ | ⟨_, ⟨⟩⟩)
  rfl

end RuleSet
end EndpointResolution
