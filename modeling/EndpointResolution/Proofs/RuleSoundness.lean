import EndpointResolution.Proofs.Acceptance
import EndpointResolution.Proofs.Binding
import EndpointResolution.Proofs.FirstMatch
import EndpointResolution.Proofs.Seed

/-!
What checked rules may fail with. The checker keeps a fact about an expression when a name that the
expression mentions is bound anew. As long as the expression stays set, the two scopes agree along
every path, and no expression fails.
-/
namespace EndpointResolution

variable {types : Scope Ty} {values : Scope Value}

theorem Scope.Agree.push {registry : Registry} {reading : Reading}
    (agree : types.Agree registry reading values) : types.push.Agree registry reading values.push where
  typed := by simpa using agree.typed
  built := by simpa using agree.built
  set := by
    intro fact recorded
    rw [Expr.eval_push]
    exact agree.set fact (by simpa using recorded)

namespace Condition

/-- What the conditions prove if they hold. -/
def proven (conditions : List Condition) : List Expr :=
  conditions.filterMap fun condition => proven? condition.test

/-- Of conditions some hold, and the next one binds a name by which an expression that has been
proved set becomes empty. -/
def GoStale (known : List Expr) (conditions : List Condition) (scope : Scope Value) : Prop :=
  ∃ before condition rest reached value name fact, conditions = before ++ condition :: rest ∧
    Hold before scope reached ∧ condition.test.eval reached = .ok value ∧
    value ≠ .empty ∧ value ≠ .boolean false ∧ condition.result = some name ∧
    fact ∈ known ++ proven (before ++ [condition]) ∧ fact.mentions name = true ∧
    fact.eval (reached.insert name value) = .ok .empty

theorem append_proven_cons (known : List Expr) (condition : Condition) (rest : List Condition) :
    known ++ proven [condition] ++ proven rest = known ++ proven (condition :: rest) := by
  rw [List.append_assoc, proven, proven, ← List.filterMap_append]
  rfl

theorem GoStale.cons {known : List Expr} {condition : Condition} {rest : List Condition}
    {value : Value} (executed : condition.test.eval values = .ok value) (set : value ≠ .empty)
    (notFalse : value ≠ .boolean false)
    (stale : GoStale (known ++ proven [condition]) rest (condition.bind value values)) :
    GoStale known (condition :: rest) values := by
  obtain ⟨before, binding, others, reached, last, name, fact, rfl, held, ran, filled, truth,
    assigned, member, mentioned, unset⟩ := stale
  rw [append_proven_cons] at member
  exact ⟨condition :: before, binding, others, reached, last, name, fact, rfl,
    .cons executed set notFalse held, ran, filled, truth, assigned, member, mentioned, unset⟩

end Condition

/-- A condition `isSet` that holds proves its argument set. -/
theorem Expr.ne_empty_of_proven {test fact : Expr} {value : Value}
    (calls : test.Calls Registry.standard.Has) (proves : Condition.proven? test = some fact)
    (executed : test.eval values = .ok value) (notFalse : value ≠ .boolean false) :
    fact.eval values ≠ .ok .empty := by
  unfold Condition.proven? at proves
  split at proves
  next function first rest location =>
    split at proves
    next named =>
      cases proves
      obtain rfl : function = .isSet := calls.1.eq_of_id (g := .isSet) rfl named
      intro unset
      apply notFalse
      rw [eval, evalAll, unset] at executed
      cases rest with
      | nil => exact (Except.ok.inj executed).symm
      | cons second others =>
        exfalso
        cases given : evalAll values (second :: others) with
        | error failure => simp [given, Except.map] at executed
        | ok more =>
          have sized := length_of_evalAll given
          rw [given] at executed
          simp [Except.map, Function.apply, Function.isSet, Function.unary, sized] at executed
    · cases proves
  · cases proves

/-- What a condition proves set is a part of it. -/
theorem Expr.calls_of_proven {property : Function → Prop} {test fact : Expr}
    (calls : test.Calls property) (proves : Condition.proven? test = some fact) :
    fact.Calls property := by
  unfold Condition.proven? at proves
  split at proves
  · split at proves
    · cases proves
      exact calls.2.1
    · cases proves
  · cases proves

/-- Under the strict reading only the empty value is of type `Any`, and no condition holds. -/
theorem Ty.required_ne_any {ty : Ty} {value : Value} (set : value.isEmpty = false)
    (inhabits : ty.admitsUnder .strict value = true) : ty.required ≠ .any := by
  intro unknown
  have narrowed := admitsUnder_required set inhabits
  rw [unknown] at narrowed
  simp [admitsUnder, set] at narrowed

theorem Condition.mem_facts_of_check {condition : Condition} {ty : Ty} {fact : Expr}
    (recorded : fact ∈ (condition.learnResult ty (condition.learnProven types)).facts) :
    proven? condition.test = some fact ∨ fact ∈ types.facts := by
  rw [facts_learnResult, facts_learnProven, List.mem_append, Option.mem_toList] at recorded
  exact recorded

/-- After a condition that holds the scopes agree, unless it makes a fact stale. -/
theorem Scope.Agree.afterCondition (agree : types.Agree Registry.standard .strict values)
    {condition : Condition} (built : condition.test.Over Registry.standard) {ty : Ty}
    {after : Scope Ty} (checked : condition.check types = (.ok ty, after)) {value : Value}
    (executed : condition.test.eval values = .ok value) (set : value ≠ .empty)
    (notFalse : value ≠ .boolean false)
    (kept : ∀ name, condition.result = some name → ∀ fact ∈ after.facts,
      fact.mentions name = true → fact.eval (values.insert name value) ≠ .ok .empty) :
    after.Agree Registry.standard .strict (condition.bind value values) := by
  obtain ⟨known, rfl⟩ := Condition.eq_of_check checked
  have ends := Expr.eval_ends_of_check (Registry.standard_soundUnder .strict) agree condition.test
    built.calls built.wellFormed ty known
  rw [executed] at ends
  have met := (Condition.isMet_iff value).mpr ⟨set, notFalse⟩
  refine ⟨?_, ?_, ?_⟩
  · intro name named found
    refine Condition.typed_of_isMet agree.typed ends met ?_ found
    intro _ _ _ unknown
    exact absurd unknown (Ty.required_ne_any (Condition.ne_empty_of_isMet met) ends)
  · intro fact recorded
    rcases Condition.mem_facts_of_check recorded with proves | before
    · exact Expr.calls_of_proven built.calls proves
    · exact agree.built fact before
  · intro fact recorded
    have still : fact.eval values ≠ .ok .empty := by
      rcases Condition.mem_facts_of_check recorded with proves | before
      · exact Expr.ne_empty_of_proven built.calls proves executed notFalse
      · exact agree.set fact before
    cases assigned : condition.result with
    | none => simpa only [Condition.bind, assigned] using still
    | some name =>
      simp only [Condition.bind, assigned]
      cases mentioned : fact.mentions name with
      | true => exact kept name assigned fact recorded mentioned
      | false => rwa [Expr.eval_insert_of_not_mentions mentioned]

/-- Checked conditions hold in scopes that agree, or fall through, or make a fact stale. -/
theorem Condition.hold_or_fallThrough_or_goStale (conditions : List Condition) (known : List Expr)
    (agree : types.Agree Registry.standard .strict values)
    (built : ∀ condition ∈ conditions, condition.test.Over Registry.standard) {after : Scope Ty}
    (checked : checkAll conditions types = (.ok (), after))
    (recorded : ∀ fact ∈ types.facts, fact ∈ known) :
    (∃ reached, Hold conditions values reached ∧
      after.Agree Registry.standard .strict reached ∧
      ∀ fact ∈ after.facts, fact ∈ known ++ proven conditions) ∨
    FallThrough conditions values ∨ GoStale known conditions values := by
  induction conditions generalizing types values known with
  | nil =>
    cases checked
    refine .inl ⟨values, .nil values, agree, fun fact before => ?_⟩
    simpa [proven] using recorded fact before
  | cons condition rest ih =>
    obtain ⟨here, later⟩ := List.forall_mem_cons.mp built
    rw [checkAll] at checked
    split at checked
    · cases checked
    next ty next accepted =>
    obtain ⟨typed, rfl⟩ := eq_of_check accepted
    have ends := Expr.eval_ends_of_check (Registry.standard_soundUnder .strict) agree
      condition.test here.calls here.wellFormed ty typed
    obtain ⟨value, executed, -⟩ := ends.exists_ok
    by_cases met : isMet value = true
    · obtain ⟨set, notFalse⟩ := (isMet_iff value).mp met
      have facts : ∀ fact ∈ (condition.learnResult ty (condition.learnProven types)).facts,
          fact ∈ known ++ proven [condition] := by
        intro fact member
        rw [List.mem_append]
        rcases mem_facts_of_check member with proves | before
        · exact .inr (by simp [proven, proves])
        · exact .inl (recorded fact before)
      by_cases kept : ∀ name, condition.result = some name →
          ∀ fact ∈ (condition.learnResult ty (condition.learnProven types)).facts,
          fact.mentions name = true → fact.eval (values.insert name value) ≠ .ok .empty
      · have step := agree.afterCondition here accepted executed set notFalse kept
        rcases ih (known ++ proven [condition]) step later checked facts with
          ⟨reached, held, agrees, all⟩ | falls | stale
        · refine .inl ⟨reached, .cons executed set notFalse held, agrees, fun fact member => ?_⟩
          rw [← append_proven_cons]
          exact all fact member
        · exact .inr (.inl (falls.cons executed set notFalse))
        · exact .inr (.inr (stale.cons executed set notFalse))
      · -- The condition itself is the one that makes a fact stale.
        simp only [not_forall, Classical.not_not, exists_prop] at kept
        obtain ⟨name, assigned, fact, member, mentioned, unset⟩ := kept
        exact .inr (.inr ⟨[], condition, rest, values, value, name, fact, rfl, .nil values, executed,
          set, notFalse, assigned, facts fact member, mentioned, unset⟩)
    · have unmet := (isMet_eq_false_iff value).mp (Bool.eq_false_iff.mpr met)
      exact .inr (.inl (fallThrough_head executed unmet))

section

variable (agree : types.Agree Registry.standard .strict values)
include agree

theorem Expr.evalString_of_expect {expr : Expr} (built : expr.Over Registry.standard)
    {place : Place} (expected : expr.expect types place .string = .ok ()) :
    ∃ text, expr.evalString values = .ok text := by
  rw [expect] at expected
  split at expected
  · cases expected
  next found known =>
    have ends := eval_ends_of_check (Registry.standard_soundUnder .strict) agree expr built.calls
      built.wellFormed found known
    obtain ⟨value, executed, inhabits⟩ := ends.exists_ok
    obtain ⟨text, rfl⟩ := Ty.eq_of_admits_string
      (Ty.admits_of_accepts _ found value (accepts_of_accept expected) inhabits)
    exact ⟨text, by rw [evalString, executed]; rfl⟩

namespace EndpointTemplate

theorem evalHeader_of_check {name : String} {headers : List Expr}
    (built : ∀ header ∈ headers, header.Over Registry.standard)
    (accepted : ∀ header ∈ headers, header.expect types (.header name) .string = .ok ()) :
    ∃ texts, evalHeader values headers = .ok texts := by
  induction headers with
  | nil => exact ⟨[], rfl⟩
  | cons header rest ih =>
    obtain ⟨here, later⟩ := List.forall_mem_cons.mp built
    obtain ⟨expected, others⟩ := List.forall_mem_cons.mp accepted
    obtain ⟨text, executed⟩ := Expr.evalString_of_expect agree here expected
    obtain ⟨texts, further⟩ := ih later others
    exact ⟨text :: texts, by simp [evalHeader, executed, further, Except.map]⟩

theorem evalHeaders_of_check {headers : Fields (List Expr)}
    (built : ∀ header ∈ headers, ∀ value ∈ header.2, value.Over Registry.standard)
    (accepted : ∀ header ∈ headers, ∀ value ∈ header.2,
      value.expect types (.header header.1) .string = .ok ()) :
    ∃ results, evalHeaders values headers = .ok results := by
  induction headers with
  | nil => exact ⟨[], rfl⟩
  | cons header rest ih =>
    obtain ⟨here, later⟩ := List.forall_mem_cons.mp built
    obtain ⟨expected, others⟩ := List.forall_mem_cons.mp accepted
    obtain ⟨texts, executed⟩ := evalHeader_of_check agree here expected
    obtain ⟨results, further⟩ := ih later others
    rw [evalHeaders, executed, further]
    exact ⟨_, rfl⟩

theorem evalProperties_of_check {properties : Fields Expr}
    (built : ∀ entry ∈ properties, entry.2.Over Registry.standard)
    (accepted : ∀ entry ∈ properties, ∃ ty, entry.2.check types = .ok ty) :
    ∃ results, evalProperties values properties = .ok results := by
  induction properties with
  | nil => exact ⟨[], rfl⟩
  | cons entry rest ih =>
    obtain ⟨here, later⟩ := List.forall_mem_cons.mp built
    obtain ⟨⟨found, known⟩, others⟩ := List.forall_mem_cons.mp accepted
    have ends := Expr.eval_ends_of_check (Registry.standard_soundUnder .strict) agree entry.2
      here.calls here.wellFormed found known
    obtain ⟨value, executed, -⟩ := ends.exists_ok
    obtain ⟨results, further⟩ := ih later others
    rw [evalProperties, executed, further]
    exact ⟨_, rfl⟩

/-- A checked endpoint results where the scopes agree. -/
theorem eval_of_check {endpoint : EndpointTemplate}
    (built : endpoint.Each (Expr.Over Registry.standard)) (checked : endpoint.check types = .ok ()) :
    ∃ result, endpoint.eval values = .ok result := by
  obtain ⟨url, headers, properties⟩ := check_eq_ok_iff.mp checked
  obtain ⟨text, address⟩ := Expr.evalString_of_expect agree built.url url
  obtain ⟨results, texts⟩ := evalHeaders_of_check agree built.headers headers
  obtain ⟨others, rest⟩ := evalProperties_of_check agree built.properties properties
  rw [eval, address, texts, rest]
  exact ⟨_, rfl⟩

end EndpointTemplate

end

namespace Rule

/-- Where the scopes agree and its conditions hold, a checked error or endpoint rule has an
outcome. -/
theorem conclusion_ne_error {rule : Rule} (built : rule.Each (Expr.Over Registry.standard))
    (agree : types.Agree Registry.standard .strict values) (accepted : rule.BodyAccepted types)
    (failure : EvaluationError) : rule.conclusion values ≠ some (.error failure) := by
  intro concluded
  cases rule with
  | tree => cases concluded
  | error tests message notes =>
    have expected := checkMessage_eq_ok_iff.mp accepted
    obtain ⟨text, executed⟩ := Expr.evalString_of_expect agree built.2 expected
    simp [conclusion, executed, Except.map] at concluded
  | endpoint tests target notes =>
    obtain ⟨result, executed⟩ := EndpointTemplate.eval_of_check agree built.2 accepted
    simp [conclusion, executed, Except.map] at concluded

/-- A checked rule fails only after a fact went stale. -/
theorem goStale_of_fails {rule : Rule} {known : List Expr} {failure : EvaluationError}
    (built : rule.Each (Expr.Over Registry.standard))
    (agree : types.Agree Registry.standard .strict values)
    (checked : (rule.check types).1 = .ok ()) (recorded : ∀ fact ∈ types.facts, fact ∈ known)
    (fails : rule.Fails values failure) :
    Condition.GoStale known rule.conditions values := by
  obtain ⟨after, learned, accepted⟩ := bodyAccepted_of_check checked
  rcases Condition.hold_or_fallThrough_or_goStale rule.conditions known agree built.conditions
    learned recorded with ⟨reached, held, agrees, -⟩ | falls | stale
  · exfalso
    rcases fails with condition | ⟨other, again, concluded⟩
    · exact Condition.not_fail_of_hold held condition
    · obtain rfl := held.unique again
      exact conclusion_ne_error built agrees accepted failure concluded
  · exfalso
    rcases fails with condition | ⟨other, again, -⟩
    · exact Condition.not_fallThrough_of_fail condition falls
    · exact Condition.not_fallThrough_of_hold again falls
  · exact stale

/-- Along a path of rules some conditions make a fact stale, given what is known before. -/
def StaleOnPath (known : List Expr) (rules : List Rule) (scope : Scope Value) (path : List Rule) :
    Prop :=
  ∃ trees last later inner, path = trees ++ last :: later ∧ Arrives rules scope trees last inner ∧
    Condition.GoStale (known ++ trees.flatMap fun tree => Condition.proven tree.conditions)
      last.conditions inner

/-- Inside a tree whose conditions hold, what these prove is known too. -/
theorem StaleOnPath.inside {known : List Expr} {before after children path : List Rule}
    {conditions : List Condition} {notes : RuleNotes} {scope reached : Scope Value}
    (passed : ∀ earlier ∈ before, earlier.FallsThrough scope)
    (held : Condition.Hold conditions scope.push reached)
    (stale : StaleOnPath (known ++ Condition.proven conditions) children reached path) :
    StaleOnPath known (before ++ .tree conditions children notes :: after) scope
      (.tree conditions children notes :: path) := by
  obtain ⟨trees, last, later, inner, rfl, arrives, goes⟩ := stale
  refine ⟨.tree conditions children notes :: trees, last, later, inner, rfl,
    .inside passed held arrives, ?_⟩
  rwa [List.append_assoc] at goes

/-- Evaluation that arrives at a checked rule finds the scopes agreeing, unless a fact went stale on
the way. -/
theorem Arrives.agree_or_stale {rules path : List Rule} {rule : Rule} {scope inner : Scope Value}
    (arrives : Arrives rules scope path rule inner) {types : Scope Ty} {known : List Expr}
    (agree : types.Agree Registry.standard .strict scope)
    (built : AllEach (Expr.Over Registry.standard) rules)
    (checked : (checkAll rules types).1 = .ok ()) (recorded : ∀ fact ∈ types.facts, fact ∈ known) :
    (∃ within, within.Agree Registry.standard .strict inner ∧ (rule.check within).1 = .ok () ∧
      ∀ fact ∈ within.facts,
        fact ∈ known ++ path.flatMap fun tree => Condition.proven tree.conditions) ∨
    StaleOnPath known rules scope (path ++ [rule]) := by
  induction arrives generalizing types known with
  | here passed =>
    have accepted := (checkAll_eq_ok_iff _ types).mp checked _
      (List.mem_append_right _ List.mem_cons_self)
    exact .inl ⟨types.push, agree.push, accepted, by simpa using recorded⟩
  | @inside before after children path conditions notes rule scope reached inner passed held further
      ih =>
    have accepted := (checkAll_eq_ok_iff _ types).mp checked (.tree conditions children notes)
      (by simp)
    have each := (allEach_iff _ _).mp built (.tree conditions children notes) (by simp)
    obtain ⟨learned, first, body⟩ := bodyAccepted_of_check accepted
    rcases Condition.hold_or_fallThrough_or_goStale conditions known agree.push each.1 first
      (by simpa using recorded) with ⟨again, holds, agrees, facts⟩ | falls | stale
    · obtain rfl := held.unique holds
      rcases ih agrees each.2 body facts with ⟨within, agrees, checks, facts⟩ | stale
      · refine .inl ⟨within, agrees, checks, fun fact member => ?_⟩
        have found := facts fact member
        rwa [List.append_assoc] at found
      · exact .inr (stale.inside passed held)
    · exact absurd falls (Condition.not_fallThrough_of_hold held)
    · refine .inr ⟨[], .tree conditions children notes, path ++ [rule], scope.push, rfl, .here passed,
        ?_⟩
      rwa [List.flatMap_nil, List.append_nil]

end Rule

end EndpointResolution
