import EndpointResolution.Evaluation.RuleSet
import EndpointResolution.Proofs.Agreement
import EndpointResolution.Typing.Rules
import Mathlib.Data.List.Nodup

/-!
The root scopes. The arguments that are admitted give every parameter a value of the type under
which the rules see it.
-/
namespace EndpointResolution

universe u

/-- The value may be bound to the parameter. -/
def Parameter.Takes (parameter : Parameter) (value : Value) : Prop :=
  value.isEmpty = false ∧ parameter.declaredTy.admits value = true

theorem Parameter.takes_default {parameter : Parameter} {value : Value}
    (given : parameter.default = some value) : parameter.Takes value := by
  have allowed := parameter.default_allowed
  rw [given] at allowed
  simpa [ParameterKind.allowsDefault, Takes, declaredTy] using allowed

theorem Parameter.anyFree_scopeTy (parameter : Parameter) : parameter.scopeTy.anyFree = true := by
  unfold scopeTy declaredTy
  cases parameter.kind <;> split <;> rfl

namespace RuleSet

/-- The two parameters are one, since names of parameters are distinct. -/
theorem eq_of_name (set : RuleSet) {a b : Parameter} (first : a ∈ set.parameters)
    (second : b ∈ set.parameters) (sameName : a.name = b.name) : a = b :=
  List.inj_on_of_nodup_map set.distinct first second sameName

theorem mem_of_parameter? {set : RuleSet} {name : String} {parameter : Parameter}
    (declared : set.parameter? name = some parameter) :
    parameter ∈ set.parameters ∧ parameter.name = name :=
  ⟨List.mem_of_find?_eq_some declared, by simpa using List.find?_some declared⟩

theorem parameter?_of_mem (set : RuleSet) {parameter : Parameter}
    (member : parameter ∈ set.parameters) : set.parameter? parameter.name = some parameter := by
  cases found : set.parameter? parameter.name with
  | none =>
    have absent := List.find?_eq_none.mp found parameter member
    simp at absent
  | some other =>
    obtain ⟨present, sameName⟩ := mem_of_parameter? found
    rw [set.eq_of_name present member sameName]

/-- Steps that bind one parameter each bind a name as the parameter of that name does. -/
theorem resolve_foldl_parameters {α : Type u} {step : Scope α → Parameter → Scope α}
    {binding : Parameter → Option α} (binds : ∀ scope parameter name,
      (step scope parameter).resolve name =
        if parameter.name = name then (binding parameter).or (scope.resolve name)
        else scope.resolve name)
    (parameters : List Parameter) (distinct : (parameters.map Parameter.name).Nodup)
    (scope : Scope α) (name : String) :
    (parameters.foldl step scope).resolve name =
      ((parameters.find? fun parameter => parameter.name == name).bind binding).or
        (scope.resolve name) := by
  induction parameters generalizing scope with
  | nil => rfl
  | cons parameter rest ih =>
    obtain ⟨fresh, distinct⟩ := List.nodup_cons.mp distinct
    rw [List.foldl_cons, ih distinct, binds]
    by_cases named : parameter.name = name
    · have absent : (rest.find? fun parameter => parameter.name == name) = none := by
        rw [List.find?_eq_none]
        intro other member same
        rw [named, ← eq_of_beq same] at fresh
        exact fresh (List.mem_map_of_mem member)
      rw [if_pos named, absent, List.find?_cons_of_pos (by simp [named])]
      rfl
    · rw [if_neg named, List.find?_cons_of_neg (by simp [named])]

theorem resolve_typeScope (set : RuleSet) (name : String) :
    set.typeScope.resolve name = (set.parameter? name).map Parameter.scopeTy := by
  have binds (scope : Scope Ty) (parameter : Parameter) (name : String) :
      (scope.insert parameter.name parameter.scopeTy).resolve name =
        if parameter.name = name then (some parameter.scopeTy).or (scope.resolve name)
        else scope.resolve name :=
    Scope.resolve_insert parameter.name name parameter.scopeTy scope
  rw [typeScope, resolve_foldl_parameters binds set.parameters set.distinct, parameter?]
  cases set.parameters.find? _ <;> rfl

/-- The names that have a type in the root scope are those of parameters. -/
theorem exists_parameter_of_typeScope {set : RuleSet} {name : String} {ty : Ty}
    (found : set.typeScope.resolve name = some ty) :
    ∃ parameter ∈ set.parameters, parameter.name = name ∧ parameter.scopeTy = ty := by
  rw [resolve_typeScope, Option.map_eq_some_iff] at found
  obtain ⟨parameter, declared, rfl⟩ := found
  obtain ⟨member, sameName⟩ := mem_of_parameter? declared
  exact ⟨parameter, member, sameName, rfl⟩

theorem facts_typeScope (set : RuleSet) : set.typeScope.facts = [] := by
  suffices kept : ∀ (parameters : List Parameter) (scope : Scope Ty),
      (parameters.foldl (fun scope parameter =>
        scope.insert parameter.name parameter.scopeTy) scope).facts = scope.facts from
    kept set.parameters .empty
  intro parameters
  induction parameters with
  | nil => exact fun _ => rfl
  | cons parameter rest ih => exact fun scope => ih _

/-- Every parameter that is bound is bound to a value that it takes. -/
def Admitted (set : RuleSet) (scope : Scope Value) : Prop :=
  ∀ parameter ∈ set.parameters, ∀ value, scope.resolve parameter.name = some value →
    parameter.Takes value

variable {set : RuleSet} {scope : Scope Value}

theorem Admitted.insert (admitted : set.Admitted scope) {name : String} {value : Value}
    (takes : ∀ parameter ∈ set.parameters, parameter.name = name → parameter.Takes value) :
    set.Admitted (scope.insert name value) := by
  intro parameter member bound found
  by_cases same : parameter.name = name
  · rw [same, Scope.resolve_insert_self] at found
    exact Option.some.inj found ▸ takes parameter member same
  · rw [Scope.resolve_insert_of_ne same] at found
    exact admitted parameter member bound found

theorem isSome_resolve_insert {name other : String} {value : Value}
    (bound : (scope.resolve other).isSome = true) :
    ((scope.insert name value).resolve other).isSome = true := by
  by_cases same : other = name
  · rw [same, Scope.resolve_insert_self]
    rfl
  · rwa [Scope.resolve_insert_of_ne same]

/-- The defaults bind their parameters, and nothing but values that these take. -/
theorem seedDefaults_sound (set : RuleSet) (parameters : List Parameter)
    (declared : ∀ parameter ∈ parameters, parameter ∈ set.parameters) (scope : Scope Value)
    (admitted : set.Admitted scope) :
    set.Admitted (seedDefaults parameters scope) ∧
      (∀ name, (scope.resolve name).isSome = true →
        ((seedDefaults parameters scope).resolve name).isSome = true) ∧
      ∀ parameter ∈ parameters, parameter.default.isSome = true →
        ((seedDefaults parameters scope).resolve parameter.name).isSome = true := by
  induction parameters generalizing scope with
  | nil => exact ⟨admitted, fun _ bound => bound, by simp⟩
  | cons parameter rest ih =>
    obtain ⟨here, later⟩ := List.forall_mem_cons.mp declared
    cases given : parameter.default with
    | none =>
      have step : seedDefaults (parameter :: rest) scope = seedDefaults rest scope := by
        simp [seedDefaults, given]
      obtain ⟨kept, bound, defaults⟩ := ih later scope admitted
      rw [step]
      refine ⟨kept, bound, List.forall_mem_cons.mpr ⟨?_, defaults⟩⟩
      rw [given]
      exact nofun
    | some value =>
      have step : seedDefaults (parameter :: rest) scope =
          seedDefaults rest (scope.insert parameter.name value) := by
        simp [seedDefaults, given]
      have next : set.Admitted (scope.insert parameter.name value) := by
        refine admitted.insert fun other member sameName => ?_
        rw [set.eq_of_name member here sameName]
        exact Parameter.takes_default given
      obtain ⟨kept, bound, defaults⟩ := ih later _ next
      rw [step]
      refine ⟨kept, fun name before => bound name (isSome_resolve_insert before),
        List.forall_mem_cons.mpr ⟨fun _ => bound parameter.name ?_, defaults⟩⟩
      rw [Scope.resolve_insert_self]
      rfl

theorem takes_of_admitArgument {name : String} {value : Value} (filled : value.isEmpty = false)
    (accepted : set.admitArgument name value = .ok ()) :
    ∀ parameter ∈ set.parameters, parameter.name = name → parameter.Takes value := by
  rintro parameter member rfl
  rw [admitArgument, set.parameter?_of_mem member] at accepted
  refine ⟨filled, ?_⟩
  by_contra refused
  simp [refused] at accepted

/-- Arguments bind parameters to values that these take, and unbind none. -/
theorem seedArguments_sound {arguments : Fields Value} {after : Scope Value}
    (seeded : set.seedArguments arguments scope = .ok after) (admitted : set.Admitted scope) :
    set.Admitted after ∧
      ∀ name, (scope.resolve name).isSome = true → (after.resolve name).isSome = true := by
  induction arguments generalizing scope with
  | nil =>
    cases seeded
    exact ⟨admitted, fun _ bound => bound⟩
  | cons argument rest ih =>
    obtain ⟨name, value⟩ := argument
    rw [seedArguments] at seeded
    cases empty : value.isEmpty with
    | true =>
      rw [empty, if_pos rfl] at seeded
      exact ih seeded admitted
    | false =>
      rw [empty, if_neg Bool.false_ne_true] at seeded
      split at seeded
      · cases seeded
      next accepted =>
        obtain ⟨kept, bound⟩ := ih seeded (admitted.insert (takes_of_admitArgument empty accepted))
        exact ⟨kept, fun other before => bound other (isSome_resolve_insert before)⟩

/-- The root scope of admitted arguments: the values are of the types under which rules see the
parameters. -/
theorem seed_sound {arguments : Fields Value} (seeded : set.seed arguments = .ok scope) :
    ∀ parameter ∈ set.parameters,
      parameter.scopeTy.admits (scope.valueOf parameter.name) = true := by
  have start : set.Admitted .empty := by
    intro parameter member value found
    simp [Scope.resolve, Scope.frames, Scope.empty, Frame.empty] at found
  obtain ⟨admitted, -, defaults⟩ :=
    seedDefaults_sound set set.parameters (fun _ member => member) .empty start
  rw [seed] at seeded
  split at seeded
  · cases seeded
  next given =>
    split at seeded
    · cases seeded
    next complete =>
      cases seeded
      obtain ⟨kept, bound⟩ := seedArguments_sound given admitted
      intro parameter member
      have required := List.find?_eq_none.mp complete parameter member
      unfold Parameter.scopeTy Scope.valueOf
      cases found : scope.resolve parameter.name with
      | some value =>
        have takes := (kept parameter member value found).2
        split
        · exact takes
        · rw [← Ty.admitsUnder_wide] at takes ⊢
          exact Ty.admitsUnder_orEmpty takes
      | none =>
        have unbound : parameter.required = false ∧ parameter.default.isSome = false := by
          constructor
          · simpa [found] using required
          · refine Bool.eq_false_iff.mpr fun given => ?_
            have still := bound parameter.name (defaults parameter member given)
            rw [found] at still
            cases still
        rw [unbound.1, unbound.2, ← Ty.admitsUnder_wide]
        exact Ty.orEmpty_admitsUnder_empty .wide _

/-- The root scopes of the two passes agree. -/
theorem seed_agree (registry : Registry) {arguments : Fields Value}
    (seeded : set.seed arguments = .ok scope) :
    set.typeScope.Agree registry .strict scope where
  typed := by
    intro name ty found
    obtain ⟨parameter, member, rfl, rfl⟩ := exists_parameter_of_typeScope found
    exact Ty.admitsUnder_of_anyFree parameter.anyFree_scopeTy (seed_sound seeded parameter member)
  built := by simp [facts_typeScope]
  set := by simp [facts_typeScope]

theorem admitArgument_error {name : String} {value : Value} {failure : EvaluationError}
    (refused : set.admitArgument name value = .error failure) :
    ∃ expected found, failure = .invalidParameter name expected found := by
  rw [admitArgument] at refused
  split at refused
  · cases refused
  next parameter declared =>
    split at refused
    · cases refused
    · cases refused
      exact ⟨_, _, by rw [rejection, (mem_of_parameter? declared).2]⟩

/-- What binding the arguments fails with. -/
theorem seedArguments_error {arguments : Fields Value} {failure : EvaluationError}
    (refused : set.seedArguments arguments scope = .error failure) :
    ∃ name expected found, failure = .invalidParameter name expected found := by
  induction arguments generalizing scope with
  | nil => cases refused
  | cons argument rest ih =>
    obtain ⟨name, value⟩ := argument
    rw [seedArguments] at refused
    split at refused
    · exact ih refused
    · split at refused
      next rejected =>
        cases refused
        obtain ⟨expected, found, same⟩ := admitArgument_error rejected
        exact ⟨name, expected, found, same⟩
      · exact ih refused

/-- What the root scope fails with: an argument is refused or missing. -/
theorem seed_error {arguments : Fields Value} {failure : EvaluationError}
    (refused : set.seed arguments = .error failure) :
    (∃ name expected found, failure = .invalidParameter name expected found) ∨
      ∃ name, failure = .missingParameter name := by
  rw [seed] at refused
  split at refused
  next rejected =>
    cases refused
    exact .inl (seedArguments_error rejected)
  · split at refused
    next parameter missing =>
      cases refused
      exact .inr ⟨parameter.name, rfl⟩
    · cases refused

end RuleSet
end EndpointResolution
