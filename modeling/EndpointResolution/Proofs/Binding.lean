import EndpointResolution.Evaluation.Rules
import EndpointResolution.Proofs.ExprSoundness
import EndpointResolution.Typing.Rules

/-!
What a condition that holds changes in the two scopes. The evaluator binds every result, the checker
none whose type is `Any`: a name that had a type before keeps it then, whatever its new value is.
-/
namespace EndpointResolution

variable {registry : Registry} {reading : Reading} {types : Scope Ty} {values : Scope Value}

namespace Condition

@[simp] theorem resolve_learnProven (condition : Condition) (scope : Scope Ty) (name : String) :
    (condition.learnProven scope).resolve name = scope.resolve name := by
  unfold learnProven
  split <;> rfl

theorem facts_learnProven (condition : Condition) (scope : Scope Ty) :
    (condition.learnProven scope).facts = (proven? condition.test).toList ++ scope.facts := by
  unfold learnProven
  split
  next fact proven => rw [proven, Scope.facts_know, Option.toList_some, List.singleton_append]
  next proven => rw [proven, Option.toList_none, List.nil_append]

theorem facts_learnResult (condition : Condition) (ty : Ty) (scope : Scope Ty) :
    (condition.learnResult ty scope).facts = scope.facts := by
  unfold learnResult
  split
  · split <;> simp
  · rfl

/-- A condition that is accepted has the type of its expression and makes its facts known. -/
theorem eq_of_check {condition : Condition} {ty : Ty} {after : Scope Ty}
    (checked : condition.check types = (.ok ty, after)) :
    condition.test.check types = .ok ty ∧
      after = condition.learnResult ty (condition.learnProven types) := by
  unfold check at checked
  split at checked
  · cases checked
  next found known =>
    cases checked
    exact ⟨known, rfl⟩

theorem ne_empty_of_isMet {value : Value} (met : isMet value = true) : value.isEmpty = false := by
  cases empty : value.isEmpty with
  | false => rfl
  | true => simp [isMet, empty] at met

/-- What a condition binds has the type that the checker binds. A result of type `Any` has to be of
whatever type its name has already. -/
theorem typed_of_isMet {condition : Condition} {ty : Ty} {value : Value}
    (typed : ∀ name old, types.resolve name = some old →
      old.admitsUnder reading (values.valueOf name) = true)
    (inhabits : ty.admitsUnder reading value = true) (met : isMet value = true)
    (kept : ∀ name old, condition.result = some name → ty.required = .any →
      types.resolve name = some old → old.admitsUnder reading value = true)
    {name : String} {named : Ty}
    (found : (condition.learnResult ty (condition.learnProven types)).resolve name = some named) :
    named.admitsUnder reading ((condition.bind value values).valueOf name) = true := by
  have narrowed := Ty.admitsUnder_required (ne_empty_of_isMet met) inhabits
  cases assigned : condition.result with
  | none =>
    simp only [learnResult, assigned, resolve_learnProven] at found
    simp only [bind, assigned]
    exact typed name named found
  | some result =>
    simp only [learnResult, assigned] at found
    simp only [bind, assigned]
    by_cases same : name = result
    · subst same
      rw [Scope.valueOf_insert_self]
      split at found
      next unknown =>
        rw [resolve_learnProven] at found
        exact kept name named assigned unknown found
      · rw [Scope.resolve_insert_self] at found
        cases found
        exact narrowed
    · rw [Scope.valueOf_insert_of_ne same]
      have before : types.resolve name = some named := by
        split at found
        · rwa [resolve_learnProven] at found
        · rwa [Scope.resolve_insert_of_ne same, resolve_learnProven] at found
      exact typed name named before

end Condition

/-- After a condition that holds, the value of every name inhabits its type if and only if the
condition has not bound a result of type `Any` to a name that has a type which does not admit it. -/
theorem Condition.names_keep_types_iff (registry : Registry) (sound : registry.Sound)
    (reserved : registry.Reserved) (types : Scope Ty) (values : Scope Value)
    (typed : ∀ name ty, types.resolve name = some ty → ty.admits (values.valueOf name) = true)
    (known : ∀ fact ∈ types.facts, fact.Calls registry.Has ∧ fact.eval values ≠ .ok .empty)
    (condition : Condition) (built : condition.test.Over registry) (ty : Ty) (after : Scope Ty)
    (checked : condition.check types = (.ok ty, after)) (value : Value)
    (executed : condition.test.eval values = .ok value) (met : Condition.isMet value = true) :
    (∀ name named, after.resolve name = some named →
      named.admits ((condition.bind value values).valueOf name) = true) ↔
    ∀ name old, condition.result = some name → ty.required = .any →
      types.resolve name = some old → old.admits value = true := by
  obtain ⟨known_ty, rfl⟩ := Condition.eq_of_check checked
  constructor
  · intro agree name old assigned unknown found
    have admitted := agree name old (by
      simp only [learnResult, assigned, if_pos unknown, resolve_learnProven, found])
    simpa only [bind, assigned, Scope.valueOf_insert_self] using admitted
  · intro kept name named found
    have agree : types.Agree registry .wide values := {
      typed := fun name ty found => by
        rw [Ty.admitsUnder_wide]
        exact typed name ty found
      built := fun fact recorded => (known fact recorded).1
      set := fun fact recorded => (known fact recorded).2 }
    have wide : registry.SoundUnder .wide := ⟨sound, reserved, fun strict => nomatch strict⟩
    have ends := Expr.eval_ends_of_check wide agree condition.test built.calls built.wellFormed ty
      known_ty
    rw [executed] at ends
    rw [← Ty.admitsUnder_wide]
    refine typed_of_isMet agree.typed ends met ?_ found
    intro name old assigned unknown before
    rw [Ty.admitsUnder_wide]
    exact kept name old assigned unknown before

/-- A function without arguments whose results are of type `Any`. -/
def Function.five : Function where
  id := "five"
  arguments := []
  returns := .any
  typing := .signature
  rule := fun _ => .ok (.integer 5)

theorem Function.five_sound : five.Sound := by
  intro values given
  cases given
  exact ⟨.integer 5, rfl, rfl⟩

/-- The condition `Region = five()`. -/
def Condition.fiveAsRegion : Condition :=
  ⟨.call .five [] .unknown, some "Region"⟩

/-- The scopes after `Region` has been bound to a string agree. -/
theorem Scope.region_typed (name : String) (ty : Ty)
    (found : (empty.insert "Region" Ty.string).resolve name = some ty) :
    ty.admits ((empty.insert "Region" (.string "us-east-1")).valueOf name) = true := by
  obtain ⟨rfl, rfl⟩ := eq_of_resolve_insert_empty found
  rfl

/-- A name does not keep its type if a result of type `Any` is bound to it: to the checker `Region`
is a string after `Region = five()`. -/
theorem Condition.fiveAsRegion_breaks_type :
    ¬ ∀ registry : Registry, registry.Sound → registry.Reserved →
      ∀ (types : Scope Ty) (values : Scope Value),
      (∀ name ty, types.resolve name = some ty → ty.admits (values.valueOf name) = true) →
      (∀ fact ∈ types.facts, fact.Calls registry.Has ∧ fact.eval values ≠ .ok .empty) →
      ∀ condition : Condition, condition.test.Over registry →
      ∀ ty after, condition.check types = (.ok ty, after) →
      ∀ value, condition.test.eval values = .ok value → isMet value = true →
      ∀ name named, after.resolve name = some named →
        named.admits ((condition.bind value values).valueOf name) = true := by
  intro claim
  have wrong := claim (Registry.standard.register .five)
    (Registry.standard_sound.register Function.five_sound)
    (Registry.standard_reserved.register rfl) _ _ Scope.region_typed (by simp) fiveAsRegion
    ⟨⟨Fields.get?_insert_self _ _ _, trivial⟩, trivial⟩ .any _ rfl (.integer 5) rfl rfl "Region"
    .string rfl
  cases wrong

theorem Condition.names_keep_types_iff_of_five :
    ¬ ∀ name named, (Scope.empty.insert "Region" Ty.string).resolve name = some named →
      named.admits ((fiveAsRegion.bind (.integer 5)
        (Scope.empty.insert "Region" (.string "us-east-1"))).valueOf name) = true := by
  have exactly := names_keep_types_iff (Registry.standard.register .five)
    (Registry.standard_sound.register Function.five_sound)
    (Registry.standard_reserved.register rfl) _ _ Scope.region_typed (by simp) fiveAsRegion
    ⟨⟨Fields.get?_insert_self _ _ _, trivial⟩, trivial⟩ .any _ rfl (.integer 5) rfl rfl
  intro agree
  exact nomatch exactly.mp agree "Region" .string rfl rfl rfl

end EndpointResolution
