import EndpointResolution.Proofs.FieldOrder
import EndpointResolution.Proofs.Seed

/-!
Which arguments count. The root scope binds all that are not empty, but whether there is one, what
it fails with and what it binds to the names of parameters depends on the arguments of declared
parameters alone.
-/
namespace EndpointResolution

namespace RuleSet

variable {set : RuleSet} {scope : Scope Value} {arguments : Fields Value}

/-- A parameter of the rule-set has the name. -/
def declares (set : RuleSet) (name : String) : Bool :=
  (set.parameter? name).isSome

theorem declares_of_mem {parameter : Parameter} (member : parameter ∈ set.parameters) :
    set.declares parameter.name = true := by
  rw [declares, set.parameter?_of_mem member]
  rfl

theorem exists_parameter_of_declares {name : String} (declared : set.declares name = true) :
    ∃ parameter ∈ set.parameters, parameter.name = name := by
  obtain ⟨parameter, found⟩ := Option.isSome_iff_exists.mp declared
  exact ⟨parameter, mem_of_parameter? found⟩

/-- The argument of a name, if it is not empty. -/
def argument? (name : String) (arguments : Fields Value) : Option Value :=
  (Fields.get? name arguments).filter fun value => !value.isEmpty

theorem argument?_eq_some_iff {name : String} {value : Value} :
    argument? name arguments = some value ↔
      Fields.get? name arguments = some value ∧ value.isEmpty = false := by
  rw [argument?, Option.filter_eq_some_iff, Bool.not_eq_true']

theorem argument?_cons (name other : String) (value : Value) (rest : Fields Value) :
    argument? name ((other, value) :: rest) =
      if other = name then if value.isEmpty then none else some value else argument? name rest := by
  rw [argument?, argument?, Fields.get?]
  split
  · cases empty : value.isEmpty <;> simp [Option.filter, empty]
  · rfl

theorem argument?_of_above {name : String} (above : ∀ argument ∈ arguments, name < argument.1) :
    argument? name arguments = none := by
  rw [Option.eq_none_iff_forall_ne_some]
  intro value found
  exact String.lt_irrefl name (above _ (Fields.mem_of_get? (argument?_eq_some_iff.mp found).1))

/-- An argument that is not empty goes before what the scope binds its name to. -/
theorem resolve_seedArguments {after : Scope Value} (ascending : arguments.Ascending)
    (seeded : set.seedArguments arguments scope = .ok after) (name : String) :
    after.resolve name = (argument? name arguments).or (scope.resolve name) := by
  induction arguments generalizing scope with
  | nil =>
    cases seeded
    rfl
  | cons argument rest ih =>
    obtain ⟨other, value⟩ := argument
    obtain ⟨below, ascending⟩ := List.pairwise_cons.mp ascending
    rw [argument?_cons]
    rw [seedArguments] at seeded
    split at seeded
    next empty =>
      rw [ih ascending seeded, if_pos empty]
      split
      next named => rw [argument?_of_above (named ▸ below)]
      next => rfl
    next filled =>
      split at seeded
      · cases seeded
      rw [ih ascending seeded, if_neg filled]
      split
      next named =>
        rw [argument?_of_above (named ▸ below), named, Scope.resolve_insert_self]
        rfl
      next other => rw [Scope.resolve_insert_of_ne (Ne.symm other)]

theorem resolve_seed_of_get? (ascending : arguments.Ascending)
    (seeded : set.seed arguments = .ok scope) {name : String} {value : Value}
    (given : Fields.get? name arguments = some value) (filled : value.isEmpty = false) :
    scope.resolve name = some value := by
  rw [seed] at seeded
  split at seeded
  · cases seeded
  next bound =>
    split at seeded
    · cases seeded
    · cases seeded
      rw [resolve_seedArguments ascending bound, argument?_eq_some_iff.mpr ⟨given, filled⟩,
        Option.some_or]

/-- An argument of a declared parameter that is not empty. -/
def counts (set : RuleSet) (argument : String × Value) : Bool :=
  set.declares argument.1 && !argument.2.isEmpty

/-- The two scopes bind every parameter alike. -/
def SameBindings (set : RuleSet) (left right : Scope Value) : Prop :=
  ∀ parameter ∈ set.parameters, left.resolve parameter.name = right.resolve parameter.name

/-- Both runs fail alike, or both have a scope, and these bind every parameter alike. -/
def SameSeeds (set : RuleSet) :
    Except EvaluationError (Scope Value) → Except EvaluationError (Scope Value) → Prop
  | .ok left, .ok right => set.SameBindings left right
  | .error failure, .error other => failure = other
  | _, _ => False

theorem SameBindings.insert {left right : Scope Value} (same : set.SameBindings left right)
    (name : String) (value : Value) :
    set.SameBindings (left.insert name value) (right.insert name value) := by
  intro parameter member
  by_cases named : parameter.name = name
  · rw [named, Scope.resolve_insert_self, Scope.resolve_insert_self]
  · rw [Scope.resolve_insert_of_ne named, Scope.resolve_insert_of_ne named]
    exact same parameter member

theorem SameBindings.insert_undeclared {left right : Scope Value}
    (same : set.SameBindings left right) {name : String} (undeclared : set.declares name = false)
    (value : Value) : set.SameBindings (left.insert name value) right := by
  intro parameter member
  have distinct : parameter.name ≠ name := by
    rintro rfl
    rw [declares_of_mem member] at undeclared
    cases undeclared
  rw [Scope.resolve_insert_of_ne distinct]
  exact same parameter member

theorem admitArgument_of_undeclared {name : String} (undeclared : set.declares name = false)
    (value : Value) : set.admitArgument name value = .ok () := by
  rw [declares, Option.isSome_eq_false_iff, Option.isNone_iff_eq_none] at undeclared
  rw [admitArgument, undeclared]

/-- The arguments that do not count can be left out. -/
theorem seedArguments_filter (arguments : Fields Value) {left right : Scope Value}
    (same : set.SameBindings left right) :
    set.SameSeeds (set.seedArguments arguments left)
      (set.seedArguments (arguments.filter set.counts) right) := by
  induction arguments generalizing left right with
  | nil => exact same
  | cons argument rest ih =>
    obtain ⟨name, value⟩ := argument
    rw [seedArguments]
    cases empty : value.isEmpty with
    | true =>
      rw [if_pos rfl, List.filter_cons_of_neg (by simp [counts, empty])]
      exact ih same
    | false =>
      rw [if_neg Bool.false_ne_true]
      cases declared : set.declares name with
      | false =>
        rw [admitArgument_of_undeclared declared, List.filter_cons_of_neg (by simp [counts, declared])]
        exact ih (same.insert_undeclared declared value)
      | true =>
        rw [List.filter_cons_of_pos (by simp [counts, declared, empty]), seedArguments, empty,
          if_neg Bool.false_ne_true]
        cases set.admitArgument name value with
        | error failure => exact rfl
        | ok _ => exact ih (same.insert name value)

theorem SameSeeds.of_same {first second common : Except EvaluationError (Scope Value)}
    (left : set.SameSeeds first common) (right : set.SameSeeds second common) :
    set.SameSeeds first second := by
  rcases first with failure | scope <;> rcases second with other | reached <;>
    rcases common with last | final
  · exact left.trans right.symm
  · exact left.elim
  · exact right.elim
  · exact left.elim
  · exact left.elim
  · exact right.elim
  · exact left.elim
  · exact fun parameter member => (left parameter member).trans (right parameter member).symm

/-- The arguments give every parameter the same value, an argument that is absent counting as
empty. -/
def SameArguments (set : RuleSet) (left right : Fields Value) : Prop :=
  ∀ parameter ∈ set.parameters,
    (Fields.get? parameter.name left).getD .empty = (Fields.get? parameter.name right).getD .empty

theorem SameArguments.symm {left right : Fields Value} (same : set.SameArguments left right) :
    set.SameArguments right left :=
  fun parameter member => (same parameter member).symm

theorem SameArguments.get?_eq {left right : Fields Value} (same : set.SameArguments left right)
    {name : String} {value : Value} (counted : set.counts (name, value) = true)
    (given : Fields.get? name left = some value) : Fields.get? name right = some value := by
  simp only [counts, Bool.and_eq_true, Bool.not_eq_true'] at counted
  obtain ⟨parameter, member, rfl⟩ := exists_parameter_of_declares counted.1
  have agreed := same parameter member
  rw [given, Option.getD_some] at agreed
  cases other : Fields.get? parameter.name right with
  | none =>
    rw [agreed, other] at counted
    cases counted.2
  | some found => rw [agreed, other, Option.getD_some]

/-- The first missing parameter depends on what the parameters are bound to. -/
theorem SameBindings.missing?_eq {left right : Scope Value} (same : set.SameBindings left right) :
    missing? set.parameters left = missing? set.parameters right := by
  rw [missing?, missing?, ← List.head?_filter, ← List.head?_filter]
  refine congrArg List.head? (List.filter_congr fun parameter member => ?_)
  rw [same parameter member]

/-- Arguments that give every parameter the same value have root scopes that bind every parameter
alike, or fail alike. -/
theorem seed_sameSeeds {left right : Fields Value} (first : left.Ascending)
    (second : right.Ascending) (same : set.SameArguments left right) :
    set.SameSeeds (set.seed left) (set.seed right) := by
  have kept : left.filter set.counts = right.filter set.counts :=
    first.filter_eq second set.counts fun name value counted =>
      ⟨same.get?_eq counted, same.symm.get?_eq counted⟩
  have start : set.SameBindings (seedDefaults set.parameters .empty)
      (seedDefaults set.parameters .empty) := fun _ _ => rfl
  have bound : set.SameSeeds (set.seedArguments left (seedDefaults set.parameters .empty))
      (set.seedArguments right (seedDefaults set.parameters .empty)) := by
    have alone := set.seedArguments_filter right start
    rw [← kept] at alone
    exact (set.seedArguments_filter left start).of_same alone
  rw [seed, seed]
  generalize set.seedArguments left _ = seeded at bound ⊢
  generalize set.seedArguments right _ = other at bound ⊢
  rcases seeded with failure | scope <;> rcases other with refused | reached
  · exact bound
  · exact bound.elim
  · exact bound.elim
  · simp only [SameBindings.missing?_eq bound]
    cases missing? set.parameters reached with
    | some parameter => exact rfl
    | none => exact bound

end RuleSet
end EndpointResolution
