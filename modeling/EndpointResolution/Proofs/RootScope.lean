import EndpointResolution.Proofs.Arguments

/-!
When there is a root scope, what it binds, and what it fails with. An argument of a wrong type is
found before a parameter is missed, whatever the two are. The scope binds a name to its argument if
that is not empty and to the default otherwise, and the types under which the rules see the
parameters admit these values.
-/
namespace EndpointResolution.RuleSet

variable {set : RuleSet} {scope : Scope Value} {arguments : Fields Value}

theorem resolve_seedDefaults (set : RuleSet) (name : String) :
    (seedDefaults set.parameters .empty).resolve name =
      (set.parameter? name).bind Parameter.default := by
  refine (resolve_foldl_parameters (fun scope parameter name => ?_) set.parameters set.distinct
    .empty name).trans (Option.or_none ..)
  cases parameter.default with
  | none => simp
  | some value => exact Scope.resolve_insert parameter.name name value scope

theorem outer_seedDefaults (parameters : List Parameter) (scope : Scope Value) :
    (seedDefaults parameters scope).outer = scope.outer := by
  unfold seedDefaults
  induction parameters generalizing scope with
  | nil => rfl
  | cons parameter rest ih =>
    rw [List.foldl_cons, ih]
    cases parameter.default <;> rfl

theorem outer_seedArguments {after : Scope Value}
    (seeded : set.seedArguments arguments scope = .ok after) : after.outer = scope.outer := by
  induction arguments generalizing scope with
  | nil =>
    cases seeded
    rfl
  | cons argument rest ih =>
    rw [seedArguments] at seeded
    split at seeded
    · exact ih seeded
    · split at seeded
      · cases seeded
      · exact (ih seeded).trans rfl

/-- The argument is empty, or of the type that the parameter of its name declares. -/
def takesArgument (set : RuleSet) (argument : String × Value) : Bool :=
  argument.2.isEmpty ||
    (set.parameter? argument.1).all fun parameter => parameter.declaredTy.admits argument.2

/-- The argument is not of the type that the parameter of its name declares, and that is the
failure. -/
def Refuses (set : RuleSet) (argument : String × Value) (failure : EvaluationError) : Prop :=
  argument.2.isEmpty = false ∧ ∃ parameter ∈ set.parameters, parameter.name = argument.1 ∧
    parameter.declaredTy.admits argument.2 = false ∧
    failure = .invalidParameter argument.1 parameter.declaredTy.display argument.2.kind

theorem takesArgument_or_refuses (set : RuleSet) (argument : String × Value) :
    set.takesArgument argument = true ∨ ∃ failure, set.Refuses argument failure := by
  rw [takesArgument, Bool.or_eq_true]
  cases empty : argument.2.isEmpty with
  | true => exact .inl (.inl rfl)
  | false =>
    cases declared : set.parameter? argument.1 with
    | none => exact .inl (.inr rfl)
    | some parameter =>
      cases inhabits : parameter.declaredTy.admits argument.2 with
      | true => exact .inl (.inr inhabits)
      | false =>
        obtain ⟨member, named⟩ := mem_of_parameter? declared
        exact .inr ⟨_, empty, parameter, member, named, inhabits, rfl⟩

theorem Refuses.not_takesArgument {argument : String × Value} {failure : EvaluationError}
    (refused : set.Refuses argument failure) : set.takesArgument argument = false := by
  obtain ⟨filled, parameter, member, named, outside, -⟩ := refused
  rw [takesArgument, filled, ← named, set.parameter?_of_mem member]
  exact outside

theorem admitArgument_of_takesArgument {name : String} {value : Value}
    (filled : value.isEmpty = false) (taken : set.takesArgument (name, value) = true) :
    set.admitArgument name value = .ok () := by
  rw [takesArgument, filled, Bool.false_or] at taken
  rw [admitArgument]
  split
  · rfl
  next declared =>
    rw [declared, Option.all_some] at taken
    rw [if_pos taken]

theorem Refuses.admitArgument_eq {name : String} {value : Value} {failure : EvaluationError}
    (refused : set.Refuses (name, value) failure) :
    set.admitArgument name value = .error failure := by
  obtain ⟨-, parameter, member, rfl, outside, rfl⟩ := refused
  rw [admitArgument, set.parameter?_of_mem member]
  exact if_neg (Bool.eq_false_iff.mp outside)

/-- The arguments up to the first one that is refused do not matter. -/
theorem seedArguments_of_taken {before : Fields Value} (after : Fields Value)
    (taken : ∀ argument ∈ before, set.takesArgument argument = true) (scope : Scope Value) :
    ∃ reached, set.seedArguments (before ++ after) scope = set.seedArguments after reached := by
  induction before generalizing scope with
  | nil => exact ⟨scope, rfl⟩
  | cons argument rest ih =>
    obtain ⟨name, value⟩ := argument
    obtain ⟨here, later⟩ := List.forall_mem_cons.mp taken
    rw [List.cons_append, seedArguments]
    cases empty : value.isEmpty with
    | true =>
      obtain ⟨reached, same⟩ := ih later scope
      exact ⟨reached, by rw [if_pos rfl, same]⟩
    | false =>
      obtain ⟨reached, same⟩ := ih later (scope.insert name value)
      refine ⟨reached, ?_⟩
      rw [if_neg Bool.false_ne_true, admitArgument_of_takesArgument empty here, same]

/-- The failure is that of the first argument that is refused, in the order of the names. -/
def FirstRefused (set : RuleSet) (arguments : Fields Value) (failure : EvaluationError) : Prop :=
  ∃ argument ∈ arguments, set.Refuses argument failure ∧
    ∀ earlier ∈ arguments, earlier.1 < argument.1 → set.takesArgument earlier = true

theorem seed_of_firstRefused {failure : EvaluationError} (ascending : arguments.Ascending)
    (refused : set.FirstRefused arguments failure) : set.seed arguments = .error failure := by
  obtain ⟨argument, member, refused, first⟩ := refused
  obtain ⟨before, after, rfl⟩ := List.append_of_mem member
  -- The arguments in front are those with lesser names, so that none of them is refused.
  obtain ⟨-, -, apart⟩ := List.pairwise_append.mp ascending
  obtain ⟨reached, same⟩ := seedArguments_of_taken (argument :: after)
    (fun earlier present => first earlier (List.mem_append_left _ present)
      (apart earlier present argument List.mem_cons_self))
    (seedDefaults set.parameters .empty)
  rw [seed, same, seedArguments, refused.1, if_neg Bool.false_ne_true, refused.admitArgument_eq]

theorem takesArgument_or_firstRefused (set : RuleSet) (ascending : arguments.Ascending) :
    (∀ argument ∈ arguments, set.takesArgument argument = true) ∨
      ∃ failure, set.FirstRefused arguments failure := by
  induction arguments with
  | nil => exact .inl nofun
  | cons argument rest ih =>
    obtain ⟨below, ascending⟩ := List.pairwise_cons.mp ascending
    rcases set.takesArgument_or_refuses argument with taken | ⟨failure, refused⟩
    · rcases ih ascending with others | ⟨failure, later, member, refused, first⟩
      · exact .inl (List.forall_mem_cons.mpr ⟨taken, others⟩)
      · refine .inr ⟨failure, later, List.mem_cons_of_mem _ member, refused, ?_⟩
        exact List.forall_mem_cons.mpr ⟨fun _ => taken, first⟩
    · refine .inr ⟨failure, argument, List.mem_cons_self, refused, ?_⟩
      rw [List.forall_mem_cons]
      exact ⟨fun less => absurd less (String.lt_irrefl _),
        fun earlier member less => absurd less (String.lt_asymm (below earlier member))⟩

/-- The parameter is not required, or there is a value for it. -/
def Supplied (arguments : Fields Value) (parameter : Parameter) : Prop :=
  parameter.required = true → parameter.default.isSome = true ∨
    ∃ value, Fields.get? parameter.name arguments = some value ∧ value.isEmpty = false

/-- The parameter is the first one without a value, in the order of declaration. -/
def FirstMissing (set : RuleSet) (arguments : Fields Value) (parameter : Parameter) : Prop :=
  ∃ before after, set.parameters = before ++ parameter :: after ∧
    (∀ earlier ∈ before, Supplied arguments earlier) ∧ ¬ Supplied arguments parameter

/-- The scope binds names to their arguments, else to the defaults, and has no other frame. -/
structure IsRoot (set : RuleSet) (arguments : Fields Value) (scope : Scope Value) : Prop where
  depth : scope.depth = 1
  resolve : ∀ name, scope.resolve name =
    (argument? name arguments).or ((set.parameter? name).bind Parameter.default)

theorem exists_isRoot (set : RuleSet) (ascending : arguments.Ascending)
    (taken : ∀ argument ∈ arguments, set.takesArgument argument = true) :
    ∃ scope, set.seedArguments arguments (seedDefaults set.parameters .empty) = .ok scope ∧
      set.IsRoot arguments scope := by
  obtain ⟨scope, seeded⟩ := seedArguments_of_taken [] taken (seedDefaults set.parameters .empty)
  rw [List.append_nil, seedArguments] at seeded
  refine ⟨scope, seeded, ?_, fun name => ?_⟩
  · rw [Scope.depth, outer_seedArguments seeded, outer_seedDefaults]
    rfl
  · rw [resolve_seedArguments ascending seeded, resolve_seedDefaults]

theorem IsRoot.supplied_iff (root : set.IsRoot arguments scope) {parameter : Parameter}
    (member : parameter ∈ set.parameters) : Supplied arguments parameter ↔
      (parameter.required && (scope.resolve parameter.name).isNone) = false := by
  have given : (argument? parameter.name arguments).isSome = true ↔
      ∃ value, Fields.get? parameter.name arguments = some value ∧ value.isEmpty = false := by
    simp only [Option.isSome_iff_exists, argument?_eq_some_iff]
  have bound : (scope.resolve parameter.name).isSome = true ↔ parameter.default.isSome = true ∨
      ∃ value, Fields.get? parameter.name arguments = some value ∧ value.isEmpty = false := by
    rw [root.resolve, set.parameter?_of_mem member, Option.bind_some, Option.isSome_or,
      Bool.or_eq_true, given, or_comm]
  rw [Supplied, ← bound, Bool.and_eq_false_imp, Option.isNone_eq_false_iff]

theorem IsRoot.missing?_eq_none_iff (root : set.IsRoot arguments scope) :
    missing? set.parameters scope = none ↔
      ∀ parameter ∈ set.parameters, Supplied arguments parameter := by
  rw [missing?, List.find?_eq_none]
  refine forall₂_congr fun parameter member => ?_
  rw [root.supplied_iff member, Bool.not_eq_true]

theorem IsRoot.missing?_eq_some_iff (root : set.IsRoot arguments scope) {parameter : Parameter} :
    missing? set.parameters scope = some parameter ↔ set.FirstMissing arguments parameter := by
  rw [missing?, List.find?_eq_some_iff_append]
  constructor
  · rintro ⟨missed, before, after, split, others⟩
    refine ⟨before, after, split, fun earlier present => ?_, ?_⟩
    · rw [root.supplied_iff (split ▸ List.mem_append_left _ present)]
      exact Bool.not_eq_true' _ ▸ others earlier present
    · rw [root.supplied_iff (split ▸ List.mem_append_right _ List.mem_cons_self), missed]
      exact Bool.false_ne_true.symm
  · rintro ⟨before, after, split, supplied, missed⟩
    rw [root.supplied_iff (split ▸ List.mem_append_right _ List.mem_cons_self)] at missed
    refine ⟨Bool.eq_true_of_not_eq_false missed, before, after, split, fun earlier present => ?_⟩
    have given := supplied earlier present
    rw [root.supplied_iff (split ▸ List.mem_append_left _ present)] at given
    rw [given]
    rfl

/-- The three ways in which building a root scope ends. -/
theorem seed_cases (set : RuleSet) (ascending : arguments.Ascending) :
    (∃ failure, set.FirstRefused arguments failure ∧ set.seed arguments = .error failure) ∨
      (∀ argument ∈ arguments, set.takesArgument argument = true) ∧
        ((∃ parameter, set.FirstMissing arguments parameter ∧
            set.seed arguments = .error (.missingParameter parameter.name)) ∨
          (∀ parameter ∈ set.parameters, Supplied arguments parameter) ∧
            ∃ scope, set.seed arguments = .ok scope ∧ set.IsRoot arguments scope) := by
  rcases set.takesArgument_or_firstRefused ascending with taken | ⟨failure, refused⟩
  · obtain ⟨scope, seeded, root⟩ := set.exists_isRoot ascending taken
    refine .inr ⟨taken, ?_⟩
    cases missing : missing? set.parameters scope with
    | none =>
      have ended : set.seed arguments = .ok scope := by simp only [seed, seeded, missing]
      exact .inr ⟨root.missing?_eq_none_iff.mp missing, scope, ended, root⟩
    | some parameter =>
      have ended : set.seed arguments = .error (.missingParameter parameter.name) := by
        simp only [seed, seeded, missing]
      exact .inl ⟨parameter, root.missing?_eq_some_iff.mp missing, ended⟩
  · exact .inl ⟨failure, refused, seed_of_firstRefused ascending refused⟩

theorem seed_of_firstMissing {parameter : Parameter} (ascending : arguments.Ascending)
    (taken : ∀ argument ∈ arguments, set.takesArgument argument = true)
    (missing : set.FirstMissing arguments parameter) :
    set.seed arguments = .error (.missingParameter parameter.name) := by
  obtain ⟨scope, seeded, root⟩ := set.exists_isRoot ascending taken
  simp only [seed, seeded, root.missing?_eq_some_iff.mpr missing]

theorem FirstRefused.not_taken {failure : EvaluationError}
    (refused : set.FirstRefused arguments failure) :
    ¬ ∀ argument ∈ arguments, set.takesArgument argument = true := by
  obtain ⟨argument, member, refused, -⟩ := refused
  intro taken
  exact Bool.false_ne_true (refused.not_takesArgument.symm.trans (taken argument member))

theorem FirstMissing.not_supplied {parameter : Parameter}
    (missing : set.FirstMissing arguments parameter) :
    ¬ ∀ parameter ∈ set.parameters, Supplied arguments parameter := by
  obtain ⟨before, after, split, -, unset⟩ := missing
  intro supplied
  exact unset (supplied parameter (split ▸ List.mem_append_right _ List.mem_cons_self))

theorem seed_eq_ok_iff (set : RuleSet) (ascending : arguments.Ascending) :
    (∃ scope, set.seed arguments = .ok scope) ↔
      (∀ argument ∈ arguments, set.takesArgument argument = true) ∧
        ∀ parameter ∈ set.parameters, Supplied arguments parameter := by
  rcases set.seed_cases ascending with ⟨failure, refused, failed⟩ |
    ⟨taken, ⟨parameter, missing, failed⟩ | ⟨supplied, scope, seeded, -⟩⟩
  · refine ⟨?_, fun valid => absurd valid.1 refused.not_taken⟩
    rintro ⟨scope, seeded⟩
    cases failed.symm.trans seeded
  · refine ⟨?_, fun valid => absurd valid.2 missing.not_supplied⟩
    rintro ⟨scope, seeded⟩
    cases failed.symm.trans seeded
  · exact ⟨fun _ => ⟨taken, supplied⟩, fun _ => ⟨scope, seeded⟩⟩

theorem isRoot_of_seed (ascending : arguments.Ascending) (seeded : set.seed arguments = .ok scope) :
    set.IsRoot arguments scope := by
  rcases set.seed_cases ascending with ⟨failure, -, failed⟩ |
    ⟨-, ⟨parameter, -, failed⟩ | ⟨-, reached, same, root⟩⟩
  · cases seeded.symm.trans failed
  · cases seeded.symm.trans failed
  · cases seeded.symm.trans same
    exact root

theorem seed_eq_error_iff (set : RuleSet) (ascending : arguments.Ascending)
    (failure : EvaluationError) :
    set.seed arguments = .error failure ↔ set.FirstRefused arguments failure ∨
      (∀ argument ∈ arguments, set.takesArgument argument = true) ∧
        ∃ parameter, set.FirstMissing arguments parameter ∧
          failure = .missingParameter parameter.name := by
  constructor
  · intro refused
    rcases set.seed_cases ascending with ⟨other, first, failed⟩ |
      ⟨taken, ⟨parameter, missing, failed⟩ | ⟨-, scope, seeded, -⟩⟩
    · cases refused.symm.trans failed
      exact .inl first
    · cases refused.symm.trans failed
      exact .inr ⟨taken, parameter, missing, rfl⟩
    · cases refused.symm.trans seeded
  · rintro (first | ⟨taken, parameter, missing, rfl⟩)
    · exact seed_of_firstRefused ascending first
    · exact seed_of_firstMissing ascending taken missing

/-- There is a root scope exactly if no argument is of a wrong type and no required parameter lacks
a value. It is a single frame that binds names to their arguments, else to defaults, and the types
under which the rules see the parameters admit what they are bound to. Without a root scope the
failure is the first argument of a wrong type and, only if there is none, the first missing
parameter. -/
theorem seed_exact (set : RuleSet) {arguments : Fields Value} (ascending : arguments.Ascending) :
    ((∃ scope, set.seed arguments = .ok scope) ↔
      (∀ argument ∈ arguments, set.takesArgument argument = true) ∧
        ∀ parameter ∈ set.parameters, Supplied arguments parameter) ∧
    (∀ scope, set.seed arguments = .ok scope → scope.depth = 1 ∧
      (∀ name, scope.resolve name =
        (argument? name arguments).or ((set.parameter? name).bind Parameter.default)) ∧
      ∀ parameter ∈ set.parameters,
        set.typeScope.resolve parameter.name = some parameter.scopeTy ∧
          parameter.scopeTy.admits (scope.valueOf parameter.name) = true) ∧
    ∀ failure, set.seed arguments = .error failure ↔ set.FirstRefused arguments failure ∨
      (∀ argument ∈ arguments, set.takesArgument argument = true) ∧
        ∃ parameter, set.FirstMissing arguments parameter ∧
          failure = .missingParameter parameter.name := by
  refine ⟨set.seed_eq_ok_iff ascending, fun scope seeded => ?_, set.seed_eq_error_iff ascending⟩
  have root := isRoot_of_seed ascending seeded
  refine ⟨root.depth, root.resolve, fun parameter member => ⟨?_, seed_sound seeded parameter member⟩⟩
  rw [resolve_typeScope, set.parameter?_of_mem member, Option.map_some]

/-- A parameter without which there is no root scope. -/
def neededRegion : Parameter :=
  { Parameter.ofName "Region" .string with required := true }

/-- A parameter with a default. -/
def givenPartition : Parameter :=
  { Parameter.ofName "Partition" .string with
    default := some (.string "aws"), default_allowed := by decide }

/-- A rule-set that asks for a region and has a partition by default. -/
def asksRegion : RuleSet where
  version := "1.0"
  parameters := [neededRegion, givenPartition]
  rules := []
  distinct := by decide

/-- An empty argument leaves the default in place, and a partition that is no text is found before
the region is missed. -/
theorem seed_exact_of_region :
    (∃ scope, asksRegion.seed [("Partition", .empty), ("Region", .string "a")] = .ok scope ∧
      scope.resolve "Partition" = some (.string "aws")) ∧
    asksRegion.seed [("Partition", .boolean true)] =
      .error (.invalidParameter "Partition" "String" "Boolean") ∧
    asksRegion.seed [("Bucket", .string "b")] = .error (.missingParameter "Region") := by
  refine ⟨?_, ?_, ?_⟩
  · obtain ⟨succeeds, root, -⟩ := asksRegion.seed_exact
      (by decide : Fields.Ascending [("Partition", .empty), ("Region", .string "a")])
    have supplied : ∀ parameter ∈ asksRegion.parameters,
        Supplied [("Partition", .empty), ("Region", .string "a")] parameter := by
      simp [asksRegion, Supplied, neededRegion, givenPartition, Parameter.ofName, Fields.get?,
        Value.isEmpty]
    obtain ⟨scope, seeded⟩ := succeeds.mpr ⟨by decide, supplied⟩
    refine ⟨scope, seeded, ?_⟩
    rw [(root scope seeded).2.1, argument?_cons]
    rfl
  · have refused : asksRegion.FirstRefused [("Partition", .boolean true)]
        (.invalidParameter "Partition" "String" "Boolean") := by
      refine ⟨("Partition", .boolean true), List.mem_cons_self, ?_, ?_⟩
      · exact ⟨rfl, givenPartition, by simp [asksRegion], rfl, rfl, rfl⟩
      · rintro earlier (_ | ⟨_, ⟨⟩⟩) below
        exact absurd below (String.lt_irrefl _)
    exact ((asksRegion.seed_exact (by decide)).2.2 _).mpr (.inl refused)
  · have missing : asksRegion.FirstMissing [("Bucket", .string "b")] neededRegion := by
      refine ⟨[], [givenPartition], rfl, List.forall_mem_nil _, ?_⟩
      simp [Supplied, neededRegion, Parameter.ofName, Fields.get?]
    exact ((asksRegion.seed_exact (by decide)).2.2 _).mpr (.inr ⟨by decide, _, missing, rfl⟩)

end EndpointResolution.RuleSet
