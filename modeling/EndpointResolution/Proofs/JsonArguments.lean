import EndpointResolution.Proofs.Arguments

/-!
Arguments given as JSON. Under the type of a parameter the document of a value is decoded to this
value if the type admits it, and else it is refused, so that arguments are admitted and refused as
they are when they are given as values.
-/
namespace EndpointResolution

namespace Ty

/-- Under the type the document of a value is decoded to the value if the type admits it, and else
it is refused. -/
def ReadsBack (ty : Ty) : Prop :=
  ∀ value : Value,
    (ty.admits value = true → Value.ofJson ty value.toJson = .ok value) ∧
    (ty.admits value = false → ∃ failure, Value.ofJson ty value.toJson = .error failure)

theorem readsBack_string : Ty.string.ReadsBack := by
  intro value
  cases value <;> simp [admits, Value.toJson, Value.ofJson]

theorem readsBack_boolean : Ty.boolean.ReadsBack := by
  intro value
  cases value <;> simp [admits, Value.toJson, Value.ofJson]

theorem ReadsBack.items {element : Ty} (reads : element.ReadsBack) (items : List Value) :
    (items.all element.admits = true →
      (Value.itemsToJson items).mapM (Value.ofJson element) = .ok items) ∧
    (items.all element.admits = false →
      ∃ failure, (Value.itemsToJson items).mapM (Value.ofJson element) = .error failure) := by
  induction items with
  | nil => exact ⟨fun _ => rfl, fun none => by cases none⟩
  | cons item rest ih =>
    rw [Value.itemsToJson, mapM_cons_eq_bind, List.all_cons]
    cases admitted : element.admits item with
    | false =>
      obtain ⟨failure, refused⟩ := (reads item).2 admitted
      rw [refused]
      exact ⟨fun all => absurd all Bool.false_ne_true, fun _ => ⟨failure, rfl⟩⟩
    | true =>
      rw [(reads item).1 admitted, Bool.true_and]
      constructor
      · intro all
        rw [ih.1 all]
        rfl
      · intro some
        obtain ⟨failure, refused⟩ := ih.2 some
        rw [refused]
        exact ⟨failure, rfl⟩

theorem ReadsBack.array {element : Ty} (reads : element.ReadsBack) :
    (Ty.array element).ReadsBack := by
  intro value
  cases value with
  | array items =>
    rw [admits, Value.toJson, Value.ofJson]
    obtain ⟨decoded, refused⟩ := reads.items items
    refine ⟨fun all => by rw [decoded all]; rfl, fun some => ?_⟩
    obtain ⟨failure, failed⟩ := refused some
    exact ⟨failure, by rw [failed]; rfl⟩
  | _ => simp [admits, Value.toJson, Value.ofJson]

/-- The document of the empty value, and of no other, is `null`. -/
theorem ReadsBack.optional {inner : Ty} (reads : inner.ReadsBack) :
    (Ty.optional inner).ReadsBack := by
  intro value
  have others := reads value
  cases value with
  | empty => simp [admits, Value.isEmpty, Value.toJson, Value.ofJson]
  | _ =>
    simp only [Value.toJson] at others
    simpa [admits, Value.isEmpty, Value.toJson, Value.ofJson] using others

end Ty

theorem Parameter.declaredTy_readsBack (parameter : Parameter) :
    parameter.declaredTy.orEmpty.ReadsBack := by
  unfold declaredTy
  cases parameter.kind with
  | string => exact Ty.readsBack_string.optional
  | boolean => exact Ty.readsBack_boolean.optional
  | stringArray => exact Ty.readsBack_string.array.optional

/-- An argument that may be unset is admitted if it is empty or of the declared type. -/
theorem Parameter.admits_orEmpty (parameter : Parameter) (value : Value) :
    parameter.declaredTy.orEmpty.admits value =
      (value.isEmpty || parameter.declaredTy.admits value) := by
  unfold declaredTy
  cases parameter.kind <;> rfl

namespace RuleSet

variable {set : RuleSet}

theorem decodeArguments_cons {name : String} {parameter : Parameter} {json : Json}
    {rest : Fields Json} (found : set.parameter? name = some parameter) :
    set.decodeArguments ((name, json) :: rest) =
      ((Value.ofJson parameter.declaredTy.orEmpty json).mapError fun _ =>
        .invalidParameter name parameter.declaredTy.display json.compact).bind fun value =>
          (set.decodeArguments rest).map ((name, value) :: ·) := by
  simp only [decodeArguments, found]
  cases Value.ofJson parameter.declaredTy.orEmpty json <;> rfl

/-- The documents of declared arguments are decoded to these arguments, or both ways refuse the same
argument. -/
theorem decodeArguments_toJson {arguments : Fields Value}
    (declared : ∀ argument ∈ arguments, set.declares argument.1 = true) :
    set.decodeArguments (Fields.mapValues Value.toJson arguments) = .ok arguments ∨
    ∃ name expected shown found,
      set.decodeArguments (Fields.mapValues Value.toJson arguments) =
        .error (.invalidParameter name expected shown) ∧
      ∀ scope, set.seedArguments arguments scope =
        .error (.invalidParameter name expected found) := by
  induction arguments with
  | nil => exact .inl rfl
  | cons argument rest ih =>
    obtain ⟨name, value⟩ := argument
    obtain ⟨here, later⟩ := List.forall_mem_cons.mp declared
    obtain ⟨parameter, found⟩ := Option.isSome_iff_exists.mp here
    have sameName := (mem_of_parameter? found).2
    obtain ⟨decoded, refused⟩ := parameter.declaredTy_readsBack value
    have first : Fields.mapValues Value.toJson ((name, value) :: rest) =
        (name, value.toJson) :: Fields.mapValues Value.toJson rest := rfl
    rw [first, decodeArguments_cons found]
    cases admitted : parameter.declaredTy.orEmpty.admits value with
    | true =>
      rw [decoded admitted]
      rcases ih later with others | ⟨other, expected, shown, kind, undecoded, unseeded⟩
      · left
        rw [others]
        rfl
      · right
        refine ⟨other, expected, shown, kind, by rw [undecoded]; rfl, fun scope => ?_⟩
        rw [seedArguments]
        rw [parameter.admits_orEmpty, Bool.or_eq_true] at admitted
        split
        · exact unseeded scope
        next filled =>
          rw [admitArgument, found]
          simp only [admitted.resolve_left filled, if_true]
          exact unseeded _
    | false =>
      right
      obtain ⟨failure, failed⟩ := refused admitted
      rw [parameter.admits_orEmpty, Bool.or_eq_false_iff] at admitted
      refine ⟨name, parameter.declaredTy.display, value.toJson.compact, value.kind,
        by rw [failed]; rfl, fun scope => ?_⟩
      rw [seedArguments, admitted.1, if_neg Bool.false_ne_true, admitArgument, found]
      simp only [admitted.2, Bool.false_eq_true, if_false, rejection, sameName]

/-- The members that name no parameter can be left out. -/
theorem decodeArguments_filter (set : RuleSet) (members : Fields Json) :
    set.decodeArguments (members.filter fun member => set.declares member.1) =
      set.decodeArguments members := by
  induction members with
  | nil => rfl
  | cons member rest ih =>
    obtain ⟨name, json⟩ := member
    cases found : set.parameter? name with
    | none =>
      rw [List.filter_cons_of_neg (by simp [declares, found]), ih, decodeArguments, found]
    | some parameter =>
      rw [List.filter_cons_of_pos (by simp [declares, found]), decodeArguments, decodeArguments,
        found, ih]

/-- The two results are the same, but for how they show an argument that is refused. -/
def SameReport : Except EvaluationError Outcome → Except EvaluationError Outcome → Prop
  | .error (.invalidParameter name expected _), .error (.invalidParameter other wanted _) =>
    name = other ∧ expected = wanted
  | first, second => first = second

theorem SameReport.refl (result : Except EvaluationError Outcome) : SameReport result result := by
  unfold SameReport
  split
  · next same =>
    cases same
    exact ⟨rfl, rfl⟩
  · rfl

/-- Arguments for declared parameters have the same result as JSON and as values: the same outcome,
or the same failure but for the text of a refused argument. In JSON, members that name no parameter
change nothing. -/
theorem evaluateJson_toJson (set : RuleSet) :
    (∀ arguments : Fields Value, (∀ argument ∈ arguments, set.declares argument.1 = true) →
      SameReport (set.evaluateJson (.object (Fields.mapValues Value.toJson arguments)))
        (set.evaluate arguments)) ∧
    (∀ members extended : Fields Json, members.Ascending → extended.Ascending →
      (∀ parameter ∈ set.parameters,
        Fields.get? parameter.name members = Fields.get? parameter.name extended) →
      set.evaluateJson (.object members) = set.evaluateJson (.object extended)) := by
  constructor
  · intro arguments declared
    rcases decodeArguments_toJson declared with
      decoded | ⟨name, expected, shown, found, undecoded, unseeded⟩
    · rw [evaluateJson, decoded]
      exact .refl _
    · rw [evaluateJson, undecoded, evaluate, seed, unseeded]
      exact ⟨rfl, rfl⟩
  · intro members extended first second same
    have kept : members.filter (fun member => set.declares member.1) =
        extended.filter fun member => set.declares member.1 := by
      refine first.filter_eq second _ fun name json declared => ?_
      obtain ⟨parameter, member, rfl⟩ := exists_parameter_of_declares declared
      rw [same parameter member]
    rw [evaluateJson, evaluateJson, ← decodeArguments_filter set members, kept,
      decodeArguments_filter]

/-- A rule-set that takes a list of labels. -/
def labelled : RuleSet where
  version := "1.0"
  parameters := [Parameter.ofName "Labels" .stringArray,
    { Parameter.ofName "Zone" .string with required := true }]
  rules := []
  distinct := by decide

/-- A list with the empty value in it is refused before the zone is missed. -/
theorem evaluateJson_toJson_of_emptyLabel :
    SameReport
      (labelled.evaluateJson (.object [("Labels", .array [.string "a", .null]), ("Zone", .null)]))
      (labelled.evaluate [("Labels", .array [.string "a", .empty]), ("Zone", .empty)]) ∧
    labelled.evaluateJson
        (.object [("Extra", .null), ("Labels", .array [.string "a", .null]), ("Zone", .null)]) =
      labelled.evaluateJson
        (.object [("Labels", .array [.string "a", .null]), ("Zone", .null)]) := by
  obtain ⟨agrees, passesOver⟩ := labelled.evaluateJson_toJson
  constructor
  · exact agrees [("Labels", .array [.string "a", .empty]), ("Zone", .empty)] (by decide)
  · refine passesOver _ _ (by decide) (by decide) ?_
    rintro parameter (_ | ⟨_, _ | ⟨_, ⟨⟩⟩⟩) <;> rfl

end RuleSet
end EndpointResolution
