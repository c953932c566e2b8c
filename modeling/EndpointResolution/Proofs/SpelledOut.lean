import EndpointResolution.Proofs.Admission
import EndpointResolution.Proofs.MappedCalls

/-!
Values spelled out as expressions. A value can stand in a rule-set as one literal, or with tuples in
place of its arrays and records of expressions in place of its records. Both have the value itself
in every scope. The type of an array is found in two ways, from its items or from the expressions
of a tuple, and both find the one type that all of them have, so that the two forms of a value are
typed alike unless an array has empty items: these a literal counts as missing, but a tuple as items
of a type of their own.
-/
namespace EndpointResolution
namespace Value

mutual

/-- The value as an expression: its arrays as tuples, its records as records of expressions, and
everything else as literals. -/
def spelledOut : Value → Expr
  | .array items => .tuple (itemsSpelledOut items) .unknown
  | .record fields => .record (fieldsSpelledOut fields) .unknown
  | value => .literal value .unknown

/-- The values, each spelled out. -/
def itemsSpelledOut : List Value → List Expr
  | [] => []
  | item :: rest => spelledOut item :: itemsSpelledOut rest

/-- The fields with the value of each spelled out. -/
def fieldsSpelledOut : List (String × Value) → List (String × Expr)
  | [] => []
  | (name, value) :: rest => (name, spelledOut value) :: fieldsSpelledOut rest

end

mutual

/-- No array in the value has an empty item. Endpoints are not looked into. -/
def gapless : Value → Bool
  | .array items => itemsGapless items
  | .record fields => fieldsGapless fields
  | _ => true

/-- The values are not empty, and no array in one of them has an empty item. -/
def itemsGapless : List Value → Bool
  | [] => true
  | item :: rest => !item.isEmpty && gapless item && itemsGapless rest

/-- No array in the value of a field has an empty item. -/
def fieldsGapless : List (String × Value) → Bool
  | [] => true
  | (_, value) :: rest => gapless value && fieldsGapless rest

end

theorem itemsSpelledOut_eq_map (items : List Value) :
    itemsSpelledOut items = items.map spelledOut := by
  induction items with
  | nil => rfl
  | cons item rest ih => rw [itemsSpelledOut, ih, List.map_cons]

mutual

theorem eval_spelledOut (scope : Scope Value) :
    (value : Value) → value.spelledOut.eval scope = .ok value
  | .array items => by
    rw [spelledOut, Expr.eval, evalAll_spelledOut scope items]
    rfl
  | .record fields => by
    rw [spelledOut, Expr.eval, evalFields_spelledOut scope fields]
    rfl
  | .string _ | .boolean _ | .integer _ | .endpoint _ _ _ | .empty => rfl

theorem evalAll_spelledOut (scope : Scope Value) : (items : List Value) →
    Expr.evalAll scope (itemsSpelledOut items) = .ok items
  | [] => rfl
  | item :: rest => by
    rw [itemsSpelledOut, Expr.evalAll_cons, eval_spelledOut scope item,
      evalAll_spelledOut scope rest]
    rfl

theorem evalFields_spelledOut (scope : Scope Value) : (fields : List (String × Value)) →
    Expr.evalFields scope (fieldsSpelledOut fields) = .ok fields
  | [] => rfl
  | (name, value) :: rest => by
    rw [fieldsSpelledOut, Expr.evalFields_cons, eval_spelledOut scope value,
      evalFields_spelledOut scope rest]
    rfl

end

theorem commonTy?_eq_some_iff {tys : List Ty} {common : Ty} (nonempty : tys ≠ []) :
    commonTy? tys = some common ↔ ∀ ty ∈ tys, ty = common := by
  constructor
  · exact eq_of_commonTy?
  · intro each
    obtain ⟨first, rest, rfl⟩ := List.exists_cons_of_ne_nil nonempty
    obtain ⟨rfl, others⟩ := List.forall_mem_cons.mp each
    exact if_pos (by simpa using others)

theorem setItemTys?_cons {item : Value} (set : item.isEmpty = false) (rest : List Value) :
    setItemTys? (item :: rest) =
      (literalTy? item).bind fun ty => (setItemTys? rest).map (ty :: ·) := by
  rw [setItemTys?]
  · cases literalTy? item <;> cases setItemTys? rest <;> rfl
  · rintro rfl
    cases set

/-- The items have types, all of them the same one, exactly if each has this type. -/
theorem exists_setItemTys?_iff {items : List Value} {element : Ty}
    (set : ∀ item ∈ items, item.isEmpty = false) :
    (∃ tys, setItemTys? items = some tys ∧ ∀ ty ∈ tys, ty = element) ↔
      ∀ item ∈ items, item.literalTy? = some element := by
  induction items with
  | nil => simp [setItemTys?]
  | cons item rest ih =>
    obtain ⟨here, later⟩ := List.forall_mem_cons.mp set
    rw [setItemTys?_cons here, List.forall_mem_cons, ← ih later]
    simp only [Option.bind_eq_some_iff, Option.map_eq_some_iff]
    constructor
    · rintro ⟨_, ⟨ty, typed, tys, listed, rfl⟩, each⟩
      obtain ⟨rfl, others⟩ := List.forall_mem_cons.mp each
      exact ⟨typed, tys, listed, others⟩
    · rintro ⟨typed, tys, listed, others⟩
      exact ⟨_, ⟨element, typed, tys, listed, rfl⟩, List.forall_mem_cons.mpr ⟨rfl, others⟩⟩

theorem ne_nil_of_setItemTys? {items : List Value} {tys : List Ty} (nonempty : items ≠ [])
    (set : ∀ item ∈ items, item.isEmpty = false) (listed : setItemTys? items = some tys) :
    tys ≠ [] := by
  obtain ⟨first, rest, rfl⟩ := List.exists_cons_of_ne_nil nonempty
  rw [setItemTys?_cons (set first List.mem_cons_self), Option.bind_eq_some_iff] at listed
  obtain ⟨ty, -, others⟩ := listed
  obtain ⟨_, -, rfl⟩ := Option.map_eq_some_iff.mp others
  exact List.cons_ne_nil _ _

/-- An array of items that are set has a type exactly if these have one type, as a tuple does. -/
theorem literalTy?_array_iff {items : List Value} (nonempty : items ≠ [])
    (set : ∀ item ∈ items, item.isEmpty = false) {ty : Ty} :
    (Value.array items).literalTy? = some ty ↔
      ∃ element, ty = .array element ∧ ∀ item ∈ items, item.literalTy? = some element := by
  have unmixed : items.any isEmpty = false := by simpa using set
  rw [literalTy?, unmixed]
  constructor
  · intro typed
    split at typed
    next => cases typed
    next tys listed =>
      obtain ⟨element, shared, rfl⟩ := Option.map_eq_some_iff.mp typed
      exact ⟨element, rfl, (exists_setItemTys?_iff set).mp ⟨tys, listed, eq_of_commonTy? shared⟩⟩
  · rintro ⟨element, rfl, each⟩
    obtain ⟨tys, listed, same⟩ := (exists_setItemTys?_iff set).mpr each
    have shared := (commonTy?_eq_some_iff (ne_nil_of_setItemTys? nonempty set listed)).mpr same
    simp only [listed, shared]
    rfl

end Value

namespace Expr

theorem literalTy_eq_ok_iff {value : Value} {ty : Ty} :
    literalTy value = .ok ty ↔ value.literalTy? = some ty := by
  rw [literalTy]
  cases value.literalTy? <;> simp

theorem check_literal_iff {scope : Scope Ty} (unknown : scope.facts = []) {value : Value}
    {location : Location} {ty : Ty} :
    (Expr.literal value location).check scope = .ok ty ↔ value.literalTy? = some ty := by
  rw [check, settle_eq_ok_iff unknown, literalTy_eq_ok_iff]

theorem checkFields_cons (scope : Scope Ty) (name : String) (expr : Expr)
    (rest : List (String × Expr)) :
    checkFields scope ((name, expr) :: rest) =
      (expr.check scope).bind fun ty => (checkFields scope rest).map ((name, ty) :: ·) := by
  rw [checkFields]
  cases expr.check scope <;> rfl

end Expr

namespace Value

theorem fieldTys?_cons (name : String) (value : Value) (rest : List (String × Value)) :
    fieldTys? ((name, value) :: rest) =
      (literalTy? value).bind fun ty => (fieldTys? rest).map ((name, ty) :: ·) := by
  rw [fieldTys?]
  cases literalTy? value <;> cases fieldTys? rest <;> rfl

theorem itemsGapless_iff (items : List Value) :
    itemsGapless items = true ↔ ∀ item ∈ items, item.isEmpty = false ∧ item.gapless = true := by
  induction items with
  | nil => simp [itemsGapless]
  | cons item rest ih =>
    rw [itemsGapless, Bool.and_eq_true, Bool.and_eq_true, Bool.not_eq_true', ih,
      List.forall_mem_cons]

section

-- In a mutual block the linter does not see that a theorem needs this for those it calls.
set_option linter.unusedSectionVars false

variable {scope : Scope Ty} (unknown : scope.facts = [])
include unknown

mutual

/-- Where nothing is known to be set, a value without empty items has the type of its literal also
when it is spelled out. -/
theorem check_spelledOut_iff : (value : Value) → value.gapless = true → (ty : Ty) →
    (value.spelledOut.check scope = .ok ty ↔ value.literalTy? = some ty)
  | .array [], _, ty => by
    rw [spelledOut, itemsSpelledOut, Expr.check, Expr.settle_eq_ok_iff unknown]
    simp [Expr.checkItems, Except.map, literalTy?, setItemTys?, commonTy?]
  | .array (first :: rest), gapless, ty => by
    have each := (itemsGapless_iff _).mp gapless
    have nonempty : itemsSpelledOut (first :: rest) ≠ [] := by simp [itemsSpelledOut]
    rw [spelledOut, Expr.check_tuple_iff nonempty,
      literalTy?_array_iff (List.cons_ne_nil _ _) fun item member => (each item member).1]
    simp only [forall_check_spelledOut_iff (first :: rest) gapless]
  | .record fields, gapless, ty => by
    rw [spelledOut, Expr.check, Expr.settle_eq_ok_iff unknown, literalTy?, map_eq_ok_iff,
      Option.map_eq_some_iff]
    simp only [checkFields_spelledOut_iff fields gapless]
  | .string _, _, _ | .boolean _, _, _ | .integer _, _, _ | .endpoint _ _ _, _, _ | .empty, _, _ =>
    Expr.check_literal_iff unknown

theorem forall_check_spelledOut_iff : (items : List Value) → itemsGapless items = true →
    (element : Ty) →
    ((∀ item ∈ itemsSpelledOut items, item.check scope = .ok element) ↔
      ∀ item ∈ items, item.literalTy? = some element)
  | [], _, element => by simp [itemsSpelledOut]
  | item :: rest, gapless, element => by
    rw [itemsGapless, Bool.and_eq_true, Bool.and_eq_true] at gapless
    rw [itemsSpelledOut, List.forall_mem_cons, List.forall_mem_cons,
      check_spelledOut_iff item gapless.1.2 element,
      forall_check_spelledOut_iff rest gapless.2 element]

theorem checkFields_spelledOut_iff : (fields : List (String × Value)) →
    fieldsGapless fields = true → (tys : List (String × Ty)) →
    (Expr.checkFields scope (fieldsSpelledOut fields) = .ok tys ↔ fieldTys? fields = some tys)
  | [], _, tys => by simp [fieldsSpelledOut, Expr.checkFields, fieldTys?]
  | (name, value) :: rest, gapless, tys => by
    rw [fieldsGapless, Bool.and_eq_true] at gapless
    have here := check_spelledOut_iff value gapless.1
    have later := checkFields_spelledOut_iff rest gapless.2
    simp only [fieldsSpelledOut, Expr.checkFields_cons, fieldTys?_cons, bind_eq_ok_iff, map_eq_ok_iff,
      Option.bind_eq_some_iff, Option.map_eq_some_iff, here, later]

end

end

section

variable {scope : Scope Ty} (unknown : scope.facts = [])
include unknown

theorem not_isOptional_of_check_spelledOut {value : Value} (set : value.isEmpty = false) {ty : Ty}
    (checked : value.spelledOut.check scope = .ok ty) : ty.isOptional = false := by
  cases value with
  | empty => cases set
  | array items =>
    rw [spelledOut, Expr.check, Expr.settle_eq_ok_iff unknown] at checked
    obtain ⟨element, -, rfl⟩ := map_eq_ok_iff.mp checked
    rfl
  | record fields =>
    rw [spelledOut, Expr.check, Expr.settle_eq_ok_iff unknown] at checked
    obtain ⟨declared, -, rfl⟩ := map_eq_ok_iff.mp checked
    rfl
  | _ =>
    cases (Expr.check_literal_iff unknown).mp checked
    rfl

/-- An array with both a set and an empty item, which a literal may well be, has no type when it is
spelled out. -/
theorem check_spelledOut_ne_ok {items : List Value} (gap : .empty ∈ items) {item : Value}
    (member : item ∈ items) (set : item.isEmpty = false) (ty : Ty) :
    (Value.array items).spelledOut.check scope ≠ .ok ty := by
  intro checked
  have nonempty : items.map spelledOut ≠ [] := by simpa using List.ne_nil_of_mem gap
  rw [spelledOut, itemsSpelledOut_eq_map, Expr.check_tuple_iff nonempty] at checked
  obtain ⟨element, -, each⟩ := checked
  have hole := (Expr.check_literal_iff unknown).mp (each _ (List.mem_map_of_mem gap))
  have plain := not_isOptional_of_check_spelledOut unknown set (each _ (List.mem_map_of_mem member))
  cases hole
  cases plain

end

/-- A literal and the value spelled out are the same thing. In every scope both have the value, and
where nothing is known to be set, they have one type or none has a type, as long as no array in the
value has an empty item. A value whose literal has a type inhabits that type, whatever its items. -/
theorem spelledOut_like_literal :
    (∀ (value : Value) (location : Location) (scope : Scope Value),
      value.spelledOut.eval scope = .ok value ∧
        (Expr.literal value location).eval scope = .ok value) ∧
    (∀ value : Value, value.gapless = true → ∀ (location : Location) (scope : Scope Ty),
      scope.facts = [] → ∀ ty, value.spelledOut.check scope = .ok ty ↔
        (Expr.literal value location).check scope = .ok ty) ∧
    (∀ (value : Value) (ty : Ty), value.WellFormed → value.literalTy? = some ty →
      ty.admits value = true) := by
  refine ⟨fun value location scope => ⟨eval_spelledOut scope value, rfl⟩, ?_, ?_⟩
  · intro value gapless location scope unknown ty
    rw [check_spelledOut_iff unknown value gapless, Expr.check_literal_iff unknown]
  · intro value ty wellFormed typed
    exact Ty.admits_of_admitsUnder (admitsUnder_literalTy value wellFormed ty typed)

/-- Ports in two groups, with a zone that is not set. -/
def groupedPorts : Value :=
  .record [("Ports", .array [.array [.integer 80, .integer 443], .array [.integer 8080]]),
    ("Zone", .empty)]

/-- Their type. The zone of a record is no item of an array. -/
def groupedPortsTy : Ty :=
  .record [("Ports", .array (.array .integer)), ("Zone", .optional .any)]

theorem spelledOut_like_literal_of_groupedPorts :
    groupedPorts.spelledOut.check .empty = .ok groupedPortsTy ∧
      groupedPortsTy.admits groupedPorts = true := by
  obtain ⟨-, typed, inhabited⟩ := spelledOut_like_literal
  have numbers : ItemsWellFormed [.array [.integer 80, .integer 443], .array [.integer 8080]] :=
    ⟨⟨trivial, trivial, trivial⟩, ⟨trivial, trivial⟩, trivial⟩
  have wellFormed : groupedPorts.WellFormed := ⟨by decide, numbers, trivial, trivial⟩
  exact ⟨(typed groupedPorts rfl .unknown .empty rfl groupedPortsTy).mpr rfl,
    inhabited groupedPorts groupedPortsTy wellFormed rfl⟩

end Value
end EndpointResolution
