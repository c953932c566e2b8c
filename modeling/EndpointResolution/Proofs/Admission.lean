import EndpointResolution.Proofs.Composition
import EndpointResolution.Proofs.Results
import EndpointResolution.Ty.Membership
import EndpointResolution.Typing.Fault
import EndpointResolution.Value.LiteralType
import Mathlib.Data.List.Forall2

/-!
Membership of values in types, under two readings of `Any`. What an argument is checked against is
read widely: every value inhabits `Any`. What the checker infers can be read strictly as long as no
function returns `Any`: it stands for the items of empty arrays and for the empty value, and nothing
but the empty value inhabits it. Paths through `Any` lead to a value under this reading only.
-/
namespace EndpointResolution

/-- What inhabits the type `Any`. -/
inductive Reading where
  /-- Every value. -/
  | wide
  /-- The empty value only. -/
  | strict
  deriving DecidableEq

/-- What an evaluation ends with: a result that has a property. It may fail only if every value
inhabits `Any`. -/
def Reading.Ends {α : Type} (reading : Reading) (property : α → Prop) :
    Except EvaluationError α → Prop
  | .ok result => property result
  | .error _ => reading = .wide

/-- Where every value inhabits `Any`, nothing is said about a property that all results have. -/
theorem Reading.wide_ends {α : Type} {property : α → Prop} (holds : ∀ result, property result)
    (result : Except EvaluationError α) : Reading.wide.Ends property result := by
  cases result with
  | error failure => exact rfl
  | ok result => exact holds result

namespace Ty

mutual

/-- `Any` is no part of the type. -/
def anyFree : Ty → Bool
  | .string => true
  | .boolean => true
  | .integer => true
  | .array element => anyFree element
  | .record fields => anyFreeFields fields
  | .endpoint => true
  | .any => false
  | .optional inner => anyFree inner

/-- `Any` is no part of the type of any field. -/
def anyFreeFields : List (String × Ty) → Bool
  | [] => true
  | (_, ty) :: rest => anyFree ty && anyFreeFields rest

end

mutual

/-- The value inhabits the type under a reading of `Any`. -/
def admitsUnder (reading : Reading) : Ty → Value → Bool
  | .any, value => reading == .wide || value.isEmpty
  | .optional inner, value => value.isEmpty || admitsUnder reading inner value
  | .string, .string _ => true
  | .boolean, .boolean _ => true
  | .integer, .integer _ => true
  | .endpoint, .endpoint _ _ _ => true
  | .array element, .array items => items.all (admitsUnder reading element)
  | .record declared, .record fields => admitsFieldsUnder reading declared fields
  | _, _ => false

/-- Every declared field inhabits its type under the reading. -/
def admitsFieldsUnder (reading : Reading) : List (String × Ty) → Fields Value → Bool
  | [], _ => true
  | (name, ty) :: rest, fields =>
    admitsUnder reading ty ((Fields.get? name fields).getD .empty)
      && admitsFieldsUnder reading rest fields

end

theorem admitsFieldsUnder_iff (reading : Reading) (declared : List (String × Ty))
    (fields : Fields Value) :
    admitsFieldsUnder reading declared fields = true ↔ ∀ entry ∈ declared,
      entry.2.admitsUnder reading ((Fields.get? entry.1 fields).getD .empty) = true := by
  induction declared with
  | nil => simp [admitsFieldsUnder]
  | cons entry rest ih => simp [admitsFieldsUnder, ih]

theorem admitsFields_iff (declared : List (String × Ty)) (fields : Fields Value) :
    admitsFields declared fields = true ↔ ∀ entry ∈ declared,
      entry.2.admits ((Fields.get? entry.1 fields).getD .empty) = true := by
  induction declared with
  | nil => simp [admitsFields]
  | cons entry rest ih => simp [admitsFields, ih]

theorem anyFreeFields_iff (declared : List (String × Ty)) :
    anyFreeFields declared = true ↔ ∀ entry ∈ declared, entry.2.anyFree = true := by
  induction declared with
  | nil => simp [anyFreeFields]
  | cons entry rest ih => simp [anyFreeFields, ih]

/-- Under the wide reading membership is what the evaluator tests. -/
theorem admitsUnder_wide (ty : Ty) (value : Value) :
    ty.admitsUnder .wide value = ty.admits value := by
  induction ty generalizing value with
  | any => rfl
  | optional inner ih => simp only [admitsUnder, admits, ih]
  | array element ih =>
    have elements : element.admitsUnder .wide = element.admits := funext ih
    cases value <;> simp only [admitsUnder, admits, elements]
  | record declared ih =>
    cases value with
    | record fields =>
      rw [admitsUnder, admits, Bool.eq_iff_iff, admitsFieldsUnder_iff, admitsFields_iff]
      exact forall₂_congr fun entry member => by rw [ih entry member]
    | _ => rfl
  | _ => cases value <;> rfl

/-- A value of a type stays one under the wide reading and, if `Any` is no part of the type, under
any other. -/
theorem admitsUnder_change {first second : Reading} (ty : Ty) (value : Value)
    (allowed : second = .wide ∨ ty.anyFree = true) (inhabits : ty.admitsUnder first value = true) :
    ty.admitsUnder second value = true := by
  induction ty generalizing value with
  | any =>
    rcases allowed with wide | free
    · simp [admitsUnder, wide]
    · simp [anyFree] at free
  | optional inner ih =>
    simp only [admitsUnder, Bool.or_eq_true] at inhabits ⊢
    exact inhabits.imp_right (ih value allowed)
  | array element ih =>
    cases value <;> simp only [admitsUnder, Bool.false_eq_true, List.all_eq_true] at inhabits ⊢
    exact fun item member => ih item allowed (inhabits item member)
  | record declared ih =>
    cases value <;> simp only [admitsUnder, Bool.false_eq_true, admitsFieldsUnder_iff] at inhabits ⊢
    rw [anyFree, anyFreeFields_iff] at allowed
    exact fun entry member =>
      ih entry member _ (allowed.imp_right fun each => each entry member) (inhabits entry member)
  | _ => cases value <;> simp [admitsUnder] at inhabits ⊢

theorem admits_of_admitsUnder {reading : Reading} {ty : Ty} {value : Value}
    (inhabits : ty.admitsUnder reading value = true) : ty.admits value = true := by
  rw [← admitsUnder_wide]
  exact admitsUnder_change ty value (.inl rfl) inhabits

theorem admitsUnder_of_anyFree {reading : Reading} {ty : Ty} {value : Value}
    (free : ty.anyFree = true) (inhabits : ty.admits value = true) :
    ty.admitsUnder reading value = true := by
  rw [← admitsUnder_wide] at inhabits
  exact admitsUnder_change ty value (.inr free) inhabits

theorem admitsUnder_of_strict {reading : Reading} {ty : Ty} {value : Value}
    (inhabits : ty.admitsUnder .strict value = true) : ty.admitsUnder reading value = true := by
  cases reading with
  | wide => exact admitsUnder_change ty value (.inl rfl) inhabits
  | strict => exact inhabits

theorem admitsUnder_required {reading : Reading} {ty : Ty} {value : Value}
    (set : value.isEmpty = false) (inhabits : ty.admitsUnder reading value = true) :
    ty.required.admitsUnder reading value = true := by
  cases ty with
  | optional inner => simpa [required, admitsUnder, set] using inhabits
  | _ => exact inhabits

theorem admitsUnder_orEmpty {reading : Reading} {ty : Ty} {value : Value}
    (inhabits : ty.admitsUnder reading value = true) :
    ty.orEmpty.admitsUnder reading value = true := by
  cases ty with
  | optional inner => exact inhabits
  | _ =>
    rw [orEmpty, admitsUnder, inhabits, Bool.or_true]
    exact nofun

theorem orEmpty_admitsUnder_empty (reading : Reading) (ty : Ty) :
    ty.orEmpty.admitsUnder reading .empty = true := by
  cases ty with
  | _ => simp [orEmpty, admitsUnder, Value.isEmpty]

/-- The two fields have one name, and the value of the one inhabits the type of the other. -/
def FieldFits (reading : Reading) (declared : String × Ty) (field : String × Value) : Prop :=
  declared.1 = field.1 ∧ declared.2.admitsUnder reading field.2 = true

/-- A record whose fields fit a list of declared ones in order inhabits the record type. -/
theorem admitsFieldsUnder_of_fits {reading : Reading} {declared : List (String × Ty)}
    {fields : Fields Value} (ascending : fields.Ascending)
    (fit : List.Forall₂ (FieldFits reading) declared fields) :
    admitsFieldsUnder reading declared fields = true := by
  rw [admitsFieldsUnder_iff]
  intro entry member
  obtain ⟨field, present, sameName, inhabits⟩ := exists_mem_of_forall₂ fit member
  have found : Fields.get? entry.1 fields = some field.2 := by
    rw [sameName]
    exact ascending.get?_of_mem present
  rw [found]
  exact inhabits

section

variable {ty : Ty} {fields : List (String × Ty)}

theorem exists_array_of_accepts {element : Ty} (accepted : (Ty.array element).accepts ty = true) :
    ∃ found, ty = .array found ∧ element.accepts found = true := by
  cases ty with
  | array found => exact ⟨found, rfl, by simpa only [accepts] using accepted⟩
  | _ => simp [accepts, same] at accepted

theorem exists_record_of_accepts (accepted : (Ty.record fields).accepts ty = true) :
    ∃ found, ty = .record found ∧ fields.length = found.length ∧
      acceptsFields fields found = true := by
  cases ty with
  | record found =>
    simp only [accepts, Bool.and_eq_true, beq_iff_eq] at accepted
    exact ⟨found, rfl, accepted⟩
  | _ => simp [accepts, same] at accepted

theorem acceptsFields_iff (expected : List (String × Ty)) :
    acceptsFields expected fields = true ↔ ∀ entry ∈ expected, ∃ found,
      Fields.get? entry.1 fields = some found ∧ entry.2.accepts found = true := by
  induction expected with
  | nil => simp [acceptsFields]
  | cons entry rest ih =>
    rw [acceptsFields, Bool.and_eq_true, ih, List.forall_mem_cons]
    cases found : Fields.get? entry.1 fields <;> simp

end

/-- A value of a type may stand wherever a type is expected that accepts its own. -/
theorem admits_of_accepts {reading : Reading} (expected actual : Ty) (value : Value)
    (accepted : expected.accepts actual = true)
    (inhabits : actual.admitsUnder reading value = true) : expected.admits value = true := by
  induction expected generalizing actual value with
  | any => rfl
  | optional expected ih =>
    simp only [accepts] at accepted
    simp only [admits, Bool.or_eq_true]
    by_cases empty : value.isEmpty = true
    · exact .inl empty
    · have inner := admitsUnder_required (Bool.eq_false_iff.mpr empty) inhabits
      exact .inr (ih actual.required value accepted inner)
  | array expected ih =>
    obtain ⟨element, rfl, accepted⟩ := exists_array_of_accepts accepted
    cases value <;> simp only [admitsUnder, Bool.false_eq_true, List.all_eq_true] at inhabits
    simp only [admits, List.all_eq_true]
    exact fun item member => ih _ item accepted (inhabits item member)
  | record expected ih =>
    obtain ⟨fields, rfl, -, accepted⟩ := exists_record_of_accepts accepted
    cases value <;> simp only [admitsUnder, Bool.false_eq_true, admitsFieldsUnder_iff] at inhabits
    rw [admits, admitsFields_iff]
    intro entry member
    obtain ⟨found, there, narrower⟩ := (acceptsFields_iff expected).mp accepted entry member
    exact ih entry member found _ narrower (inhabits _ (Fields.mem_of_get? there))
  | _ =>
    cases actual <;> simp [accepts, same] at accepted
    exact admits_of_admitsUnder inhabits

theorem part_isOptional {path : Path} {ty result : Ty} (part : ty.part path = .ok result) :
    ∃ inner : Ty, result = inner.orEmpty := by
  induction path generalizing ty with
  | nil => exact ⟨ty, (Except.ok.inj part).symm⟩
  | cons step rest ih =>
    simp only [Ty.part] at part
    split at part
    · exact ⟨.any, (Except.ok.inj part).symm⟩
    · split at part
      · exact ih part
      · cases part
    · exact ih part
    · cases part
    · cases part

/-- A path leads from a value of a type to a value of the type of the part. -/
theorem follow_ends_of_part {reading : Reading} {path : Path} {ty result : Ty} {value : Value}
    (part : ty.part path = .ok result) (inhabits : ty.admitsUnder reading value = true) :
    reading.Ends (fun found => result.admitsUnder reading found = true) (value.follow path) := by
  induction path generalizing ty value with
  | nil =>
    cases part
    exact admitsUnder_orEmpty inhabits
  | cons step rest ih =>
    obtain ⟨inner, optional⟩ := part_isOptional part
    have missed : result.admitsUnder reading .empty = true :=
      optional ▸ orEmpty_admitsUnder_empty reading inner
    by_cases empty : value.isEmpty = true
    · rw [(Value.isEmpty_iff value).mp empty, Value.follow]
      exact missed
    · have set := admitsUnder_required (Bool.eq_false_iff.mpr empty) inhabits
      simp only [Ty.part] at part
      split at part
      next known =>
        -- Past `Any` nothing is known, and under the strict reading nothing is there.
        cases part
        rw [known, admitsUnder, Bool.or_eq_true, beq_iff_eq] at set
        rcases set with wide | unset
        · subst wide
          exact Reading.wide_ends (fun found => by simp [admitsUnder]) _
        · exact absurd unset empty
      next fields name known =>
        rw [known] at set
        cases value <;> simp only [admitsUnder, Bool.false_eq_true] at set
        rename_i values
        cases found : Fields.get? name fields with
        | none => simp [found] at part
        | some field =>
          simp only [found] at part
          rw [admitsFieldsUnder_iff] at set
          have there := set _ (Fields.mem_of_get? found)
          simp only [Value.follow]
          cases here : Fields.get? name values with
          | none => exact missed
          | some value =>
            simp only [here, Option.getD_some] at there
            exact ih part there
      next element position known =>
        rw [known] at set
        cases value <;> simp only [admitsUnder, Bool.false_eq_true, List.all_eq_true] at set
        rename_i items
        simp only [Value.follow]
        cases here : items[position.toNat]? with
        | none => exact missed
        | some item => exact ih part (set item (List.mem_of_getElem? here))
      · cases part
      · cases part

end Ty

namespace Value

theorem eq_of_commonTy? {tys : List Ty} {common : Ty} (shared : commonTy? tys = some common) :
    ∀ ty ∈ tys, ty = common := by
  cases tys with
  | nil => simp
  | cons first rest =>
    simp only [commonTy?] at shared
    split at shared
    next same =>
      cases shared
      simpa using same
    · cases shared

mutual

/-- A literal value inhabits its type, even under the strict reading. -/
theorem admitsUnder_literalTy : (value : Value) → value.WellFormed → (ty : Ty) →
    value.literalTy? = some ty → ty.admitsUnder .strict value = true
  | .string _, _, _, typed => by cases typed; rfl
  | .boolean _, _, _, typed => by cases typed; rfl
  | .integer _, _, _, typed => by cases typed; rfl
  | .endpoint _ _ _, _, _, typed => by cases typed; rfl
  | .empty, _, _, typed => by cases typed; rfl
  | .array items, wellFormed, ty, typed => by
    simp only [literalTy?] at typed
    split at typed
    · cases typed
    next tys listed =>
      obtain ⟨element, shared, rfl⟩ := Option.map_eq_some_iff.mp typed
      have each := admitsUnder_setItemTys items wellFormed tys listed
      simp only [Ty.admitsUnder, List.all_eq_true]
      intro item member
      by_cases empty : item.isEmpty = true
      · have among : items.any isEmpty = true := List.any_eq_true.mpr ⟨item, member, empty⟩
        rw [among, if_pos rfl, (isEmpty_iff item).mp empty]
        exact Ty.orEmpty_admitsUnder_empty .strict element
      · obtain ⟨known, present, inhabits⟩ := each item member (Bool.eq_false_iff.mpr empty)
        rw [eq_of_commonTy? shared known present] at inhabits
        split
        · exact Ty.admitsUnder_orEmpty inhabits
        · exact inhabits
  | .record fields, wellFormed, ty, typed => by
    simp only [literalTy?] at typed
    obtain ⟨declared, listed, rfl⟩ := Option.map_eq_some_iff.mp typed
    exact Ty.admitsFieldsUnder_of_fits wellFormed.1 (fits_fieldTys fields wellFormed.2 _ listed)

theorem admitsUnder_setItemTys : (items : List Value) → ItemsWellFormed items → (tys : List Ty) →
    setItemTys? items = some tys → ∀ item ∈ items, item.isEmpty = false →
    ∃ ty ∈ tys, ty.admitsUnder .strict item = true
  | [], _, _, _ => by simp
  | first :: rest, wellFormed, tys, listed => by
    have head := admitsUnder_literalTy first wellFormed.1
    have tail := admitsUnder_setItemTys rest wellFormed.2
    by_cases empty : first.isEmpty = true
    · obtain rfl := (isEmpty_iff first).mp empty
      simp only [setItemTys?] at listed
      intro item member set
      rcases List.mem_cons.mp member with same | later
      · rw [same] at set
        exact absurd set (by simp [isEmpty])
      · exact tail tys listed item later set
    · rw [setItemTys?] at listed
      · split at listed
        next ty others typed listedRest =>
          cases listed
          intro item member set
          rcases List.mem_cons.mp member with same | later
          · exact ⟨ty, List.mem_cons_self, same ▸ head ty typed⟩
          · obtain ⟨known, present, inhabits⟩ := tail others listedRest item later set
            exact ⟨known, List.mem_cons_of_mem _ present, inhabits⟩
        · cases listed
      · rintro rfl
        exact empty rfl

theorem fits_fieldTys : (fields : List (String × Value)) → FieldsWellFormed fields →
    (tys : List (String × Ty)) → fieldTys? fields = some tys →
    List.Forall₂ (Ty.FieldFits .strict) tys fields
  | [], _, _, listed => by
    cases listed
    exact .nil
  | (name, value) :: rest, wellFormed, tys, listed => by
    simp only [fieldTys?] at listed
    split at listed
    next ty others typed listedRest =>
      cases listed
      exact .cons ⟨rfl, admitsUnder_literalTy value wellFormed.1 ty typed⟩
        (fits_fieldTys rest wellFormed.2 others listedRest)
    · cases listed

end

end Value
end EndpointResolution
