import EndpointResolution.Proofs.Agreement

/-!
Narrower types. A type is narrowed by leaving out optional wrappers, in the elements of arrays and in
the fields of records too. Wherever a type is accepted its narrower ones are, and paths lead to parts
of narrower types.
-/
namespace EndpointResolution

namespace Ty

mutual

/-- The second type is the first without some of its optional wrappers, and neither is optional
twice. -/
def narrowsTo : Ty → Ty → Bool
  -- With two wrappers a name whose type loses one could be of the type `Any` next, and not be bound.
  | .optional wide, narrow => !wide.isOptional && narrowsTo wide narrow.required
  | .array wide, .array narrow => narrowsTo wide narrow
  | .record wide, .record narrow => fieldsNarrowTo wide narrow
  | wide, narrow => same wide narrow

/-- The two lists have the same names in the same order, with narrower types in the second. -/
def fieldsNarrowTo : List (String × Ty) → List (String × Ty) → Bool
  | [], [] => true
  | (name, wide) :: rest, (other, narrow) :: more =>
    name == other && narrowsTo wide narrow && fieldsNarrowTo rest more
  | _, _ => false

end

variable {wide narrow : Ty}

theorem required_of_not_isOptional {ty : Ty} (plain : ty.isOptional = false) : ty.required = ty := by
  cases ty with
  | optional inner => cases plain
  | _ => rfl

theorem orEmpty_eq (ty : Ty) : ty.orEmpty = .optional ty.required := by
  cases ty <;> rfl

theorem narrowsTo_optional_iff {inner : Ty} : (Ty.optional inner).narrowsTo narrow = true ↔
    inner.isOptional = false ∧ inner.narrowsTo narrow.required = true := by
  rw [narrowsTo, Bool.and_eq_true, Bool.not_eq_true']

theorem isOptional_of_narrowsTo (narrows : wide.narrowsTo narrow = true)
    (plain : wide.isOptional = false) : narrow.isOptional = false := by
  cases wide with
  | optional inner => cases plain
  | _ => cases narrow <;> simp [narrowsTo, same, isOptional] at narrows ⊢

theorem required_narrowsTo (narrows : wide.narrowsTo narrow = true) :
    wide.required.isOptional = false ∧ wide.required.narrowsTo narrow.required = true := by
  by_cases plain : wide.isOptional = false
  · rw [required_of_not_isOptional plain,
      required_of_not_isOptional (isOptional_of_narrowsTo narrows plain)]
    exact ⟨plain, narrows⟩
  · cases wide with
    | optional inner => exact narrowsTo_optional_iff.mp narrows
    | _ => exact absurd rfl plain

theorem isOptional_required_of_narrowsTo (narrows : wide.narrowsTo narrow = true) :
    narrow.required.isOptional = false :=
  isOptional_of_narrowsTo (required_narrowsTo narrows).2 (required_narrowsTo narrows).1

/-- The narrower type may lose its wrapper. -/
theorem narrowsTo_required (narrows : wide.narrowsTo narrow = true) :
    wide.narrowsTo narrow.required = true := by
  cases wide with
  | optional inner =>
    obtain ⟨plain, inside⟩ := narrowsTo_optional_iff.mp narrows
    rw [narrowsTo_optional_iff,
      required_of_not_isOptional (isOptional_required_of_narrowsTo narrows)]
    exact ⟨plain, inside⟩
  | _ =>
    rw [required_of_not_isOptional (isOptional_of_narrowsTo narrows rfl)]
    exact narrows

theorem narrowsTo_of_orEmpty (narrows : wide.narrowsTo narrow = true) :
    wide.orEmpty.narrowsTo narrow = true := by
  rw [orEmpty_eq, narrowsTo_optional_iff]
  exact required_narrowsTo narrows

theorem orEmpty_narrowsTo (narrows : wide.narrowsTo narrow = true) :
    wide.orEmpty.narrowsTo narrow.orEmpty = true := by
  obtain ⟨plain, inside⟩ := required_narrowsTo narrows
  rw [orEmpty_eq, orEmpty_eq, narrowsTo_optional_iff]
  exact ⟨plain, inside⟩

/-- A type is narrowed to `Any` only from `Any`, but for the wrapper. -/
theorem required_eq_any_iff (narrows : wide.narrowsTo narrow = true) :
    narrow.required = .any ↔ wide.required = .any := by
  obtain ⟨plain, inside⟩ := required_narrowsTo narrows
  generalize wide.required = first at plain inside ⊢
  generalize narrow.required = second at inside ⊢
  cases first with
  | optional inner => cases plain
  | _ => cases second <;> simp [narrowsTo, same] at inside ⊢

theorem exists_array_of_narrowsTo (narrows : (Ty.array wide).narrowsTo narrow = true) :
    ∃ element, narrow = .array element ∧ wide.narrowsTo element = true := by
  cases narrow with
  | array element => exact ⟨element, rfl, by simpa only [narrowsTo] using narrows⟩
  | _ => simp [narrowsTo, same] at narrows

theorem exists_record_of_narrowsTo {declared : List (String × Ty)}
    (narrows : (Ty.record declared).narrowsTo narrow = true) :
    ∃ fields, narrow = .record fields ∧ fieldsNarrowTo declared fields = true := by
  cases narrow with
  | record fields => exact ⟨fields, rfl, by simpa only [narrowsTo] using narrows⟩
  | _ => simp [narrowsTo, same] at narrows

section

variable {fields others : List (String × Ty)} (narrower : fieldsNarrowTo fields others = true)
include narrower

theorem length_of_fieldsNarrowTo : fields.length = others.length := by
  induction fields generalizing others with
  | nil => cases others <;> simp [fieldsNarrowTo] at narrower ⊢
  | cons field rest ih =>
    cases others with
    | nil => simp [fieldsNarrowTo] at narrower
    | cons other more =>
      simp only [fieldsNarrowTo, Bool.and_eq_true] at narrower
      rw [List.length_cons, List.length_cons, ih narrower.2]

theorem get?_of_fieldsNarrowTo {name : String} {ty : Ty} (found : Fields.get? name fields = some ty) :
    ∃ other, Fields.get? name others = some other ∧ ty.narrowsTo other = true := by
  induction fields generalizing others with
  | nil => cases found
  | cons field rest ih =>
    cases others with
    | nil => simp [fieldsNarrowTo] at narrower
    | cons other more =>
      simp only [fieldsNarrowTo, Bool.and_eq_true, beq_iff_eq] at narrower
      obtain ⟨⟨sameName, here⟩, later⟩ := narrower
      rw [Fields.get?] at found ⊢
      rw [← sameName]
      split at found
      next named =>
        cases found
        exact ⟨other.2, if_pos named, here⟩
      next unnamed =>
        rw [if_neg unnamed]
        exact ih later found

end

/-- Wherever a type is accepted, so are the narrower ones. -/
theorem accepts_of_narrowsTo (expected : Ty) {wide narrow : Ty}
    (narrows : wide.narrowsTo narrow = true) (accepted : expected.accepts wide = true) :
    expected.accepts narrow = true := by
  induction expected generalizing wide narrow with
  | any => rfl
  | optional expected ih =>
    simp only [accepts] at accepted ⊢
    exact ih (required_narrowsTo narrows).2 accepted
  | array expected ih =>
    obtain ⟨found, rfl, accepted⟩ := exists_array_of_accepts accepted
    obtain ⟨element, rfl, inside⟩ := exists_array_of_narrowsTo narrows
    simp only [accepts]
    exact ih inside accepted
  | record expected ih =>
    obtain ⟨found, rfl, sameLength, accepted⟩ := exists_record_of_accepts accepted
    obtain ⟨fields, rfl, inside⟩ := exists_record_of_narrowsTo narrows
    rw [accepts, Bool.and_eq_true, beq_iff_eq, acceptsFields_iff]
    refine ⟨sameLength.trans (length_of_fieldsNarrowTo inside), fun entry member => ?_⟩
    obtain ⟨field, present, fits⟩ := (acceptsFields_iff expected).mp accepted entry member
    obtain ⟨other, there, narrower⟩ := get?_of_fieldsNarrowTo inside present
    exact ⟨other, there, ih entry member narrower fits⟩
  | _ =>
    cases wide <;> simp [accepts, same] at accepted
    simpa [accepts, narrowsTo] using narrows

/-- A path leads to a part of a narrower type. -/
theorem part_of_narrowsTo {path : Path} {wide narrow result : Ty}
    (narrows : wide.narrowsTo narrow = true) (part : wide.part path = .ok result) :
    ∃ other, narrow.part path = .ok other ∧ result.narrowsTo other = true := by
  induction path generalizing wide narrow with
  | nil =>
    cases part
    exact ⟨_, rfl, orEmpty_narrowsTo narrows⟩
  | cons step rest ih =>
    have inside := (required_narrowsTo narrows).2
    simp only [Ty.part] at part ⊢
    split at part
    next known =>
      cases part
      rw [(required_eq_any_iff narrows).mpr known]
      exact ⟨_, rfl, rfl⟩
    next fields name known =>
      rw [known] at inside
      obtain ⟨others, same, narrower⟩ := exists_record_of_narrowsTo inside
      rw [same]
      split at part
      next field found =>
        obtain ⟨other, there, fits⟩ := get?_of_fieldsNarrowTo narrower found
        simp only [there]
        exact ih fits part
      · cases part
    next element position known =>
      rw [known] at inside
      obtain ⟨other, same, narrower⟩ := exists_array_of_narrowsTo inside
      rw [same]
      exact ih narrower part
    · cases part
    · cases part

end Ty

namespace Value

theorem mem_of_commonTy? {tys : List Ty} {common : Ty} (shared : commonTy? tys = some common) :
    common = .any ∨ common ∈ tys := by
  cases tys with
  | nil => exact .inl (Option.some.inj shared).symm
  | cons first rest =>
    simp only [commonTy?] at shared
    split at shared
    · cases shared
      exact .inr List.mem_cons_self
    · cases shared

mutual

theorem literalTy_narrowsTo_self : (value : Value) → {ty : Ty} → value.literalTy? = some ty →
    ty.narrowsTo ty = true
  | .string _, _, typed => by cases typed; rfl
  | .boolean _, _, typed => by cases typed; rfl
  | .integer _, _, typed => by cases typed; rfl
  | .endpoint _ _ _, _, typed => by cases typed; rfl
  | .empty, _, typed => by cases typed; rfl
  | .array items, _, typed => by
    simp only [literalTy?] at typed
    split at typed
    · cases typed
    next tys listed =>
      obtain ⟨element, shared, rfl⟩ := Option.map_eq_some_iff.mp typed
      have inside : element.narrowsTo element = true := by
        rcases mem_of_commonTy? shared with rfl | member
        · rfl
        · exact setItemTys_narrowTo_self items listed element member
      simp only [Ty.narrowsTo]
      split
      · exact Ty.orEmpty_narrowsTo inside
      · exact inside
  | .record fields, _, typed => by
    simp only [literalTy?] at typed
    obtain ⟨declared, listed, rfl⟩ := Option.map_eq_some_iff.mp typed
    simp only [Ty.narrowsTo]
    exact fieldTys_narrowTo_self fields listed

theorem setItemTys_narrowTo_self : (items : List Value) → {tys : List Ty} →
    setItemTys? items = some tys → ∀ ty ∈ tys, ty.narrowsTo ty = true
  | [], _, listed => by cases listed; nofun
  | first :: rest, tys, listed => by
    by_cases empty : first = .empty
    · rw [empty, setItemTys?] at listed
      exact setItemTys_narrowTo_self rest listed
    · rw [setItemTys?] at listed
      · split at listed
        next ty others typed listedRest =>
          cases listed
          exact List.forall_mem_cons.mpr ⟨literalTy_narrowsTo_self first typed,
            setItemTys_narrowTo_self rest listedRest⟩
        · cases listed
      · exact empty

theorem fieldTys_narrowTo_self : (fields : List (String × Value)) → {tys : List (String × Ty)} →
    fieldTys? fields = some tys → Ty.fieldsNarrowTo tys tys = true
  | [], _, listed => by cases listed; rfl
  | (name, value) :: rest, _, listed => by
    simp only [fieldTys?] at listed
    split at listed
    next ty others typed listedRest =>
      cases listed
      simp only [Ty.fieldsNarrowTo, beq_self_eq_true, Bool.true_and, Bool.and_eq_true]
      exact ⟨literalTy_narrowsTo_self value typed, fieldTys_narrowTo_self rest listedRest⟩
    · cases listed

end

end Value
end EndpointResolution
