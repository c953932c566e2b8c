import EndpointResolution.Proofs.Decoding

/-!
Decoding what was encoded. A value without endpoints comes back under a type that admits it. As far
as the type goes, its records have lost what decoding leaves out: undeclared and empty fields.
-/
namespace EndpointResolution

namespace Value

mutual

/-- No endpoint is part of the value. -/
def endpointFree : Value → Bool
  | .array items => itemsEndpointFree items
  | .record fields => fieldsEndpointFree fields
  | .endpoint _ _ _ => false
  | _ => true

/-- No endpoint is part of any of the values. -/
def itemsEndpointFree : List Value → Bool
  | [] => true
  | item :: rest => endpointFree item && itemsEndpointFree rest

/-- No endpoint is part of any field. -/
def fieldsEndpointFree : List (String × Value) → Bool
  | [] => true
  | (_, value) :: rest => endpointFree value && fieldsEndpointFree rest

end

theorem itemsEndpointFree_iff (items : List Value) :
    itemsEndpointFree items = true ↔ ∀ item ∈ items, item.endpointFree = true := by
  induction items with
  | nil => simp [itemsEndpointFree]
  | cons item rest ih => simp [itemsEndpointFree, ih]

theorem fieldsEndpointFree_iff (fields : Fields Value) :
    fieldsEndpointFree fields = true ↔ ∀ field ∈ fields, field.2.endpointFree = true := by
  induction fields with
  | nil => simp [fieldsEndpointFree]
  | cons field rest ih => simp [fieldsEndpointFree, ih]

mutual

/-- Where nothing is asked of the document of a value, it is decoded to this value. -/
theorem ofUntypedJson_toJson : (value : Value) → value.endpointFree = true →
    ofUntypedJson value.toJson = value
  | .string _, _ => rfl
  | .boolean _, _ => rfl
  | .integer _, _ => rfl
  | .empty, _ => rfl
  | .array items, free => congrArg Value.array (ofUntypedItems_itemsToJson items free)
  | .record fields, free => congrArg Value.record (ofUntypedMembers_fieldsToJson fields free)

theorem ofUntypedItems_itemsToJson : (items : List Value) → itemsEndpointFree items = true →
    ofUntypedItems (itemsToJson items) = items
  | [], _ => rfl
  | item :: rest, free => by
    rw [itemsEndpointFree, Bool.and_eq_true] at free
    rw [itemsToJson, ofUntypedItems, ofUntypedJson_toJson item free.1,
      ofUntypedItems_itemsToJson rest free.2]

theorem ofUntypedMembers_fieldsToJson : (fields : List (String × Value)) →
    fieldsEndpointFree fields = true → ofUntypedMembers (fieldsToJson fields) = fields
  | [], _ => rfl
  | (name, value) :: rest, free => by
    rw [fieldsEndpointFree, Bool.and_eq_true] at free
    rw [fieldsToJson, ofUntypedMembers, ofUntypedJson_toJson value free.1,
      ofUntypedMembers_fieldsToJson rest free.2]

end

theorem toJson_ne_null {value : Value} (filled : value ≠ .empty) : value.toJson ≠ .null := by
  cases value with
  | empty => exact absurd rfl filled
  | _ => simp [toJson]

theorem itemsToJson_eq_map (items : List Value) : itemsToJson items = items.map toJson := by
  induction items with
  | nil => rfl
  | cons item rest ih => rw [itemsToJson, ih, List.map_cons]

theorem fieldsToJson_eq_mapValues (fields : Fields Value) :
    fieldsToJson fields = Fields.mapValues toJson fields := by
  induction fields with
  | nil => rfl
  | cons field rest ih =>
    rw [fieldsToJson, ih]
    rfl

/-- A field that is absent counts as empty in a record and as `null` in its document. -/
theorem getD_fieldsToJson (name : String) (fields : Fields Value) :
    (Fields.get? name (fieldsToJson fields)).getD .null =
      ((Fields.get? name fields).getD .empty).toJson := by
  rw [fieldsToJson_eq_mapValues, Fields.get?_mapValues]
  exact Option.getD_map toJson .empty _

end Value

/-- The type without its optional wrappers. -/
def Ty.bare : Ty → Ty
  | .optional inner => bare inner
  | ty => ty

namespace Value

mutual

/-- The value with, in its records where the type has a record type, those fields only that are
declared and not empty. -/
def trimmed : Value → Ty → Value
  | .array items, ty =>
    match ty.bare with
    | .array element => .array (trimmedItems items element)
    | _ => .array items
  | .record fields, ty =>
    match ty.bare with
    | .record declared => .record (trimmedFields fields declared)
    | _ => .record fields
  | value, _ => value

/-- The values with the fields only that the type keeps. -/
def trimmedItems : List Value → Ty → List Value
  | [], _ => []
  | item :: rest, element => item.trimmed element :: trimmedItems rest element

/-- The fields that are declared and not empty, as their types keep them. -/
def trimmedFields : List (String × Value) → Fields Ty → List (String × Value)
  | [], _ => []
  | (name, value) :: rest, declared =>
    match Fields.get? name declared with
    | none => trimmedFields rest declared
    | some ty =>
      if value.isEmpty then trimmedFields rest declared
      else (name, value.trimmed ty) :: trimmedFields rest declared

end

theorem trimmed_optional (value : Value) (inner : Ty) :
    value.trimmed (.optional inner) = value.trimmed inner := by
  cases value <;> simp only [trimmed, Ty.bare]

theorem trimmed_any (value : Value) : value.trimmed .any = value := by
  cases value <;> simp only [trimmed, Ty.bare]

theorem isEmpty_trimmed (value : Value) (ty : Ty) : (value.trimmed ty).isEmpty = value.isEmpty := by
  cases value with
  | array items =>
    rw [trimmed]
    split <;> rfl
  | record fields =>
    rw [trimmed]
    split <;> rfl
  | _ => simp only [trimmed]

theorem trimmedItems_eq_map (items : List Value) (element : Ty) :
    trimmedItems items element = items.map fun item => item.trimmed element := by
  induction items with
  | nil => rfl
  | cons item rest ih => rw [trimmedItems, ih, List.map_cons]

section

variable {fields : Fields Value} {declared : Fields Ty} {name : String} {ty : Ty}

theorem mem_trimmedFields_iff {part : Value} :
    (name, part) ∈ trimmedFields fields declared ↔ ∃ value ty, (name, value) ∈ fields ∧
      Fields.get? name declared = some ty ∧ value ≠ .empty ∧ value.trimmed ty = part := by
  induction fields with
  | nil => simp [trimmedFields]
  | cons field rest ih =>
    obtain ⟨other, value⟩ := field
    rw [trimmedFields]
    split
    next => grind
    next => grind [isEmpty_iff]

theorem ascending_trimmedFields (ascending : fields.Ascending) :
    Fields.Ascending (trimmedFields fields declared) := by
  induction fields with
  | nil => exact .nil
  | cons field rest ih =>
    obtain ⟨name, value⟩ := field
    obtain ⟨below, later⟩ := List.pairwise_cons.mp ascending
    rw [trimmedFields]
    split
    · exact ih later
    · split
      · exact ih later
      · refine List.pairwise_cons.mpr ⟨?_, ih later⟩
        rintro ⟨other, part⟩ member
        obtain ⟨before, -, present, -⟩ := mem_trimmedFields_iff.mp member
        exact below (other, before) present

theorem getD_trimmedFields (ascending : fields.Ascending)
    (typed : Fields.get? name declared = some ty) :
    (Fields.get? name (trimmedFields fields declared)).getD .empty =
      ((Fields.get? name fields).getD .empty).trimmed ty := by
  cases found : Fields.get? name (trimmedFields fields declared) with
  | some part =>
    obtain ⟨value, other, member, present, -, rfl⟩ :=
      mem_trimmedFields_iff.mp (Fields.mem_of_get? found)
    cases typed.symm.trans present
    rw [ascending.get?_of_mem member, Option.getD_some, Option.getD_some]
  | none =>
    cases given : Fields.get? name fields with
    | none => rfl
    | some value =>
      -- A declared field that is not kept is empty.
      have empty : value = .empty := by
        by_contra filled
        have kept := mem_trimmedFields_iff.mpr
          ⟨value, ty, Fields.mem_of_get? given, typed, filled, rfl⟩
        rw [(ascending_trimmedFields ascending).get?_of_mem kept] at found
        cases found
      rw [empty]
      rfl

end

/-- What a record keeps is what its members are decoded to, if each of its fields is decoded to what
its type keeps of it. -/
theorem decodedFields_trimmedFields {declared : Fields Ty} {fields : Fields Value}
    (ascending : declared.Ascending) (others : fields.Ascending)
    (each : ∀ entry ∈ declared, ofJson entry.2 ((Fields.get? entry.1 fields).getD .empty).toJson =
      .ok (((Fields.get? entry.1 fields).getD .empty).trimmed entry.2)) :
    DecodedFields declared (fieldsToJson fields) (trimmedFields fields declared) where
  ascending := ascending_trimmedFields others
  each := fun entry member => by
    rw [getD_fieldsToJson, each entry member,
      getD_trimmedFields others (ascending.get?_of_mem member)]
  declared := by
    rintro ⟨name, part⟩ member
    obtain ⟨value, ty, -, typed, filled, rfl⟩ := mem_trimmedFields_iff.mp member
    refine ⟨⟨ty, Fields.mem_of_get? typed⟩, ?_⟩
    rwa [ne_eq, ← isEmpty_iff, isEmpty_trimmed, isEmpty_iff]

/-- Under a type that admits it the document of a value is decoded to what the type keeps of it. -/
theorem ofJson_toJson {ty : Ty} (ordered : ty.ordered = true) {value : Value}
    (formed : value.WellFormed) (free : value.endpointFree = true)
    (inhabits : ty.admits value = true) : ofJson ty value.toJson = .ok (value.trimmed ty) := by
  induction ty generalizing value with
  | string => cases value <;> cases inhabits; rfl
  | boolean => cases value <;> cases inhabits; rfl
  | integer => cases value <;> cases inhabits; rfl
  | endpoint => cases value <;> cases inhabits; cases free
  | any => rw [ofJson, ofUntypedJson_toJson value free, trimmed_any]
  | optional inner ih =>
    rw [Ty.ordered] at ordered
    rw [Ty.admits, Bool.or_eq_true, isEmpty_iff] at inhabits
    rw [ofJson_optional_eq_ok_iff, trimmed_optional]
    -- The document of the empty value, and of no other, is `null`.
    by_cases empty : value = .empty
    · subst empty
      exact .inl ⟨rfl, rfl⟩
    · exact .inr ⟨toJson_ne_null empty, ih ordered formed free (inhabits.resolve_left empty)⟩
  | array element ih =>
    cases value with
    | array items =>
      rw [Ty.ordered] at ordered
      rw [WellFormed, itemsWellFormed_iff] at formed
      rw [endpointFree, itemsEndpointFree_iff] at free
      rw [Ty.admits, List.all_eq_true] at inhabits
      refine ofJson_array_eq_ok_iff.mpr ⟨_, _, rfl, ?_, rfl⟩
      rw [itemsToJson_eq_map, trimmedItems_eq_map, List.forall₂_map_left_iff,
        List.forall₂_map_right_iff, List.forall₂_same]
      exact fun item member => ih ordered (formed item member) (free item member)
        (inhabits item member)
    | _ => cases inhabits
  | record declared ih =>
    cases value with
    | record fields =>
      obtain ⟨ascending, ordered⟩ := Ty.ordered_record_iff.mp ordered
      obtain ⟨others, formed⟩ := formed
      rw [fieldsWellFormed_iff] at formed
      rw [endpointFree, fieldsEndpointFree_iff] at free
      rw [Ty.admits_record_iff] at inhabits
      refine (ofJson_record_eq_ok_iff ascending).mpr ⟨_, _, rfl, ?_, rfl⟩
      refine decodedFields_trimmedFields ascending others fun entry member => ?_
      refine ih entry member (ordered entry member) ?_ ?_ (inhabits entry member)
      · exact Fields.getD_of_forall WellFormed formed .empty trivial entry.1
      · exact Fields.getD_of_forall (endpointFree · = true) free .empty rfl entry.1
    | _ => cases inhabits

/-- Decoding undoes encoding, for values without endpoints. Under a type that admits it such a value
comes back with the fields that the type keeps, and so as a value of this type. Where nothing is
asked of the document it comes back as it was, so that different values have different documents. -/
theorem ofJson_inverts_toJson :
    (∀ (ty : Ty) (value : Value), ty.ordered = true → value.WellFormed →
      value.endpointFree = true → ty.admits value = true →
      ofJson ty value.toJson = .ok (value.trimmed ty) ∧ ty.admits (value.trimmed ty) = true) ∧
    (∀ value : Value, value.endpointFree = true → ofJson .any value.toJson = .ok value) ∧
    (∀ left right : Value, left.endpointFree = true → right.endpointFree = true →
      left.toJson = right.toJson → left = right) := by
  refine ⟨fun ty value ordered formed free inhabits => ?_, fun value free => ?_,
    fun left right first second same => ?_⟩
  · have decoded := ofJson_toJson ordered formed free inhabits
    exact ⟨decoded, admits_of_ofJson ordered decoded⟩
  · rw [ofJson, ofUntypedJson_toJson value free]
  · rw [← ofUntypedJson_toJson left first, same, ofUntypedJson_toJson right second]

/-- A zone loses its note, which is empty, and its size, which is not declared. Where nothing is
asked of the document it keeps both. -/
theorem ofJson_inverts_toJson_of_zones :
    ofJson (.record [("zones", .optional (.array (.record [("id", .integer), ("note", .any)])))])
        (Value.record [("zones", .array [.record
          [("id", .integer 7), ("note", .empty), ("size", .string "m")]])]).toJson =
      .ok (.record [("zones", .array [.record [("id", .integer 7)]])]) ∧
    ofJson .any (Value.record
        [("id", .integer 7), ("note", .empty), ("size", .string "m")]).toJson =
      .ok (.record [("id", .integer 7), ("note", .empty), ("size", .string "m")]) ∧
    (Value.integer 7).toJson ≠ (Value.string "7").toJson := by
  obtain ⟨typed, untyped, injective⟩ := ofJson_inverts_toJson
  refine ⟨(typed _ _ (by decide) ?_ (by decide) (by decide)).1, untyped _ (by decide),
    fun same => absurd (injective _ _ rfl rfl same) (by decide)⟩
  have names : Fields.Ascending
      [("id", Value.integer 7), ("note", .empty), ("size", .string "m")] := by decide
  have zone : WellFormed (.record [("id", .integer 7), ("note", .empty), ("size", .string "m")]) :=
    ⟨names, trivial, trivial, trivial, trivial⟩
  exact ⟨List.pairwise_singleton _ _, ⟨zone, trivial⟩, trivial⟩

end Value
end EndpointResolution
