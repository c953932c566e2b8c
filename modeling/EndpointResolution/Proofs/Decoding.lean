import EndpointResolution.Proofs.FieldOrder
import EndpointResolution.Proofs.Results
import EndpointResolution.Proofs.Subtypes
import EndpointResolution.Value.Json

/-!
What documents are decoded to. Decoding under a type yields values of this type. As far as the type
goes their records have declared fields only, and none that is empty.
-/
namespace EndpointResolution

namespace Value

section

variable {element inner ty : Ty} {declared : Fields Ty} {json : Json} {members : Fields Json}
  {value : Value} {fields : Fields Value}

theorem ofJsonFields_cons (name : String) (ty : Ty) (rest : Fields Ty) (members : Fields Json) :
    ofJsonFields ((name, ty) :: rest) members =
      (ofJson ty ((Fields.get? name members).getD .null)).bind fun value =>
        (ofJsonFields rest members).map fun fields =>
          if value.isEmpty then fields else (name, value) :: fields := by
  rw [ofJsonFields]
  cases ofJson ty ((Fields.get? name members).getD .null) <;> rfl

/-- What the fields of a record are decoded to. A member that is absent counts as `null`, and a
field that is absent as the empty value. -/
structure DecodedFields (declared : Fields Ty) (members : Fields Json) (fields : Fields Value) :
    Prop where
  ascending : fields.Ascending
  each : ∀ entry ∈ declared, ofJson entry.2 ((Fields.get? entry.1 members).getD .null) =
    .ok ((Fields.get? entry.1 fields).getD .empty)
  declared : ∀ field ∈ fields, (∃ ty, (field.1, ty) ∈ declared) ∧ field.2 ≠ .empty

theorem DecodedFields.above {name : String} (decoded : DecodedFields declared members fields)
    (below : ∀ entry ∈ declared, name < entry.1) : ∀ field ∈ fields, name < field.1 := by
  intro field member
  obtain ⟨⟨ty, present⟩, -⟩ := decoded.declared field member
  exact below _ present

/-- A field before the others joins them, unless it is empty. -/
theorem DecodedFields.cons {name : String} (decoded : DecodedFields declared members fields)
    (below : ∀ entry ∈ declared, name < entry.1)
    (here : ofJson ty ((Fields.get? name members).getD .null) = .ok value) :
    DecodedFields ((name, ty) :: declared) members
      (if value.isEmpty then fields else (name, value) :: fields) := by
  -- The names of the others are above this one.
  have absent : Fields.get? name fields = none :=
    Fields.get?_eq_none_iff.mpr fun field member =>
      (String.ne_of_lt (decoded.above below field member)).symm
  have others : ∀ field ∈ fields, (∃ found, (field.1, found) ∈ (name, ty) :: declared) ∧
      field.2 ≠ .empty := by
    intro field member
    obtain ⟨⟨found, present⟩, filled⟩ := decoded.declared field member
    exact ⟨⟨found, List.mem_cons_of_mem _ present⟩, filled⟩
  split
  next empty =>
    rw [isEmpty_iff] at empty
    subst empty
    exact ⟨decoded.ascending, List.forall_mem_cons.mpr ⟨by rw [here, absent]; rfl, decoded.each⟩,
      others⟩
  next filled =>
    rw [isEmpty_iff] at filled
    refine ⟨List.pairwise_cons.mpr ⟨decoded.above below, decoded.ascending⟩,
      List.forall_mem_cons.mpr ⟨?_, fun entry member => ?_⟩,
      List.forall_mem_cons.mpr ⟨⟨⟨ty, List.mem_cons_self⟩, filled⟩, others⟩⟩
    · rw [here, Fields.get?, if_pos rfl, Option.getD_some]
    · rw [Fields.get?, if_neg (String.ne_of_lt (below entry member))]
      exact decoded.each entry member

theorem DecodedFields.mem_iff {name : String} (decoded : DecodedFields declared members fields) :
    (name, value) ∈ fields ↔ value ≠ .empty ∧ ∃ ty, (name, ty) ∈ declared ∧
      ofJson ty ((Fields.get? name members).getD .null) = .ok value := by
  constructor
  · intro member
    obtain ⟨⟨ty, present⟩, filled⟩ := decoded.declared _ member
    refine ⟨filled, ty, present, ?_⟩
    rw [decoded.each _ present, decoded.ascending.get?_of_mem member, Option.getD_some]
  · rintro ⟨filled, ty, present, here⟩
    rw [decoded.each _ present, Except.ok.injEq] at here
    cases found : Fields.get? name fields with
    | none => exact absurd (by rw [← here, found, Option.getD_none]) filled
    | some part =>
      rw [found, Option.getD_some] at here
      exact here ▸ Fields.mem_of_get? found

theorem decodedFields_of_ofJsonFields (ascending : declared.Ascending)
    (decoded : ofJsonFields declared members = .ok fields) :
    DecodedFields declared members fields := by
  induction declared generalizing fields with
  | nil =>
    cases decoded
    exact ⟨.nil, nofun, nofun⟩
  | cons entry rest ih =>
    obtain ⟨name, ty⟩ := entry
    rw [ofJsonFields_cons, bind_eq_ok_iff] at decoded
    obtain ⟨value, here, later⟩ := decoded
    obtain ⟨others, rest, rfl⟩ := map_eq_ok_iff.mp later
    exact (ih ascending.tail rest).cons (List.pairwise_cons.mp ascending).1 here

theorem exists_ofJsonFields (each : ∀ entry ∈ declared, ∃ value,
    ofJson entry.2 ((Fields.get? entry.1 members).getD .null) = .ok value) :
    ∃ fields, ofJsonFields declared members = .ok fields := by
  induction declared with
  | nil => exact ⟨[], rfl⟩
  | cons entry rest ih =>
    obtain ⟨name, ty⟩ := entry
    obtain ⟨⟨value, here⟩, each⟩ := List.forall_mem_cons.mp each
    obtain ⟨fields, others⟩ := ih each
    rw [ofJsonFields_cons, here, others]
    exact ⟨_, rfl⟩

theorem ofJsonFields_eq_ok_iff (ascending : declared.Ascending) :
    ofJsonFields declared members = .ok fields ↔ DecodedFields declared members fields := by
  refine ⟨decodedFields_of_ofJsonFields ascending, fun decoded => ?_⟩
  obtain ⟨others, found⟩ := exists_ofJsonFields fun entry member => ⟨_, decoded.each entry member⟩
  have same := decodedFields_of_ofJsonFields ascending found
  rw [found, same.ascending.eq_of_mem_iff decoded.ascending fun _ =>
    same.mem_iff.trans decoded.mem_iff.symm]

theorem ofJson_optional_eq_ok_iff :
    ofJson (.optional inner) json = .ok value ↔
      json = .null ∧ value = .empty ∨ json ≠ .null ∧ ofJson inner json = .ok value := by
  cases json <;> simp [ofJson, eq_comm]

theorem ofJson_array_eq_ok_iff :
    ofJson (.array element) json = .ok value ↔ ∃ documents items, json = .array documents ∧
      List.Forall₂ (fun document item => ofJson element document = .ok item) documents items ∧
      .array items = value := by
  cases json with
  | array documents => simp [ofJson, map_eq_ok_iff, mapM_eq_ok_iff]
  | _ => simp [ofJson]

theorem ofJson_record_eq_ok_iff (ascending : declared.Ascending) :
    ofJson (.record declared) json = .ok value ↔ ∃ members fields, json = .object members ∧
      DecodedFields declared members fields ∧ .record fields = value := by
  cases json with
  | object members => simp [ofJson, map_eq_ok_iff, ofJsonFields_eq_ok_iff ascending]
  | _ => simp [ofJson]

theorem admits_of_ofJson (ordered : ty.ordered = true) (decoded : ofJson ty json = .ok value) :
    ty.admits value = true := by
  induction ty generalizing json value with
  | string => cases json <;> cases decoded; rfl
  | boolean => cases json <;> cases decoded; rfl
  | integer =>
    cases json with
    | number number => cases number <;> cases decoded; rfl
    | _ => cases decoded
  | endpoint => cases json <;> cases decoded
  | any => rfl
  | optional inner ih =>
    rw [Ty.ordered] at ordered
    rw [Ty.admits, Bool.or_eq_true]
    rcases ofJson_optional_eq_ok_iff.mp decoded with ⟨-, rfl⟩ | ⟨-, inside⟩
    · exact .inl rfl
    · exact .inr (ih ordered inside)
  | array element ih =>
    rw [Ty.ordered] at ordered
    obtain ⟨documents, items, rfl, each, rfl⟩ := ofJson_array_eq_ok_iff.mp decoded
    rw [Ty.admits, List.all_eq_true]
    intro item member
    obtain ⟨document, -, inside⟩ := exists_mem_of_forall₂ each.flip member
    exact ih ordered inside
  | record declared ih =>
    obtain ⟨ascending, ordered⟩ := Ty.ordered_record_iff.mp ordered
    obtain ⟨members, fields, rfl, parts, rfl⟩ := (ofJson_record_eq_ok_iff ascending).mp decoded
    rw [Ty.admits_record_iff]
    exact fun entry member => ih entry member (ordered entry member) (parts.each entry member)

/-- Only `null` is decoded to the empty value, and only optional types and `Any` take it. -/
theorem eq_null_of_ofJson_empty (decoded : ofJson ty json = .ok .empty) :
    json = .null ∧ (ty = .any ∨ ∃ inner, ty = .optional inner) := by
  induction ty with
  | string => cases json <;> cases decoded
  | boolean => cases json <;> cases decoded
  | integer =>
    cases json with
    | number number => cases number <;> cases decoded
    | _ => cases decoded
  | endpoint => cases json <;> cases decoded
  | any =>
    cases json with
    | null => exact ⟨rfl, .inl rfl⟩
    | number number => cases number <;> cases decoded
    | _ => cases decoded
  | optional inner ih =>
    rcases ofJson_optional_eq_ok_iff.mp decoded with ⟨rfl, -⟩ | ⟨-, inside⟩
    · exact ⟨rfl, .inr ⟨inner, rfl⟩⟩
    · exact ⟨(ih inside).1, .inr ⟨inner, rfl⟩⟩
  | array element =>
    obtain ⟨_, _, -, -, impossible⟩ := ofJson_array_eq_ok_iff.mp decoded
    cases impossible
  | record declared =>
    cases json with
    | object members =>
      rw [ofJson, map_eq_ok_iff] at decoded
      obtain ⟨_, -, impossible⟩ := decoded
      cases impossible
    | _ => cases decoded

end

/-- Inside the value there is, where the type has a record type with the declared fields, a record
with the given fields. -/
inductive TypedRecord : Ty → Value → Fields Ty → Fields Value → Prop where
  | here {declared fields} : TypedRecord (.record declared) (.record fields) declared fields
  | optional {inner value declared fields} (inside : TypedRecord inner value declared fields) :
    TypedRecord (.optional inner) value declared fields
  | item {element items item declared fields} (member : item ∈ items)
    (inside : TypedRecord element item declared fields) :
    TypedRecord (.array element) (.array items) declared fields
  | field {outer : Fields Ty} {parts : Fields Value} {name ty part declared fields}
    (typed : (name, ty) ∈ outer) (member : (name, part) ∈ parts)
    (inside : TypedRecord ty part declared fields) :
    TypedRecord (.record outer) (.record parts) declared fields

theorem TypedRecord.ne_empty {ty : Ty} {value : Value} {declared : Fields Ty}
    {fields : Fields Value} (inside : TypedRecord ty value declared fields) : value ≠ .empty := by
  induction inside with
  | optional _ ih => exact ih
  | _ => nofun

/-- Each record where the type has a record type is what some members are decoded to. -/
theorem TypedRecord.exists_decodedFields {ty : Ty} {value : Value} {declared : Fields Ty}
    {fields : Fields Value} (inside : TypedRecord ty value declared fields) {json : Json}
    (ordered : ty.ordered = true) (decoded : ofJson ty json = .ok value) :
    ∃ members, DecodedFields declared members fields := by
  induction inside generalizing json with
  | here =>
    obtain ⟨ascending, -⟩ := Ty.ordered_record_iff.mp ordered
    obtain ⟨members, _, -, parts, same⟩ := (ofJson_record_eq_ok_iff ascending).mp decoded
    cases same
    exact ⟨members, parts⟩
  | optional within ih =>
    rw [Ty.ordered] at ordered
    rcases ofJson_optional_eq_ok_iff.mp decoded with ⟨-, rfl⟩ | ⟨-, here⟩
    · exact absurd rfl within.ne_empty
    · exact ih ordered here
  | item member _ ih =>
    rw [Ty.ordered] at ordered
    obtain ⟨_, _, -, each, same⟩ := ofJson_array_eq_ok_iff.mp decoded
    cases same
    obtain ⟨_, -, here⟩ := exists_mem_of_forall₂ each.flip member
    exact ih ordered here
  | field typed member _ ih =>
    obtain ⟨ascending, ordered⟩ := Ty.ordered_record_iff.mp ordered
    obtain ⟨_, _, -, parts, same⟩ := (ofJson_record_eq_ok_iff ascending).mp decoded
    cases same
    have here := parts.each _ typed
    rw [parts.ascending.get?_of_mem member, Option.getD_some] at here
    exact ih (ordered _ typed) here

/-- What a document is decoded to is of the type that was asked for. Every record in it, where the
type has a record type, has declared fields only, and none that is empty. The whole is empty only if
the document is `null` and the type takes this. -/
theorem ofJson_inhabits {ty : Ty} (ordered : ty.ordered = true) {json : Json} {value : Value}
    (decoded : ofJson ty json = .ok value) :
    ty.admits value = true ∧
      (∀ declared fields, TypedRecord ty value declared fields → ∀ field ∈ fields,
        (∃ part, (field.1, part) ∈ declared) ∧ field.2 ≠ .empty) ∧
      (value = .empty → json = .null ∧ (ty = .any ∨ ∃ inner, ty = .optional inner)) := by
  refine ⟨admits_of_ofJson ordered decoded, fun declared fields inside => ?_, ?_⟩
  · obtain ⟨members, parts⟩ := inside.exists_decodedFields ordered decoded
    exact parts.declared
  · rintro rfl
    exact eq_null_of_ofJson_empty decoded

/-- A zone loses its note, which is empty, and the whole its host. -/
theorem ofJson_inhabits_of_zones :
    (Ty.record [("host", .optional .string),
        ("zones", .array (.record [("id", .integer), ("note", .any)]))]).admits
          (.record [("zones", .array [.record [("id", .integer 7)]])]) = true ∧
      ∀ field ∈ [("id", Value.integer 7)],
        (∃ part, (field.1, part) ∈ [("id", Ty.integer), ("note", .any)]) ∧ field.2 ≠ .empty := by
  obtain ⟨inhabits, records, -⟩ := @ofJson_inhabits
    (.record [("host", .optional .string),
      ("zones", .array (.record [("id", .integer), ("note", .any)]))]) (by decide)
    (.object [("extra", .null), ("zones", .array [.object
      [("id", .number (.integer 7)), ("note", .null), ("size", .string "m")]])])
    (.record [("zones", .array [.record [("id", .integer 7)]])]) rfl
  exact ⟨inhabits, records _ _ (.field (List.mem_cons_of_mem _ List.mem_cons_self)
    List.mem_cons_self (.item List.mem_cons_self .here))⟩

end Value
end EndpointResolution
