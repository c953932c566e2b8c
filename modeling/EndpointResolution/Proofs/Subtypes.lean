import EndpointResolution.Proofs.Admission
import EndpointResolution.Proofs.Narrowing
import Mathlib.Data.List.Perm.Subperm
import Mathlib.Data.List.Sort

/-!
Subtypes. Acceptance is a preorder on types. Two types accept each other exactly if they are the
same but for the wrapper of optional `Any`, which says nothing, and what inhabits a type inhabits
every type that accepts it. Between record types acceptance is field by field.
-/
namespace EndpointResolution.Ty

mutual

/-- The names in every record type ascend, and no optional type is wrapped a second time. -/
def wellFormed : Ty → Bool
  | .string => true
  | .boolean => true
  | .integer => true
  | .array element => wellFormed element
  | .record fields => decide (Fields.Ascending fields) && wellFormedFields fields
  | .endpoint => true
  | .any => true
  | .optional inner => !inner.isOptional && wellFormed inner

/-- The type of every field is well formed. -/
def wellFormedFields : List (String × Ty) → Bool
  | [] => true
  | (_, ty) :: rest => wellFormed ty && wellFormedFields rest

end

mutual

/-- The names in every record type ascend. -/
def ordered : Ty → Bool
  | .array element => ordered element
  | .record declared => decide (Fields.Ascending declared) && orderedFields declared
  | .optional inner => ordered inner
  | _ => true

/-- The type of every field is ordered. -/
def orderedFields : List (String × Ty) → Bool
  | [] => true
  | (_, ty) :: rest => ordered ty && orderedFields rest

end

mutual

/-- The type with `Any` in place of every optional `Any` in it. -/
def withoutOptionalAny : Ty → Ty
  | .optional .any => .any
  | .optional inner => .optional (withoutOptionalAny inner)
  | .array element => .array (withoutOptionalAny element)
  | .record fields => .record (fieldsWithoutOptionalAny fields)
  | ty => ty

/-- The fields with `Any` in place of every optional `Any` in their types. -/
def fieldsWithoutOptionalAny : List (String × Ty) → List (String × Ty)
  | [] => []
  | (name, ty) :: rest => (name, withoutOptionalAny ty) :: fieldsWithoutOptionalAny rest

end

section

variable {ty inner : Ty} {fields : List (String × Ty)}

theorem wellFormed_optional_iff :
    (Ty.optional inner).wellFormed = true ↔ inner.isOptional = false ∧ inner.wellFormed = true := by
  rw [wellFormed, Bool.and_eq_true, Bool.not_eq_true']

theorem wellFormed_record_iff : (Ty.record fields).wellFormed = true ↔
    Fields.Ascending fields ∧ wellFormedFields fields = true := by
  rw [wellFormed, Bool.and_eq_true, decide_eq_true_eq]

theorem wellFormedFields_iff :
    wellFormedFields fields = true ↔ ∀ entry ∈ fields, entry.2.wellFormed = true := by
  induction fields with
  | nil => simp [wellFormedFields]
  | cons entry rest ih => rw [wellFormedFields, Bool.and_eq_true, ih, List.forall_mem_cons]

theorem ordered_record_iff {declared : Fields Ty} :
    (Ty.record declared).ordered = true ↔
      declared.Ascending ∧ ∀ entry ∈ declared, entry.2.ordered = true := by
  have each : ∀ fields : List (String × Ty),
      orderedFields fields = true ↔ ∀ entry ∈ fields, entry.2.ordered = true := by
    intro fields
    induction fields with
    | nil => simp [orderedFields]
    | cons entry rest ih => rw [orderedFields, Bool.and_eq_true, ih, List.forall_mem_cons]
  rw [ordered, Bool.and_eq_true, decide_eq_true_eq, each]

theorem ordered_of_wellFormed (ty : Ty) (formed : ty.wellFormed = true) : ty.ordered = true := by
  induction ty with
  | array element ih =>
    rw [wellFormed] at formed
    rw [ordered]
    exact ih formed
  | optional inner ih =>
    rw [ordered]
    exact ih (wellFormed_optional_iff.mp formed).2
  | record fields ih =>
    obtain ⟨ascending, formed⟩ := wellFormed_record_iff.mp formed
    rw [wellFormedFields_iff] at formed
    refine ordered_record_iff.mpr ⟨ascending, fun entry member => ?_⟩
    exact ih entry member (formed entry member)
  | _ => rfl

theorem withoutOptionalAny_optional (known : inner ≠ .any) :
    (Ty.optional inner).withoutOptionalAny = .optional inner.withoutOptionalAny := by
  cases inner with
  | any => exact absurd rfl known
  | _ => simp only [withoutOptionalAny]

theorem fieldsWithoutOptionalAny_eq (fields : List (String × Ty)) :
    fieldsWithoutOptionalAny fields = Fields.mapValues withoutOptionalAny fields := by
  induction fields with
  | nil => rfl
  | cons entry rest ih =>
    rw [fieldsWithoutOptionalAny, ih]
    rfl

theorem exists_optional_of_accepts (accepted : ty.accepts (.optional inner) = true) :
    ty = .any ∨ ∃ wide, ty = .optional wide ∧ wide.accepts inner = true := by
  cases ty with
  | any => exact .inl rfl
  | optional wide => exact .inr ⟨wide, rfl, by simpa only [accepts, required] using accepted⟩
  | _ => simp [accepts, same] at accepted

theorem eq_any_of_accepts_any (accepted : ty.accepts .any = true) (plain : ty.isOptional = false) :
    ty = .any := by
  cases ty with
  | any => rfl
  | optional wide => cases plain
  | _ => simp [accepts, same] at accepted

/-- Only `Any` and optional types accept a type with a wrapper, so that a type which accepts another
one does so without the wrappers too. -/
theorem required_accepts (accepted : ty.accepts inner = true) :
    ty.required.accepts inner.required = true := by
  cases inner with
  | optional under =>
    rcases exists_optional_of_accepts accepted with rfl | ⟨wide, rfl, inside⟩
    · rfl
    · exact inside
  | _ =>
    cases ty with
    | optional wide =>
      rw [accepts] at accepted
      exact accepted
    | _ => exact accepted

end

theorem accepts_self_of_ordered (ty : Ty) (ordered : ty.ordered = true) :
    ty.accepts ty = true := by
  induction ty with
  | array element ih =>
    rw [Ty.ordered] at ordered
    rw [accepts]
    exact ih ordered
  | optional inner ih =>
    rw [Ty.ordered] at ordered
    rw [accepts, required]
    exact ih ordered
  | record fields ih =>
    obtain ⟨ascending, each⟩ := ordered_record_iff.mp ordered
    rw [accepts, beq_self_eq_true, Bool.true_and, acceptsFields_iff]
    exact fun entry member =>
      ⟨entry.2, ascending.get?_of_mem member, ih entry member (each entry member)⟩
  | _ => rfl

theorem accepts_self (ty : Ty) (formed : ty.wellFormed = true) : ty.accepts ty = true :=
  accepts_self_of_ordered ty (ordered_of_wellFormed ty formed)

theorem accepts_trans (wide : Ty) {middle narrow : Ty} (first : wide.accepts middle = true)
    (second : middle.accepts narrow = true) : wide.accepts narrow = true := by
  induction wide generalizing middle narrow with
  | any => rfl
  | optional wide ih =>
    -- The wider type looks past the wrappers of both of the others.
    rw [accepts] at first ⊢
    exact ih first (required_accepts second)
  | array wide ih =>
    obtain ⟨element, rfl, first⟩ := exists_array_of_accepts first
    obtain ⟨under, rfl, second⟩ := exists_array_of_accepts second
    rw [accepts]
    exact ih first second
  | record wide ih =>
    obtain ⟨fields, rfl, sameLength, first⟩ := exists_record_of_accepts first
    obtain ⟨under, rfl, others, second⟩ := exists_record_of_accepts second
    rw [accepts, Bool.and_eq_true, beq_iff_eq, acceptsFields_iff]
    refine ⟨sameLength.trans others, fun entry member => ?_⟩
    obtain ⟨between, present, accepted⟩ := (acceptsFields_iff wide).mp first entry member
    obtain ⟨found, there, narrower⟩ :=
      (acceptsFields_iff fields).mp second _ (Fields.mem_of_get? present)
    exact ⟨found, there, ih entry member accepted narrower⟩
  | _ =>
    cases middle <;> simp [accepts, same] at first
    exact second

/-- The two fields have one name, and the type of the first accepts that of the second. -/
def FieldAccepts (wide narrow : String × Ty) : Prop :=
  wide.1 = narrow.1 ∧ wide.2.accepts narrow.2 = true

section

variable {expected fields : List (String × Ty)}

/-- As many names of one record as another has are all its names, and both lists ascend. -/
theorem names_eq_of_acceptsFields (first : Fields.Ascending expected)
    (second : Fields.Ascending fields) (sameLength : expected.length = fields.length)
    (accepted : acceptsFields expected fields = true) :
    expected.map Prod.fst = fields.map Prod.fst := by
  have ascending : (expected.map Prod.fst).Pairwise (· < ·) := List.pairwise_map.mpr first
  have others : (fields.map Prod.fst).Pairwise (· < ·) := List.pairwise_map.mpr second
  have among : expected.map Prod.fst ⊆ fields.map Prod.fst := by
    intro name member
    obtain ⟨entry, present, rfl⟩ := List.mem_map.mp member
    obtain ⟨ty, found, -⟩ := (acceptsFields_iff expected).mp accepted entry present
    exact List.mem_map.mpr ⟨_, Fields.mem_of_get? found, rfl⟩
  have distinct : (expected.map Prod.fst).Nodup := ascending.imp fun below => String.ne_of_lt below
  have permuted : (expected.map Prod.fst).Perm (fields.map Prod.fst) :=
    (List.Nodup.subperm distinct among).perm_of_length_le (by simp [sameLength])
  exact permuted.eq_of_pairwise
    (fun _ _ _ _ below above => absurd above (String.lt_asymm below)) ascending others

theorem forall₂_of_acceptsFields (ascending : Fields.Ascending fields)
    (names : expected.map Prod.fst = fields.map Prod.fst)
    (accepted : acceptsFields expected fields = true) :
    List.Forall₂ FieldAccepts expected fields := by
  rw [acceptsFields_iff] at accepted
  induction expected generalizing fields with
  | nil =>
    rw [List.map_nil, eq_comm, List.map_eq_nil_iff] at names
    rw [names]
    exact .nil
  | cons entry rest ih =>
    cases fields with
    | nil => simp at names
    | cons field others =>
      obtain ⟨sameName, names⟩ := List.cons.inj names
      obtain ⟨below, ascending⟩ := List.pairwise_cons.mp ascending
      obtain ⟨⟨found, there, narrower⟩, accepted⟩ := List.forall_mem_cons.mp accepted
      refine .cons ⟨sameName, ?_⟩ (ih ascending names fun other member => ?_)
      · rw [Fields.get?, if_pos sameName.symm, Option.some.injEq] at there
        rw [there]
        exact narrower
      · -- The names of the other fields are above that of the first one.
        have later : other.1 ∈ others.map Prod.fst := names ▸ List.mem_map_of_mem member
        obtain ⟨present, inside, sameKey⟩ := List.mem_map.mp later
        have distinct : field.1 ≠ other.1 := sameKey ▸ String.ne_of_lt (below present inside)
        simpa only [Fields.get?, if_neg distinct] using accepted other member

/-- A record type accepts another one exactly if they have the same fields and the type of each
accepts that of its namesake. -/
theorem accepts_record_iff (first : Fields.Ascending expected) (second : Fields.Ascending fields) :
    (Ty.record expected).accepts (.record fields) = true ↔
      List.Forall₂ FieldAccepts expected fields := by
  rw [accepts, Bool.and_eq_true, beq_iff_eq]
  constructor
  · rintro ⟨sameLength, accepted⟩
    exact forall₂_of_acceptsFields second
      (names_eq_of_acceptsFields first second sameLength accepted) accepted
  · intro each
    refine ⟨each.length_eq, (acceptsFields_iff expected).mpr fun entry member => ?_⟩
    obtain ⟨field, present, sameName, accepted⟩ := exists_mem_of_forall₂ each member
    exact ⟨field.2, sameName ▸ second.get?_of_mem present, accepted⟩

end

/-! ## Types that accept each other -/

theorem accepts_withoutOptionalAny (ty : Ty) (formed : ty.wellFormed = true) :
    ty.accepts ty.withoutOptionalAny = true ∧ ty.withoutOptionalAny.accepts ty = true := by
  induction ty with
  | array element ih =>
    rw [wellFormed] at formed
    rw [withoutOptionalAny, accepts, accepts]
    exact ih formed
  | optional inner ih =>
    obtain ⟨-, formed⟩ := wellFormed_optional_iff.mp formed
    by_cases known : inner = .any
    · subst known
      exact ⟨rfl, rfl⟩
    · rw [withoutOptionalAny_optional known, accepts, accepts]
      exact ih formed
  | record fields ih =>
    obtain ⟨ascending, formed⟩ := wellFormed_record_iff.mp formed
    rw [wellFormedFields_iff] at formed
    have sameLength : (Fields.mapValues withoutOptionalAny fields).length = fields.length :=
      List.length_map _
    simp only [withoutOptionalAny, fieldsWithoutOptionalAny_eq, accepts, Bool.and_eq_true,
      beq_iff_eq, acceptsFields_iff]
    refine ⟨⟨sameLength.symm, fun entry member => ?_⟩, ⟨sameLength, fun entry member => ?_⟩⟩
    · refine ⟨entry.2.withoutOptionalAny, ?_, (ih entry member (formed entry member)).1⟩
      rw [Fields.get?_mapValues, ascending.get?_of_mem member, Option.map_some]
    · obtain ⟨field, present, rfl⟩ := List.mem_map.mp member
      exact ⟨field.2, ascending.get?_of_mem present, (ih field present (formed field present)).2⟩
  | _ => exact ⟨rfl, rfl⟩

theorem withoutOptionalAny_of_accepts_any {ty : Ty} (formed : ty.wellFormed = true)
    (accepted : ty.accepts .any = true) : ty.withoutOptionalAny = .any := by
  cases ty with
  | any => rfl
  | optional inner =>
    rw [accepts] at accepted
    rw [eq_any_of_accepts_any accepted (wellFormed_optional_iff.mp formed).1]
    rfl
  | _ => simp [accepts, same] at accepted

theorem withoutOptionalAny_optional_congr {left right : Ty}
    (same : left.withoutOptionalAny = right.withoutOptionalAny)
    (first : left = .any → right = .any) (second : right = .any → left = .any) :
    (Ty.optional left).withoutOptionalAny = (Ty.optional right).withoutOptionalAny := by
  by_cases known : left = .any
  · rw [known, first known]
  · rw [withoutOptionalAny_optional known, withoutOptionalAny_optional (mt second known), same]

mutual

theorem withoutOptionalAny_eq_of_accepts : (left : Ty) → {right : Ty} → left.wellFormed = true →
    right.wellFormed = true → left.accepts right = true → right.accepts left = true →
    left.withoutOptionalAny = right.withoutOptionalAny
  | .any, right, _, formed, _, back => (withoutOptionalAny_of_accepts_any formed back).symm
  | .string, right, _, _, there, _ => by cases right <;> simp [accepts, same] at there; rfl
  | .boolean, right, _, _, there, _ => by cases right <;> simp [accepts, same] at there; rfl
  | .integer, right, _, _, there, _ => by cases right <;> simp [accepts, same] at there; rfl
  | .endpoint, right, _, _, there, _ => by cases right <;> simp [accepts, same] at there; rfl
  | .optional left, right, formed, others, there, back => by
    rcases exists_optional_of_accepts back with rfl | ⟨right, rfl, back⟩
    · exact withoutOptionalAny_of_accepts_any formed there
    · rw [accepts, required] at there
      obtain ⟨plain, formed⟩ := wellFormed_optional_iff.mp formed
      obtain ⟨bare, others⟩ := wellFormed_optional_iff.mp others
      -- The wrappers stay, unless `Any` is inside one of them and therefore inside both.
      refine withoutOptionalAny_optional_congr
        (withoutOptionalAny_eq_of_accepts left formed others there back)
        (fun known => ?_) (fun known => ?_)
      · exact eq_any_of_accepts_any (known ▸ back) bare
      · exact eq_any_of_accepts_any (known ▸ there) plain
  | .array left, right, formed, others, there, back => by
    obtain ⟨right, rfl, there⟩ := exists_array_of_accepts there
    rw [accepts] at back
    rw [wellFormed] at formed others
    rw [withoutOptionalAny, withoutOptionalAny,
      withoutOptionalAny_eq_of_accepts left formed others there back]
  | .record left, right, formed, others, there, back => by
    obtain ⟨right, rfl, -⟩ := exists_record_of_accepts there
    obtain ⟨first, formed⟩ := wellFormed_record_iff.mp formed
    obtain ⟨second, others⟩ := wellFormed_record_iff.mp others
    rw [accepts_record_iff first second] at there
    rw [accepts_record_iff second first] at back
    rw [withoutOptionalAny, withoutOptionalAny,
      fieldsWithoutOptionalAny_eq_of_accepts left formed others there back]

theorem fieldsWithoutOptionalAny_eq_of_accepts : (left : List (String × Ty)) →
    {right : List (String × Ty)} → wellFormedFields left = true → wellFormedFields right = true →
    List.Forall₂ FieldAccepts left right → List.Forall₂ FieldAccepts right left →
    fieldsWithoutOptionalAny left = fieldsWithoutOptionalAny right
  | [], [], _, _, _, _ => rfl
  | (_, ty) :: rest, (_, other) :: more, formed, others, .cons there theres, .cons back backs => by
    obtain ⟨rfl, there⟩ := there
    rw [wellFormedFields, Bool.and_eq_true] at formed others
    rw [fieldsWithoutOptionalAny, fieldsWithoutOptionalAny,
      withoutOptionalAny_eq_of_accepts ty formed.1 others.1 there back.2,
      fieldsWithoutOptionalAny_eq_of_accepts rest formed.2 others.2 theres backs]

end

/-- Well-formed types accept each other exactly if they differ in wrappers of `Any` alone. -/
theorem accept_each_other_iff {left right : Ty} (formed : left.wellFormed = true)
    (others : right.wellFormed = true) :
    (left.accepts right = true ∧ right.accepts left = true) ↔
      left.withoutOptionalAny = right.withoutOptionalAny := by
  constructor
  · rintro ⟨there, back⟩
    exact withoutOptionalAny_eq_of_accepts left formed others there back
  · intro same
    obtain ⟨leftDown, leftUp⟩ := accepts_withoutOptionalAny left formed
    obtain ⟨rightDown, rightUp⟩ := accepts_withoutOptionalAny right others
    rw [← same] at rightDown rightUp
    exact ⟨accepts_trans left leftDown rightUp, accepts_trans right rightDown leftUp⟩

theorem admits_of_admits_of_accepts {expected actual : Ty} {value : Value}
    (accepted : expected.accepts actual = true) (inhabits : actual.admits value = true) :
    expected.admits value = true := by
  rw [← admitsUnder_wide] at inhabits
  exact admits_of_accepts expected actual value accepted inhabits

/-- A record of a type may have further fields, and a field that it lacks counts as empty. -/
theorem admits_record_iff (declared : List (String × Ty)) (values : Fields Value) :
    (Ty.record declared).admits (.record values) = true ↔
      ∀ entry ∈ declared, entry.2.admits ((Fields.get? entry.1 values).getD .empty) = true := by
  rw [admits, admitsFields_iff]

/-- Acceptance is a preorder that membership respects. Well-formed types that accept each other are
the same up to optional `Any`. Record types are compared by the exact names of their fields, though
their values may have others and may lack some. -/
theorem accepts_preorder :
    (∀ ty : Ty, ty.wellFormed = true → ty.accepts ty = true) ∧
    (∀ wide middle narrow : Ty, wide.accepts middle = true → middle.accepts narrow = true →
      wide.accepts narrow = true) ∧
    (∀ left right : Ty, left.wellFormed = true → right.wellFormed = true →
      ((left.accepts right = true ∧ right.accepts left = true) ↔
        left.withoutOptionalAny = right.withoutOptionalAny)) ∧
    (∀ expected actual : Ty, expected.accepts actual = true →
      ∀ value : Value, actual.admits value = true → expected.admits value = true) ∧
    (∀ expected fields : Fields Ty, expected.Ascending → fields.Ascending →
      ((Ty.record expected).accepts (.record fields) = true ↔
        List.Forall₂ FieldAccepts expected fields)) ∧
    (∀ (declared : Fields Ty) (values : Fields Value),
      (Ty.record declared).admits (.record values) = true ↔
        ∀ entry ∈ declared, entry.2.admits ((Fields.get? entry.1 values).getD .empty) = true) := by
  refine ⟨accepts_self, fun wide _ _ => accepts_trans wide, ?_, ?_, ?_, admits_record_iff⟩
  · exact fun left right formed others => accept_each_other_iff formed others
  · exact fun expected actual accepted value => admits_of_admits_of_accepts accepted
  · exact fun expected fields first second => accepts_record_iff first second

/-- A port of any type or none is a port of any type, an integer is one, and a record need not have
a port. -/
theorem accepts_preorder_of_port :
    (Ty.record [("port", .any), ("scheme", .string)]).accepts
        (.record [("port", .any), ("scheme", .string)]) = true ∧
      ((Ty.record [("port", .optional .any), ("scheme", .string)]).accepts
          (.record [("port", .any), ("scheme", .string)]) = true ∧
        (Ty.record [("port", .any), ("scheme", .string)]).accepts
          (.record [("port", .optional .any), ("scheme", .string)]) = true) ∧
      (Ty.record [("port", .optional .any), ("scheme", .string)]).accepts
        (.record [("port", .integer), ("scheme", .string)]) = true ∧
      (Ty.record [("port", .any), ("scheme", .string)]).admits
        (.record [("host", .string "a"), ("scheme", .string "https")]) = true ∧
      List.Forall₂ FieldAccepts [("port", .any), ("scheme", .string)]
        [("port", .integer), ("scheme", .string)] := by
  obtain ⟨refl, trans, same, sound, fields, -⟩ := accepts_preorder
  have both := (same (.record [("port", .optional .any), ("scheme", .string)])
    (.record [("port", .any), ("scheme", .string)]) (by decide) (by decide)).mpr rfl
  have integer : (Ty.record [("port", .any), ("scheme", .string)]).accepts
      (.record [("port", .integer), ("scheme", .string)]) = true := by decide
  refine ⟨refl _ (by decide), both, trans _ _ _ both.1 integer, sound _ _ both.2 _ (by decide), ?_⟩
  exact (fields _ _ (by decide) (by decide)).mp integer

end EndpointResolution.Ty
