import EndpointResolution.Expr.Template
import EndpointResolution.Proofs.Agreement
import EndpointResolution.Proofs.Sequence
import Mathlib.Data.List.Forall2

/-!
Mapped calls. A function mapped over a tuple has the same value as the tuple of its calls on the
items. The further arguments are evaluated once in the one and with every item in the other, which
changes which failure comes first and nothing else; where there is no item they are not evaluated
at all in the other. Where nothing is known to be set, the tuple of calls also has the type of the
mapped call.
-/
namespace EndpointResolution

/-- Two relations between lists in a row relate the items one by one. -/
theorem forall₂_comp_iff {α β γ : Type} {R : α → β → Prop} {S : β → γ → Prop} {items : List α}
    {results : List γ} :
    List.Forall₂ (fun item result => ∃ between, R item between ∧ S between result) items results ↔
      ∃ middle, List.Forall₂ R items middle ∧ List.Forall₂ S middle results := by
  constructor
  · intro each
    induction each with
    | nil => exact ⟨[], .nil, .nil⟩
    | cons here _ ih =>
      obtain ⟨between, first, second⟩ := here
      obtain ⟨middle, firsts, seconds⟩ := ih
      exact ⟨between :: middle, .cons first firsts, .cons second seconds⟩
  · rintro ⟨middle, firsts, seconds⟩
    induction firsts generalizing results with
    | nil =>
      cases seconds
      exact .nil
    | cons first _ ih =>
      cases seconds with
      | cons second seconds => exact .cons ⟨_, first, second⟩ (ih seconds)

theorem Function.applyEach_eq_mapM (function : Function) (others elements : List Value) :
    function.applyEach others elements =
      elements.mapM fun element => function.apply (element :: others) := by
  induction elements with
  | nil => rfl
  | cons element rest ih => rw [applyEach_cons, ih, mapM_cons_eq_bind]

namespace Expr

section

variable {scope : Scope Value} {items arguments : List Expr}

theorem evalAll_eq_mapM (scope : Scope Value) (items : List Expr) :
    evalAll scope items = items.mapM fun item => item.eval scope := by
  induction items with
  | nil => rfl
  | cons item rest ih => rw [evalAll_cons, ih, mapM_cons_eq_bind]

theorem eval_tuple_eq_ok_iff {location : Location} {value : Value} :
    (Expr.tuple items location).eval scope = .ok value ↔
      ∃ results, evalAll scope items = .ok results ∧ .array results = value := by
  rw [eval, map_eq_ok_iff]

/-- The call of a function on an item and further arguments. -/
def callOn (function : Function) (arguments : List Expr) (place : Expr → Location) (item : Expr) :
    Expr :=
  .call function (item :: arguments) (place item)

variable {function : Function} {place : Expr → Location}

theorem eval_callOn_eq_ok_iff {item : Expr} {others : List Value} {result : Value}
    (given : evalAll scope arguments = .ok others) :
    (callOn function arguments place item).eval scope = .ok result ↔
      ∃ element, item.eval scope = .ok element ∧
        function.apply (element :: others) = .ok result := by
  simp only [callOn, eval_call, evalAll_cons, given, Except.map, bind_eq_ok_iff, Except.ok.injEq]
  grind

/-- The calls have results exactly if the items have values on which the function has results. -/
theorem evalAll_map_callOn_iff {others results : List Value}
    (given : evalAll scope arguments = .ok others) :
    evalAll scope (items.map (callOn function arguments place)) = .ok results ↔
      ∃ elements, evalAll scope items = .ok elements ∧
        function.applyEach others elements = .ok results := by
  simp only [evalAll_eq_mapM, Function.applyEach_eq_mapM, mapM_eq_ok_iff, List.forall₂_map_left_iff,
    eval_callOn_eq_ok_iff given, forall₂_comp_iff]

/-- Where there is an item, the calls have results only if the further arguments have values. -/
theorem exists_arguments_of_evalAll_map_callOn (nonempty : items ≠ []) {results : List Value}
    (executed : evalAll scope (items.map (callOn function arguments place)) = .ok results) :
    ∃ others, evalAll scope arguments = .ok others := by
  obtain ⟨item, rest, rfl⟩ := List.exists_cons_of_ne_nil nonempty
  rw [List.map_cons, evalAll_cons, callOn, eval_call, evalAll_cons] at executed
  obtain ⟨_, here, -⟩ := bind_eq_ok_iff.mp executed
  obtain ⟨_, all, -⟩ := bind_eq_ok_iff.mp here
  obtain ⟨_, -, later⟩ := bind_eq_ok_iff.mp all
  obtain ⟨others, given, -⟩ := map_eq_ok_iff.mp later
  exact ⟨others, given⟩

theorem eval_mapped_tuple_eq_ok_iff {inner outer : Location} {value : Value} :
    (Expr.mapped function (.tuple items inner) arguments outer).eval scope = .ok value ↔
      ∃ others elements results, evalAll scope arguments = .ok others ∧
        evalAll scope items = .ok elements ∧ function.applyEach others elements = .ok results ∧
        .array results = value := by
  simp only [eval_mapped, bind_eq_ok_iff, eval_tuple_eq_ok_iff]
  constructor
  · rintro ⟨others, given, _, ⟨elements, executed, rfl⟩, applied⟩
    obtain ⟨results, each, rfl⟩ := map_eq_ok_iff.mp applied
    exact ⟨others, elements, results, given, executed, each, rfl⟩
  · rintro ⟨others, elements, results, given, executed, each, rfl⟩
    exact ⟨others, given, _, ⟨elements, executed, rfl⟩, map_eq_ok_iff.mpr ⟨results, each, rfl⟩⟩

/-- A function mapped over a tuple has the value of the tuple of its calls on the items. -/
theorem eval_mapped_tuple (nonempty : items ≠ []) (inner outer whole : Location) (value : Value) :
    (Expr.mapped function (.tuple items inner) arguments outer).eval scope = .ok value ↔
      (Expr.tuple (items.map (callOn function arguments place)) whole).eval scope = .ok value := by
  rw [eval_mapped_tuple_eq_ok_iff, eval_tuple_eq_ok_iff]
  constructor
  · rintro ⟨others, elements, results, given, executed, each, rfl⟩
    exact ⟨results, (evalAll_map_callOn_iff given).mpr ⟨elements, executed, each⟩, rfl⟩
  · rintro ⟨results, called, rfl⟩
    obtain ⟨others, given⟩ := exists_arguments_of_evalAll_map_callOn nonempty called
    obtain ⟨elements, executed, each⟩ := (evalAll_map_callOn_iff given).mp called
    exact ⟨others, elements, results, given, executed, each, rfl⟩

end

section

variable {types : Scope Ty} {items arguments : List Expr}

/-- A tuple with items has a type exactly if these have one type. -/
theorem check_tuple_iff (nonempty : items ≠ []) {location : Location} {ty : Ty} :
    (Expr.tuple items location).check types = .ok ty ↔
      ∃ element, ty = .array element ∧ ∀ item ∈ items, item.check types = .ok element := by
  have settled : ∀ element : Ty, settle types (.tuple items location) (.ok (.array element)) =
      .ok (.array element) := fun element => congrArg Except.ok (ite_self _)
  have listed : ∀ element : Ty, checkItems types none items = .ok element ↔
      ∀ item ∈ items, item.check types = .ok element := by
    intro element
    obtain ⟨item, rest, rfl⟩ := List.exists_cons_of_ne_nil nonempty
    rw [checkItems, List.forall_mem_cons]
    cases item.check types with
    | error report => simp
    | ok found =>
      simp only [checkItems_some_iff, Except.ok.injEq]
      constructor
      · rintro ⟨rfl, each⟩
        exact ⟨rfl, each⟩
      · rintro ⟨rfl, each⟩
        exact ⟨rfl, each⟩
  rw [check]
  simp only [← listed]
  cases checkItems types none items with
  | error report => simp [settle, Except.map]
  | ok element => simp [Except.map, settled, eq_comm]

/-- The position of the first argument matters to reports only. -/
theorem checkArguments_position {first second : Nat} {expected : List Ty}
    (accepted : checkArguments types first expected arguments = .ok ()) :
    checkArguments types second expected arguments = .ok () := by
  induction arguments generalizing first second expected with
  | nil => rw [checkArguments]
  | cons argument rest ih =>
    cases expected with
    | nil => rw [checkArguments]
    | cons ty others =>
      rw [checkArguments] at accepted ⊢
      split at accepted
      · cases accepted
      next found known =>
        split at accepted
        · cases accepted
        next fits => simp only [accept, accepts_of_accept fits, if_true, ih accepted]

/-- Where nothing is known to be set, a call by the signature of its function has the type of the
results. -/
theorem check_call_of_arguments (unknown : types.facts = []) {function : Function}
    (signed : function.typing = .signature)
    (sameLength : function.arguments.length = arguments.length)
    (given : checkArguments types 1 function.arguments arguments = .ok ()) (location : Location) :
    (Expr.call function arguments location).check types = .ok function.returns := by
  simp [check, signed, sameLength, given, Except.map, inInvocation, settle,
    Scope.knows_of_facts unknown]

/-- Where nothing is known to be set, the tuple of the calls on the items has the type of the mapped
call. -/
theorem check_tuple_callOn_of_mapped (unknown : types.facts = []) (nonempty : items ≠ [])
    {function : Function} {inner outer : Location} {ty : Ty}
    (checked : (Expr.mapped function (.tuple items inner) arguments outer).check types = .ok ty)
    (place : Expr → Location) (whole : Location) :
    (Expr.tuple (items.map (callOn function arguments place)) whole).check types = .ok ty := by
  obtain ⟨wanted, others, found, signed, declared, sameLength, known, accepted, given, rfl⟩ :=
    check_mapped_iff.mp checked
  obtain ⟨element, rfl, each⟩ := (check_tuple_iff nonempty).mp known
  have fits : wanted.accepts element = true := by rwa [Ty.accepts] at accepted
  refine (check_tuple_iff (by simpa using nonempty)).mpr ⟨function.returns, rfl, ?_⟩
  intro call member
  obtain ⟨item, present, rfl⟩ := List.mem_map.mp member
  refine check_call_of_arguments unknown signed (by simp [declared, sameLength]) ?_ _
  rw [declared, checkArguments, each item present]
  simp only [accept, fits, if_true]
  exact checkArguments_position given

end

/-- A function that is typed by its signature can be mapped over a tuple with items. The mapped call
has a value exactly if the tuple of the calls on the items has it. Where nothing is known to be set,
a type of the mapped call is the type of this tuple too. -/
theorem mapped_elementwise {function : Function} (signed : function.typing = .signature)
    {items : List Expr} (nonempty : items ≠ []) (arguments : List Expr) (place : Expr → Location)
    (inner whole : Location) :
    ∃ mapped, Expr.mappedOver function (.tuple items inner) arguments = .ok mapped ∧
      (∀ values value, mapped.eval values = .ok value ↔
        (Expr.tuple (items.map (callOn function arguments place)) whole).eval values = .ok value) ∧
      ∀ types, types.facts = [] → ∀ ty, mapped.check types = .ok ty →
        (Expr.tuple (items.map (callOn function arguments place)) whole).check types = .ok ty := by
  refine ⟨.mapped function (.tuple items inner) arguments inner, ?_, ?_, ?_⟩
  · rw [mappedOver, if_pos signed]
    rfl
  · exact fun values value => eval_mapped_tuple nonempty inner inner whole value
  · exact fun types unknown ty checked =>
      check_tuple_callOn_of_mapped unknown nonempty checked place whole

/-- A zone and the region are compared with one text. -/
theorem mapped_elementwise_of_zones :
    ∃ mapped, Expr.mappedOver .stringEquals
        (.tuple [.string "a", .reference "Region" .unknown] .unknown) [.reference "Zone" .unknown] =
          .ok mapped ∧
      (Expr.tuple [.call .stringEquals [.string "a", .reference "Zone" .unknown] .unknown,
          .call .stringEquals [.reference "Region" .unknown, .reference "Zone" .unknown] .unknown]
        .unknown).eval
          ((Scope.empty.insert "Region" (.string "b")).insert "Zone" (.string "a")) =
            .ok (.array [.boolean true, .boolean false]) ∧
      (Expr.tuple [.call .stringEquals [.string "a", .reference "Zone" .unknown] .unknown,
          .call .stringEquals [.reference "Region" .unknown, .reference "Zone" .unknown] .unknown]
        .unknown).check ((Scope.empty.insert "Region" .string).insert "Zone" .string) =
          .ok (.array .boolean) := by
  obtain ⟨mapped, built, same, typed⟩ := @mapped_elementwise .stringEquals rfl
    [.string "a", .reference "Region" .unknown] nofun [.reference "Zone" .unknown]
    (fun _ => .unknown) .unknown .unknown
  cases built
  exact ⟨_, rfl, (same _ _).mp (by cbv), typed _ rfl _ (by cbv)⟩

end Expr
end EndpointResolution
