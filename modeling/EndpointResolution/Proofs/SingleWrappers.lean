import EndpointResolution.Proofs.Hints
import EndpointResolution.Proofs.ScopeEffects

/-!
Types whose optional wrappers are single. A type is assembled in many places: from literals with
empty items, along paths through optional records, in results of mapped calls, and where a wrapper
is taken off because an expression is known to be set. None of them puts a wrapper directly in
another, as long as nothing in scope and no result of a function is such a type. In particular what
the result of a condition is bound with, which has its outermost wrapper taken off, has none left.
-/
namespace EndpointResolution

namespace Ty

mutual

/-- No optional wrapper is directly in another, anywhere in the type. -/
def collapsed : Ty → Bool
  | .optional inner => !inner.isOptional && collapsed inner
  | .array element => collapsed element
  | .record fields => fieldsCollapsed fields
  | _ => true

/-- No optional wrapper is directly in another in the types of the fields. -/
def fieldsCollapsed : List (String × Ty) → Bool
  | [] => true
  | (_, ty) :: rest => collapsed ty && fieldsCollapsed rest

end

mutual

/-- The types with single wrappers are those that narrow to themselves. -/
theorem narrowsTo_self_iff : (ty : Ty) → (ty.narrowsTo ty = true ↔ ty.collapsed = true)
  | .optional inner => by
    rw [narrowsTo_optional_iff, required, narrowsTo_self_iff inner, collapsed, Bool.and_eq_true,
      Bool.not_eq_true']
  | .array element => by rw [narrowsTo, narrowsTo_self_iff element, collapsed]
  | .record fields => by rw [narrowsTo, fieldsNarrowTo_self_iff fields, collapsed]
  | .string | .boolean | .integer | .endpoint | .any => by decide

theorem fieldsNarrowTo_self_iff : (fields : List (String × Ty)) →
    (fieldsNarrowTo fields fields = true ↔ fieldsCollapsed fields = true)
  | [] => by decide
  | (name, ty) :: rest => by
    rw [fieldsNarrowTo, beq_self_eq_true, Bool.true_and, fieldsCollapsed, Bool.and_eq_true,
      Bool.and_eq_true, narrowsTo_self_iff ty, fieldsNarrowTo_self_iff rest]

end

/-- A type that the result of a condition may be bound with: its wrappers are single, none of them
is outermost, and something is known about its values. -/
structure Bindable (ty : Ty) : Prop where
  collapsed : ty.collapsed = true
  plain : ty.isOptional = false
  specific : ty ≠ .any

/-- Without its outermost wrapper a type with single wrappers has no outermost one. -/
theorem bindable_required {ty : Ty} (collapsed : ty.collapsed = true)
    (specific : ty.required ≠ .any) : ty.required.Bindable := by
  obtain ⟨plain, narrows⟩ := required_narrowsTo ((narrowsTo_self_iff ty).mpr collapsed)
  exact ⟨(narrowsTo_self_iff _).mp narrows, plain, specific⟩

end Ty

namespace Scope

section

universe u

variable {α : Type u} {property : α → Prop} {scope : Scope α}

/-- Whatever a name is bound to in one of the frames has the property, also where a frame further in
binds the name again. -/
def Each (property : α → Prop) (scope : Scope α) : Prop :=
  ∀ frame ∈ scope.frames, ∀ entry ∈ frame.bindings, property entry.2

theorem Each.of_resolve (each : scope.Each property) {name : String} {bound : α}
    (found : scope.resolve name = some bound) : property bound := by
  obtain ⟨frame, present, here⟩ := List.exists_of_findSome?_eq_some found
  exact each frame present _ (Fields.mem_of_get? here)

theorem Each.extend (each : scope.Each property) {bindings : List (String × α)}
    (added : ∀ entry ∈ bindings, property entry.2) (facts : List Expr) :
    (scope.extend bindings facts).Each property := by
  obtain ⟨inner, outer⟩ := List.forall_mem_cons.mp each
  refine List.forall_mem_cons.mpr ⟨?_, outer⟩
  refine List.foldlRecOn bindings _ (motive := fun fields : Fields α => ∀ entry ∈ fields,
    property entry.2) inner fun fields earlier entry member other present => ?_
  rcases Fields.mem_insert present with rfl | old
  · exact added entry member
  · exact earlier other old

end

variable {scope after : Scope Ty}

theorem Each.narrowing (each : scope.Each (·.collapsed = true)) : scope.Collapsed :=
  fun _ ty found => (Ty.narrowsTo_self_iff ty).mpr (each.of_resolve found)

/-- The second scope is the first with more facts and more names in its innermost frame, all of them
of types that the result of a condition may be bound with. -/
def GrowsTo (scope after : Scope Ty) : Prop :=
  ∃ bindings facts, after = scope.extend bindings facts ∧ ∀ entry ∈ bindings, entry.2.Bindable

theorem growsTo_extend {bindings : List (String × Ty)}
    (added : ∀ entry ∈ bindings, entry.2.Bindable) (facts : List Expr) :
    scope.GrowsTo (scope.extend bindings facts) :=
  ⟨bindings, facts, rfl, added⟩

theorem GrowsTo.each (grows : scope.GrowsTo after) (each : scope.Each (·.collapsed = true)) :
    after.Each (·.collapsed = true) := by
  obtain ⟨bindings, facts, rfl, added⟩ := grows
  exact each.extend (fun entry member => (added entry member).collapsed) facts

end Scope

section

variable {registry : Registry}
  (returns : ∀ function, registry.Has function → function.returns.collapsed = true)
  {scope : Scope Ty}
include returns

theorem Expr.collapsed_check (each : scope.Each (·.collapsed = true)) {expr : Expr}
    (calls : expr.Calls registry.Has) {ty : Ty} (checked : expr.check scope = .ok ty) :
    ty.collapsed = true := by
  have results : ∀ function, registry.Has function → function.ReturnsCollapsed :=
    fun function present => (Ty.narrowsTo_self_iff _).mpr (returns function present)
  have narrows := collapsed_of_check each.narrowing expr (Calls.mono results expr calls) ty checked
  exact (Ty.narrowsTo_self_iff ty).mp narrows.1

namespace Condition

variable {bindings : List (String × Ty)} {facts : List Expr}

theorem bindable_of_acceptedWith {condition : Condition} (each : scope.Each (·.collapsed = true))
    (calls : condition.test.Calls registry.Has)
    (accepted : condition.AcceptedWith scope bindings facts) :
    ∀ entry ∈ bindings, entry.2.Bindable := by
  obtain ⟨ty, checked, rfl, -⟩ := accepted
  rw [typedResult]
  split
  next => nofun
  next specific =>
    intro entry member
    rw [resultAs, Option.mem_toList, Option.map_eq_some_iff] at member
    obtain ⟨name, -, rfl⟩ := member
    exact Ty.bindable_required (Expr.collapsed_check returns each calls checked) specific

theorem check_grows {condition : Condition} (each : scope.Each (·.collapsed = true))
    (calls : condition.test.Calls registry.Has) : scope.GrowsTo (condition.check scope).2 := by
  rw [check_eq]
  cases checked : condition.test.check scope with
  | error report => exact ⟨[], [], rfl, nofun⟩
  | ok ty =>
    have accepted : condition.AcceptedWith scope _ _ := ⟨ty, checked, rfl, rfl⟩
    exact Scope.growsTo_extend (bindable_of_acceptedWith returns each calls accepted) _

/-- Each of the conditions finds single wrappers, since those before it have bound no others. -/
theorem bindable_of_inTurn {conditions : List Condition} (each : scope.Each (·.collapsed = true))
    (calls : ∀ condition ∈ conditions, condition.test.Calls registry.Has)
    (taken : InTurn AcceptedWith conditions scope bindings facts) :
    ∀ entry ∈ bindings, entry.2.Bindable := by
  induction taken with
  | nil scope => nofun
  | cons first others ih =>
    obtain ⟨here, later⟩ := List.forall_mem_cons.mp calls
    have added := bindable_of_acceptedWith returns each here first
    have kept := ih ((Scope.growsTo_extend added _).each each) later
    exact List.forall_mem_append.mpr ⟨added, kept⟩

end Condition

theorem Rule.check_grows {rule : Rule} (each : scope.Each (·.collapsed = true))
    (calls : ∀ condition ∈ rule.conditions, condition.test.Calls registry.Has) :
    scope.GrowsTo (rule.check scope).2 := by
  obtain ⟨bindings, facts, left, after⟩ := Condition.checkAll_leave rule.conditions scope
  obtain ⟨before, rest, parts, taken, -⟩ := left
  rw [parts] at calls
  have added := Condition.bindable_of_inTurn returns each
    (fun condition member => calls condition (List.mem_append_left rest member)) taken
  rw [check_scope, after]
  exact Scope.growsTo_extend added facts

end

/-- Wrappers stay single. In a scope whose types have single wrappers, shadowed ones included, the
types of expressions and of conditions have single wrappers. A condition and a rule, whether they are
accepted or not, bind names only to types without an outermost wrapper that are not `Any`, so that
the types in scope still have single wrappers. The types of literals have them in any case. -/
theorem types_stay_collapsed {registry : Registry}
    (returns : ∀ function, registry.Has function → function.returns.collapsed = true)
    {scope : Scope Ty} (each : scope.Each (·.collapsed = true)) :
    (∀ expr : Expr, expr.Calls registry.Has →
      ∀ ty, expr.check scope = .ok ty → ty.collapsed = true) ∧
    (∀ condition : Condition, condition.test.Calls registry.Has →
      (∀ ty, (condition.check scope).1 = .ok ty → ty.collapsed = true) ∧
        scope.GrowsTo (condition.check scope).2 ∧
        (condition.check scope).2.Each (·.collapsed = true)) ∧
    (∀ rule : Rule, (∀ condition ∈ rule.conditions, condition.test.Calls registry.Has) →
      scope.GrowsTo (rule.check scope).2 ∧ (rule.check scope).2.Each (·.collapsed = true)) ∧
    (∀ (value : Value) (ty : Ty), value.literalTy? = some ty → ty.collapsed = true) := by
  refine ⟨fun expr calls ty => Expr.collapsed_check returns each calls, ?_, ?_, ?_⟩
  · intro condition calls
    have grows := Condition.check_grows returns each calls
    refine ⟨fun ty accepted => ?_, grows, grows.each each⟩
    rw [Condition.check] at accepted
    split at accepted
    next => cases accepted
    next other checked =>
      cases accepted
      exact Expr.collapsed_check returns each calls checked
  · intro rule calls
    have grows := Rule.check_grows returns each calls
    exact ⟨grows, grows.each each⟩
  · exact fun value ty typed => (Ty.narrowsTo_self_iff ty).mp (value.literalTy_narrowsTo_self typed)

/-- Labels that may be missing, each of which may be empty. -/
def Scope.labelled : Scope Ty :=
  Scope.empty.insert "Labels" (.optional (.array (.optional .string)))

/-- Names the first of them. -/
def Condition.namesFirst : Condition :=
  ⟨.call .getAttr [.reference "Labels" .unknown, .string "[0]"] .unknown, some "First"⟩

/-- Two wrappers on the way to it make one, and the name is bound without that. -/
theorem types_stay_collapsed_of_namesFirst :
    ∃ after, Condition.namesFirst.check Scope.labelled = (.ok (.optional .string), after) ∧
      (Ty.optional .string).collapsed = true ∧ after.resolve "First" = some .string ∧
      Scope.labelled.GrowsTo after ∧ after.Each (·.collapsed = true) := by
  have returns : ∀ function, Registry.standard.Has function → function.returns.collapsed = true :=
    fun function present =>
      (Ty.narrowsTo_self_iff _).mp (Registry.standard_returnsCollapsed function present)
  have each : Scope.labelled.Each (·.collapsed = true) := by
    simp [Scope.Each, Scope.labelled, Scope.frames, Scope.empty, Scope.insert, Frame.empty,
      Fields.insert, Ty.collapsed, Ty.isOptional]
  obtain ⟨-, conditions, -, -⟩ := types_stay_collapsed returns each
  obtain ⟨collapsed, grows, kept⟩ := conditions .namesFirst ⟨rfl, trivial, trivial, trivial⟩
  exact ⟨_, rfl, collapsed _ rfl, rfl, grows, kept⟩

end EndpointResolution
