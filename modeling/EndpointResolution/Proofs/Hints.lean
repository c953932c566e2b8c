import EndpointResolution.Proofs.ExprNarrowing
import EndpointResolution.Proofs.Subexpressions
import EndpointResolution.Proofs.Subtypes

/-!
The hints of type errors. A hint names something to do about an expression that is not of the type
that is asked of it: to prove the expression set, or to select the set elements of an array. What is
to be done leaves the expression with a type of its own, and the hint helps exactly if that type is
accepted. In a place that asks for a type it always is. Over the array that a function is mapped
over it need not be, since there the hint is given for the form of the type alone.
-/
namespace EndpointResolution

/-- No wrapper is directly in another in the type of a name. -/
def Scope.Collapsed (scope : Scope Ty) : Prop :=
  ∀ name ty, scope.resolve name = some ty → ty.narrowsTo ty = true

namespace Expr

variable {scope : Scope Ty}

theorem collapsed_of_settle {expr : Expr} {result : Except TypingError Ty}
    (inside : ∀ ty, result = .ok ty → ty.narrowsTo ty = true) (ty : Ty)
    (settled : settle scope expr result = .ok ty) :
    ty.narrowsTo ty = true ∧ (scope.knows expr = true → ty.isOptional = false) := by
  obtain ⟨plain, typed, rfl⟩ := eq_ok_of_settle settled
  obtain ⟨bare, narrows⟩ := Ty.required_narrowsTo (inside plain typed)
  split
  next => exact ⟨narrows, fun _ => bare⟩
  next unknown => exact ⟨inside plain typed, fun known => absurd known unknown⟩

theorem narrowsTo_self_of_part {ty part : Ty} {path : Path} (collapsed : ty.narrowsTo ty = true)
    (reached : ty.part path = .ok part) : part.narrowsTo part = true := by
  obtain ⟨other, same, fits⟩ := Ty.part_of_narrowsTo collapsed reached
  cases reached.symm.trans same
  exact fits

section

-- In a mutual block the linter does not see that a theorem needs this for those it calls.
set_option linter.unusedSectionVars false

variable (collapsed : scope.Collapsed)
include collapsed

mutual

/-- Expressions in a scope of types with single wrappers have such types, and one without a wrapper
if they are known to be set. -/
theorem collapsed_of_check : (expr : Expr) → expr.Calls Function.ReturnsCollapsed →
    (ty : Ty) → expr.check scope = .ok ty →
    ty.narrowsTo ty = true ∧ (scope.knows expr = true → ty.isOptional = false)
  | .literal value location, _ => by
    rw [check]
    refine collapsed_of_settle fun ty typed => ?_
    obtain ⟨other, same, fits⟩ := literalTy_narrows value ty typed
    cases typed.symm.trans same
    exact fits
  | .template parts location, _ => by
    rw [check]
    refine collapsed_of_settle fun ty typed => ?_
    obtain ⟨⟨⟩, -, rfl⟩ := exists_of_map_eq_ok typed
    rfl
  | .tuple items location, calls => by
    rw [check]
    refine collapsed_of_settle fun ty typed => ?_
    obtain ⟨element, listed, rfl⟩ := exists_of_map_eq_ok typed
    rw [Ty.narrowsTo]
    exact narrowsTo_self_of_checkItems items calls element listed
  | .record fields location, calls => by
    rw [check]
    refine collapsed_of_settle fun ty typed => ?_
    obtain ⟨declared, listed, rfl⟩ := exists_of_map_eq_ok typed
    rw [Ty.narrowsTo]
    exact fieldsNarrowTo_self_of_checkFields fields calls declared listed
  | .reference name location, _ => by
    rw [check]
    refine collapsed_of_settle fun ty typed => ?_
    rw [referenceTy] at typed
    split at typed
    next bound => exact Except.ok.inj typed ▸ collapsed name _ bound
    · cases typed
  | .attribute target path location, calls => by
    intro ty checked
    rw [check] at checked
    split at checked
    · cases checked
    next whole found =>
      refine collapsed_of_settle (fun part reached => ?_) ty checked
      have inside := (collapsed_of_check target calls whole found).1
      exact narrowsTo_self_of_part inside (part_of_partTy reached)
  | .call function arguments location, calls => by
    rw [check]
    refine collapsed_of_settle fun ty invoked => ?_
    have typed := eq_ok_of_inInvocation invoked
    split at typed
    next =>
      split at typed
      · obtain ⟨⟨⟩, -, rfl⟩ := exists_of_map_eq_ok typed
        exact calls.1
      · cases typed
    next =>
      obtain ⟨argument, element, rfl, known, rfl⟩ := eq_of_checkFilter typed
      have inside := (collapsed_of_check argument calls.2.1 _ known).1
      rw [Ty.narrowsTo] at inside ⊢
      exact (Ty.required_narrowsTo inside).2
    next =>
      obtain ⟨target, text, place, path, whole, rfl, -, known, part⟩ := eq_of_checkAttribute typed
      have inside := (collapsed_of_check target calls.2.1 whole known).1
      exact narrowsTo_self_of_part inside part
  | .mapped function source arguments location, calls => by
    intro ty checked
    obtain ⟨-, -, -, -, -, -, -, -, -, rfl⟩ := check_mapped_iff.mp checked
    rw [Ty.narrowsTo]
    exact ⟨calls.1, fun _ => rfl⟩

theorem narrowsTo_self_of_checkItems : (items : List Expr) →
    AllCall Function.ReturnsCollapsed items → (element : Ty) →
    checkItems scope none items = .ok element → element.narrowsTo element = true
  | [], _, element, listed => by
    cases listed
    rfl
  | item :: rest, calls, element, listed => by
    rw [checkItems] at listed
    split at listed
    · cases listed
    next found known =>
      obtain ⟨rfl, -⟩ := checkItems_some_iff.mp listed
      exact (collapsed_of_check item calls.1 element known).1

theorem fieldsNarrowTo_self_of_checkFields : (fields : List (String × Expr)) →
    FieldsCall Function.ReturnsCollapsed fields → (declared : List (String × Ty)) →
    checkFields scope fields = .ok declared → Ty.fieldsNarrowTo declared declared = true
  | [], _, declared, listed => by
    cases listed
    rfl
  | (name, expr) :: rest, calls, declared, listed => by
    rw [checkFields] at listed
    split at listed
    · cases listed
    next ty known =>
      obtain ⟨others, more, rfl⟩ := exists_of_map_eq_ok listed
      rw [Ty.fieldsNarrowTo, beq_self_eq_true, Bool.true_and, Bool.and_eq_true]
      exact ⟨(collapsed_of_check expr calls.1 ty known).1,
        fieldsNarrowTo_self_of_checkFields rest calls.2 others more⟩

end

end

end Expr

/-! ## Demands -/

/-- What is asked of the type of an expression. -/
inductive Demand where
  /-- A place that asks for a type. -/
  | inPlace (place : Place) (expected : Ty)
  /-- The array that a function with this first argument is mapped over. -/
  | asSource (element : Ty)

namespace Demand

/-- The type that is asked for. -/
def expected : Demand → Ty
  | .inPlace _ expected => expected
  | .asSource element => .array element

/-- Accepts an expression of a type, or reports why not. -/
def accept (expr : Expr) (found : Ty) : Demand → Except TypingError Unit
  | .inPlace place expected => expr.accept place expected found
  | .asSource element => expr.acceptSource element found

/-- Checks an expression of a scope. -/
def check (scope : Scope Ty) (expr : Expr) (demand : Demand) : Except TypingError Unit :=
  match expr.check scope with
  | .error error => .error error
  | .ok found => demand.accept expr found

variable {demand : Demand} {expr : Expr} {scope : Scope Ty} {found : Ty} {error : TypingError}

theorem check_inPlace (place : Place) (expected : Ty) :
    (Demand.inPlace place expected).check scope expr = expr.expect scope place expected := rfl

theorem check_of_typed (typed : expr.check scope = .ok found) :
    demand.check scope expr = demand.accept expr found := by
  rw [check, typed]

theorem accept_eq_ok_iff :
    demand.accept expr found = .ok () ↔ demand.expected.accepts found = true := by
  constructor
  · intro accepted
    cases demand with
    | inPlace place expected => exact Expr.accepts_of_accept accepted
    | asSource element => exact Expr.accepts_of_acceptSource accepted
  · intro fits
    cases demand with
    | inPlace place expected => exact if_pos fits
    | asSource element => exact if_pos fits

end Demand

namespace Expr

variable {scope : Scope Ty}

/-- A call makes the demand of its position on each of its arguments. -/
theorem checkArguments_eq_demand (position : Nat) (ty : Ty) (others : List Ty) (argument : Expr)
    (rest : List Expr) :
    checkArguments scope position (ty :: others) (argument :: rest) =
      match (Demand.inPlace (.argument position) ty).check scope argument with
      | .error error => .error error
      | .ok () => checkArguments scope (position + 1) others rest := by
  rw [checkArguments, Demand.check]
  cases argument.check scope <;> rfl

/-- A mapped call makes the demand of its function on the array that it is mapped over. -/
theorem check_mapped_eq_demand {function : Function} {element : Ty} {others : List Ty}
    {arguments : List Expr} (signed : function.typing = .signature)
    (declared : function.arguments = element :: others)
    (counted : others.length = arguments.length) (source : Expr) (location : Location) :
    (Expr.mapped function source arguments location).check scope =
      settle scope (.mapped function source arguments location) (inInvocation function location
        (match (Demand.asSource element).check scope source with
        | .error error => .error error
        | .ok () =>
          (checkArguments scope 2 others arguments).map fun _ => .array function.returns)) := by
  simp only [check, signed, declared, counted, List.length_cons, ne_eq, not_true_eq_false,
    if_false, Demand.check]
  cases source.check scope <;> rfl

end Expr

/-! ## Hints -/

theorem getElem?_append_of_some {text : String} {position : Nat} {letter : Char}
    (found : text.toList[position]? = some letter) (more : String) :
    (text ++ more).toList[position]? = some letter := by
  rw [String.toList_append, List.getElem?_append_left, found]
  exact (List.getElem?_eq_some_iff.mp found).1

/-- The two hints differ in the first letter of what they say to use. -/
theorem Expr.assignHint_ne_selectHint (expr : Expr) : expr.assignHint ≠ expr.selectHint := by
  intro same
  have first : expr.assignHint.toList[5]? = some 'a' := by
    have letter : "use `assign` in a condition or `isSet(".toList[5]? = some 'a' := by decide
    exact getElem?_append_of_some (getElem?_append_of_some letter _) _
  have second : expr.selectHint.toList[5]? = some 's' := by
    have letter : "use `selectSet(".toList[5]? = some 's' := by decide
    exact getElem?_append_of_some (getElem?_append_of_some letter _) _
  rw [same, second] at first
  exact absurd first (by decide)

/-- What a hint says to do about an expression. -/
inductive Advice where
  /-- To prove the expression set. -/
  | prove
  /-- To select the set elements of the array. -/
  | select

namespace Advice

/-- The hint. -/
def text (expr : Expr) : Advice → String
  | .prove => expr.assignHint
  | .select => expr.selectHint

/-- The scope in which the advice has been followed. -/
def scope (expr : Expr) (before : Scope Ty) : Advice → Scope Ty
  | .prove => before.know expr
  | .select => before

/-- The expression that then stands in the place of the given one. -/
def expr (before : Expr) : Advice → Expr
  | .prove => before
  | .select => .call Function.selectSet [before] before.location

/-- The type of that expression, which depends on the one before. -/
def effect (found : Ty) : Advice → Ty
  | .prove => found.required
  | .select =>
    match found with
    | .array element => .array element.required
    | other => other

/-- The types about which a hint is given. -/
def Concerns (found : Ty) : Advice → Prop
  | .prove => ∃ inner, found = .optional inner
  | .select => ∃ inner, found = .array (.optional inner)

theorem text_injective {first second : Advice} (before : Expr)
    (same : first.text before = second.text before) : first = second := by
  cases first <;> cases second
  case prove.prove => rfl
  case prove.select => exact absurd same before.assignHint_ne_selectHint
  case select.prove => exact absurd same.symm before.assignHint_ne_selectHint
  case select.select => rfl

/-- Checks an expression after advice about it has been followed. -/
def follow (demand : Demand) (before : Scope Ty) (about : Expr) (advice : Advice) :
    Except TypingError Unit :=
  demand.check (advice.scope about before) (advice.expr about)

end Advice

@[simp] theorem TypingError.hint_locate (error : TypingError) (location : Location) :
    (error.locate location).hint = error.hint := by
  rw [locate]
  split <;> rfl

namespace Expr

variable {expr : Expr} {expected found : Ty} {error : TypingError} {hint : String}

@[simp] theorem hint_mismatch (expr : Expr) (place : Place) (expected found : Ty) :
    (mismatch expr place expected found).hint = none :=
  TypingError.hint_locate _ _

theorem eq_of_hintFor (silent : error.hint = none)
    (hinted : (hintFor expr expected found error).hint = some hint) :
    hint = expr.assignHint ∧ found = .optional expected := by
  unfold hintFor at hinted
  split at hinted
  · split at hinted
    next same => exact ⟨(Option.some.inj hinted).symm, congrArg Ty.optional same⟩
    · rw [silent] at hinted
      cases hinted
  · rw [silent] at hinted
    cases hinted

theorem exists_of_mapHintFor (silent : error.hint = none)
    (hinted : (mapHintFor expr found error).hint = some hint) :
    ∃ advice : Advice, hint = advice.text expr ∧ advice.Concerns found := by
  unfold mapHintFor at hinted
  split at hinted
  · exact ⟨.prove, (Option.some.inj hinted).symm, _, rfl⟩
  · exact ⟨.select, (Option.some.inj hinted).symm, _, rfl⟩
  · rw [silent] at hinted
    cases hinted

/-- In a place that asks for a type a hint is given if a wrapper is all that is wrong. -/
theorem eq_of_hint_of_accept {place : Place}
    (rejected : accept expr place expected found = .error error)
    (hinted : error.hint = some hint) : hint = expr.assignHint ∧ found = .optional expected := by
  rw [accept] at rejected
  split at rejected
  · cases rejected
  · cases rejected
    exact eq_of_hintFor (hint_mismatch expr place expected found) hinted

/-- Over the array of a mapped call a hint is given for any wrapper around it or its elements. -/
theorem exists_of_hint_of_acceptSource {element : Ty}
    (rejected : acceptSource expr element found = .error error)
    (hinted : error.hint = some hint) :
    ∃ advice : Advice, hint = advice.text expr ∧ advice.Concerns found := by
  rw [acceptSource] at rejected
  split at rejected
  · cases rejected
  · cases rejected
    exact exists_of_mapHintFor (hint_mismatch expr .mapSource (.array element) found) hinted

/-- To select the set elements of an array takes the wrapper of its elements away. -/
theorem check_selectSet {scope : Scope Ty} {element : Ty}
    (typed : expr.check scope = .ok (.array element)) (location : Location) :
    (Expr.call Function.selectSet [expr] location).check scope = .ok (.array element.required) := by
  have filters : Function.selectSet.typing = .arrayFilter := rfl
  simp only [check, filters, checkFilter, typed, filteredTy, inInvocation, settle]
  exact congrArg Except.ok (ite_self _)

end Expr

namespace Demand

variable {demand : Demand} {expr : Expr} {scope : Scope Ty} {found : Ty} {error : TypingError}

theorem exists_advice {hint : String} (rejected : demand.accept expr found = .error error)
    (hinted : error.hint = some hint) :
    ∃ advice : Advice, hint = advice.text expr ∧ advice.Concerns found := by
  cases demand with
  | inPlace place expected =>
    obtain ⟨text, form⟩ := Expr.eq_of_hint_of_accept rejected hinted
    exact ⟨.prove, text, expected, form⟩
  | asSource element => exact Expr.exists_of_hint_of_acceptSource rejected hinted

theorem concerns_of_hint {advice : Advice} (rejected : demand.accept expr found = .error error)
    (hinted : error.hint = some (advice.text expr)) : advice.Concerns found := by
  obtain ⟨given, same, concerns⟩ := exists_advice rejected hinted
  cases Advice.text_injective expr same
  exact concerns

/-- An expression that was known to be set before stays rejected after it has been proved set. -/
theorem follow_prove_eq_ok_iff (typed : expr.check scope = .ok found)
    (rejected : demand.accept expr found = .error error) :
    Advice.prove.follow demand scope expr = .ok () ↔
      scope.knows expr = false ∧ demand.expected.accepts found.required = true := by
  have known := expr.check_know_self scope
  cases before : scope.knows expr with
  | true =>
    rw [before, if_pos rfl, typed] at known
    rw [Advice.follow, Advice.scope, Advice.expr, check_of_typed known, rejected]
    simp
  | false =>
    rw [before, if_neg (by decide), typed] at known
    rw [Advice.follow, Advice.scope, Advice.expr, check_of_typed known, accept_eq_ok_iff]
    simp

theorem follow_select_eq_ok_iff {element : Ty} (typed : expr.check scope = .ok (.array element)) :
    Advice.select.follow demand scope expr = .ok () ↔
      demand.expected.accepts (.array element.required) = true := by
  have selected := Expr.check_selectSet typed expr.location
  rw [Advice.follow, Advice.scope, Advice.expr, check_of_typed selected, accept_eq_ok_iff]

/-- Advice that is given helps exactly if the type that it leaves is accepted. -/
theorem follow_eq_ok_iff {advice : Advice} (typed : expr.check scope = .ok found)
    (rejected : demand.accept expr found = .error error)
    (hinted : error.hint = some (advice.text expr)) :
    advice.follow demand scope expr = .ok () ↔
      (advice = .prove → scope.knows expr = false) ∧
        demand.expected.accepts (advice.effect found) = true := by
  have concerns := concerns_of_hint rejected hinted
  cases advice with
  | prove => simpa [Advice.effect] using follow_prove_eq_ok_iff typed rejected
  | select =>
    obtain ⟨inner, rfl⟩ := concerns
    simpa [Advice.effect] using follow_select_eq_ok_iff typed

/-- In a place that asks for a type, advice always helps where types are as they are built: no
wrapper is in another, and the names of fields ascend. -/
theorem follow_inPlace {place : Place} {expected : Ty} {advice : Advice}
    (collapsed : scope.Collapsed) (calls : expr.Calls Function.ReturnsCollapsed)
    (ordered : expected.ordered = true) (typed : expr.check scope = .ok found)
    (rejected : (inPlace place expected).accept expr found = .error error)
    (hinted : error.hint = some (advice.text expr)) :
    advice.follow (inPlace place expected) scope expr = .ok () := by
  obtain ⟨text, rfl⟩ := Expr.eq_of_hint_of_accept rejected hinted
  obtain rfl : advice = .prove := Advice.text_injective expr text
  refine (follow_prove_eq_ok_iff typed rejected).mpr ⟨?_, expected.accepts_self_of_ordered ordered⟩
  refine Bool.eq_false_iff.mpr fun known => ?_
  have bare := (Expr.collapsed_of_check collapsed expr calls _ typed).2 known
  cases bare

end Demand

/-- Every hint is advice, and the advice helps exactly if the type that it leaves is accepted, where
to prove an expression set leaves it as it is if it was known to be set. In a place that asks for a
type the advice always helps, as long as types are as they are built. -/
theorem Demand.hint_actionable_iff {demand : Demand} {scope : Scope Ty} {expr : Expr} {found : Ty}
    {error : TypingError} (typed : expr.check scope = .ok found)
    (rejected : demand.check scope expr = .error error) :
    (∀ hint, error.hint = some hint →
      ∃ advice : Advice, hint = advice.text expr ∧ advice.Concerns found) ∧
    (∀ advice : Advice, error.hint = some (advice.text expr) →
      (advice.follow demand scope expr = .ok () ↔
        (advice = .prove → scope.knows expr = false) ∧
          demand.expected.accepts (advice.effect found) = true)) ∧
    (∀ place expected, demand = .inPlace place expected → expected.ordered = true →
      scope.Collapsed → expr.Calls Function.ReturnsCollapsed →
      ∀ advice : Advice, error.hint = some (advice.text expr) →
        advice.follow demand scope expr = .ok ()) := by
  rw [check_of_typed typed] at rejected
  refine ⟨fun hint hinted => exists_advice rejected hinted,
    fun advice hinted => follow_eq_ok_iff typed rejected hinted, ?_⟩
  rintro place expected rfl ordered collapsed calls advice hinted
  exact follow_inPlace collapsed calls ordered typed rejected hinted

/-- An array of strings that may be missing can be proved set, and a function of a string can then
be mapped over it. -/
theorem Demand.hint_actionable_iff_of_list :
    Advice.prove.follow (.asSource .string)
      (Scope.empty.insert "list" (.optional (.array .string))) (.reference "list" .unknown) =
        .ok () := by
  obtain ⟨-, helps, -⟩ := hint_actionable_iff
    (show (Expr.reference "list" .unknown).check
      (Scope.empty.insert "list" (.optional (.array .string))) = .ok _ from rfl)
    (show (Demand.asSource .string).check _ _ = .error _ from rfl)
  exact (helps .prove rfl).mpr ⟨fun _ => rfl, by decide⟩

/-- Not every hint helps: a function cannot be mapped over a string, whether it is set or not, but
the hint about an optional string is to prove it set. -/
theorem Demand.exists_hint_not_actionable :
    ¬ ∀ (demand : Demand) (scope : Scope Ty) (expr : Expr) (found : Ty) (error : TypingError)
      (advice : Advice), expr.check scope = .ok found → demand.check scope expr = .error error →
      error.hint = some (advice.text expr) → advice.follow demand scope expr = .ok () := by
  intro claim
  have helps := claim (.asSource .string) (Scope.empty.insert "Region" (.optional .string))
    (.reference "Region" .unknown) _ _ .prove rfl rfl rfl
  have accepted := ((follow_prove_eq_ok_iff rfl rfl).mp helps).2
  exact absurd accepted (by decide)

end EndpointResolution
