import EndpointResolution.Typing.Expr
import EndpointResolution.Proofs.Likeness

/-!
Expressions without their source locations. Two expressions are alike exactly if nothing but
locations and functions of one name tells them apart, so that likeness is an equivalence. The check
of an expression without its locations reports what the check of the expression does, without the
locations, so that alike expressions are accepted with one type or refused in the same words.
-/
namespace EndpointResolution

namespace Expr

mutual

/-- The expression without source locations, and with other functions in place of the ones it
calls. -/
def erase (change : Function → Function) : Expr → Expr
  | .literal value _ => .literal value .unknown
  | .template parts _ => .template (eraseParts change parts) .unknown
  | .tuple items _ => .tuple (eraseAll change items) .unknown
  | .record fields _ => .record (eraseFields change fields) .unknown
  | .reference name _ => .reference name .unknown
  | .attribute target path _ => .attribute (erase change target) path .unknown
  | .call function arguments _ => .call (change function) (eraseAll change arguments) .unknown
  | .mapped function source arguments _ =>
    .mapped (change function) (erase change source) (eraseAll change arguments) .unknown

/-- The template with every placeholder erased. -/
def eraseParts (change : Function → Function) : List (TemplatePart Expr) → List (TemplatePart Expr)
  | [] => []
  | .text text :: rest => .text text :: eraseParts change rest
  | .hole expr :: rest => .hole (erase change expr) :: eraseParts change rest

/-- The expressions, each erased. -/
def eraseAll (change : Function → Function) : List Expr → List Expr
  | [] => []
  | expr :: rest => erase change expr :: eraseAll change rest

/-- The fields with the expression of each erased. -/
def eraseFields (change : Function → Function) : List (String × Expr) → List (String × Expr)
  | [] => []
  | (name, expr) :: rest => (name, erase change expr) :: eraseFields change rest

end

/-- The expression without source locations. -/
def unlocated (expr : Expr) : Expr :=
  expr.erase id

/-- The expression without source locations, in which a function is nothing but its name. -/
def bare (expr : Expr) : Expr :=
  expr.erase fun function =>
    { id := function.id, arguments := [], returns := .any, typing := .signature,
      rule := fun _ => .ok .empty }

section

-- In a mutual block the linter does not see that a theorem needs this for those it calls.
set_option linter.unusedSectionVars false

variable {property : Function → Prop} {change : Function → Function}
  (separates : ∀ f g, property f → property g → (f.id = g.id ↔ change f = change g))
include separates

mutual

/-- Expressions are alike exactly if they are the same once erased, as long as functions of different
names stay different and those of one name become the same. -/
theorem alike_iff_erase : (a b : Expr) → a.Calls property → b.Calls property →
    (a.alike b = true ↔ a.erase change = b.erase change)
  | .literal _ _, b, _, _ => by
    cases b <;> simp [alike, erase, Value.same_iff]
  | .template ps _, b, calls, others => by
    cases b with
    | template qs _ => simp [alike, erase, alikeParts_iff_erase ps qs calls others]
    | _ => simp [alike, erase]
  | .tuple as _, b, calls, others => by
    cases b with
    | tuple bs _ => simp [alike, erase, alikeAll_iff_erase as bs calls others]
    | _ => simp [alike, erase]
  | .record as _, b, calls, others => by
    cases b with
    | record bs _ => simp [alike, erase, alikeFields_iff_erase as bs calls others]
    | _ => simp [alike, erase]
  | .reference _ _, b, _, _ => by
    cases b <;> simp [alike, erase]
  | .attribute a _ _, b, calls, others => by
    match b, others with
    | .attribute b _ _, others => simp [alike, erase, alike_iff_erase a b calls others]
    | .literal _ _, _ | .template _ _, _ | .tuple _ _, _ | .record _ _, _ | .reference _ _, _
    | .call _ _ _, _ | .mapped _ _ _ _, _ => simp [alike, erase]
  | .call f as _, b, calls, others => by
    cases b with
    | call g bs _ =>
      simp [alike, erase, separates f g calls.1 others.1,
        alikeAll_iff_erase as bs calls.2 others.2]
    | _ => simp [alike, erase]
  | .mapped f a as _, b, calls, others => by
    cases b with
    | mapped g b bs _ =>
      simp [alike, erase, and_assoc, separates f g calls.1 others.1,
        alike_iff_erase a b calls.2.1 others.2.1, alikeAll_iff_erase as bs calls.2.2 others.2.2]
    | _ => simp [alike, erase]

theorem alikeParts_iff_erase : (ps qs : List (TemplatePart Expr)) → PartsCall property ps →
    PartsCall property qs → (alikeParts ps qs = true ↔ eraseParts change ps = eraseParts change qs)
  | [], qs, _, _ => by
    match qs with
    | [] | .text _ :: _ | .hole _ :: _ => simp [alikeParts, eraseParts]
  | .text _ :: ps, qs, calls, others => by
    match qs with
    | [] | .hole _ :: _ => simp [alikeParts, eraseParts]
    | .text _ :: qs =>
      simp only [alikeParts, eraseParts, Bool.and_eq_true, beq_iff_eq, List.cons.injEq,
        TemplatePart.text.injEq, alikeParts_iff_erase ps qs calls others]
  | .hole a :: ps, qs, calls, others => by
    match qs with
    | [] | .text _ :: _ => simp [alikeParts, eraseParts]
    | .hole b :: qs =>
      simp only [alikeParts, eraseParts, Bool.and_eq_true, List.cons.injEq,
        TemplatePart.hole.injEq, alike_iff_erase a b calls.1 others.1,
        alikeParts_iff_erase ps qs calls.2 others.2]

theorem alikeAll_iff_erase : (as bs : List Expr) → AllCall property as → AllCall property bs →
    (alikeAll as bs = true ↔ eraseAll change as = eraseAll change bs)
  | [], bs, _, _ => by
    cases bs <;> simp [alikeAll, eraseAll]
  | a :: as, bs, calls, others => by
    cases bs with
    | nil => simp [alikeAll, eraseAll]
    | cons b bs =>
      simp only [alikeAll, eraseAll, Bool.and_eq_true, List.cons.injEq,
        alike_iff_erase a b calls.1 others.1, alikeAll_iff_erase as bs calls.2 others.2]

theorem alikeFields_iff_erase : (as bs : List (String × Expr)) → FieldsCall property as →
    FieldsCall property bs →
    (alikeFields as bs = true ↔ eraseFields change as = eraseFields change bs)
  | [], bs, _, _ => by
    cases bs <;> simp [alikeFields, eraseFields]
  | (n, a) :: as, bs, calls, others => by
    cases bs with
    | nil => simp [alikeFields, eraseFields]
    | cons entry bs =>
      obtain ⟨m, b⟩ := entry
      simp only [alikeFields, eraseFields, Bool.and_eq_true, beq_iff_eq, List.cons.injEq,
        Prod.mk.injEq, alike_iff_erase a b calls.1 others.1,
        alikeFields_iff_erase as bs calls.2 others.2]

end

end

mutual

theorem erase_erase (first second : Function → Function) :
    (expr : Expr) → (expr.erase first).erase second = expr.erase (second ∘ first)
  | .literal _ _ => rfl
  | .template parts _ => by simp only [erase, eraseParts_eraseParts first second parts]
  | .tuple items _ => by simp only [erase, eraseAll_eraseAll first second items]
  | .record fields _ => by simp only [erase, eraseFields_eraseFields first second fields]
  | .reference _ _ => rfl
  | .attribute target _ _ => by simp only [erase, erase_erase first second target]
  | .call _ arguments _ => by
    simp only [erase, eraseAll_eraseAll first second arguments, Function.comp_apply]
  | .mapped _ source arguments _ => by
    simp only [erase, erase_erase first second source, eraseAll_eraseAll first second arguments,
      Function.comp_apply]

theorem eraseParts_eraseParts (first second : Function → Function) :
    (parts : List (TemplatePart Expr)) →
    eraseParts second (eraseParts first parts) = eraseParts (second ∘ first) parts
  | [] => rfl
  | .text _ :: rest => by simp only [eraseParts, eraseParts_eraseParts first second rest]
  | .hole expr :: rest => by
    simp only [eraseParts, erase_erase first second expr, eraseParts_eraseParts first second rest]

theorem eraseAll_eraseAll (first second : Function → Function) : (exprs : List Expr) →
    eraseAll second (eraseAll first exprs) = eraseAll (second ∘ first) exprs
  | [] => rfl
  | expr :: rest => by
    simp only [eraseAll, erase_erase first second expr, eraseAll_eraseAll first second rest]

theorem eraseFields_eraseFields (first second : Function → Function) :
    (fields : List (String × Expr)) →
    eraseFields second (eraseFields first fields) = eraseFields (second ∘ first) fields
  | [] => rfl
  | (_, expr) :: rest => by
    simp only [eraseFields, erase_erase first second expr,
      eraseFields_eraseFields first second rest]

end

/-! ## Likeness -/

mutual

theorem calls_of_forall {property : Function → Prop} (each : ∀ function, property function) :
    (expr : Expr) → expr.Calls property
  | .literal _ _ => trivial
  | .template parts _ => partsCall_of_forall each parts
  | .tuple items _ => allCall_of_forall each items
  | .record fields _ => fieldsCall_of_forall each fields
  | .reference _ _ => trivial
  | .attribute target _ _ => calls_of_forall each target
  | .call function arguments _ => ⟨each function, allCall_of_forall each arguments⟩
  | .mapped function source arguments _ =>
    ⟨each function, calls_of_forall each source, allCall_of_forall each arguments⟩

theorem partsCall_of_forall {property : Function → Prop} (each : ∀ function, property function) :
    (parts : List (TemplatePart Expr)) → PartsCall property parts
  | [] => trivial
  | .text _ :: rest => partsCall_of_forall each rest
  | .hole expr :: rest => ⟨calls_of_forall each expr, partsCall_of_forall each rest⟩

theorem allCall_of_forall {property : Function → Prop} (each : ∀ function, property function) :
    (exprs : List Expr) → AllCall property exprs
  | [] => trivial
  | expr :: rest => ⟨calls_of_forall each expr, allCall_of_forall each rest⟩

theorem fieldsCall_of_forall {property : Function → Prop} (each : ∀ function, property function) :
    (fields : List (String × Expr)) → FieldsCall property fields
  | [] => trivial
  | (_, expr) :: rest => ⟨calls_of_forall each expr, fieldsCall_of_forall each rest⟩

end

theorem alike_iff_bare {a b : Expr} : a.alike b = true ↔ a.bare = b.bare := by
  have trivially : ∀ expr : Expr, expr.Calls fun _ => True := calls_of_forall fun _ => trivial
  refine alike_iff_erase (fun f g _ _ => ?_) a b (trivially a) (trivially b)
  simp

/-- Alike expressions of one registry are the same without their locations. -/
theorem unlocated_eq_of_alike {registry : Registry} {a b : Expr} (similar : a.alike b = true)
    (calls : a.Calls registry.Has) (others : b.Calls registry.Has) : a.unlocated = b.unlocated := by
  refine (alike_iff_erase (fun f g hasF hasG => ?_) a b calls others).mp similar
  exact ⟨hasF.eq_of_id hasG, congrArg Function.id⟩

theorem bare_unlocated (expr : Expr) : expr.unlocated.bare = expr.bare :=
  erase_erase _ _ expr

end Expr

/-- Alike expressions are known to be set in the same scopes. -/
theorem Scope.knows_congr {α : Type} (scope : Scope α) {a b : Expr} (same : a.bare = b.bare) :
    scope.knows a = scope.knows b := by
  have each : a.alike = b.alike := by
    funext fact
    rw [Bool.eq_iff_iff, Expr.alike_iff_bare, Expr.alike_iff_bare, same]
  rw [knows, knows, each]

namespace Expr

section

-- As above.
set_option linter.unusedSectionVars false

variable {change : Function → Function} (keeps : ∀ function, (change function).id = function.id)
include keeps

mutual

/-- Locations are not printed. -/
theorem display_erase : (expr : Expr) → (expr.erase change).display = expr.display
  | .literal _ _ => rfl
  | .template parts _ => by simp only [erase, display, displayParts_erase parts]
  | .tuple items _ => by simp only [erase, display, displayAll_erase items]
  | .record fields _ => by simp only [erase, display, displayFields_erase fields]
  | .reference _ _ => rfl
  | .attribute target _ _ => by simp only [erase, display, display_erase target]
  | .call function arguments _ => by
    simp only [erase, display, keeps function, displayAll_erase arguments]
  | .mapped function source arguments _ => by
    simp only [erase, display, keeps function, display_erase source, displayAll_erase arguments]

theorem displayParts_erase : (parts : List (TemplatePart Expr)) →
    displayParts (eraseParts change parts) = displayParts parts
  | [] => rfl
  | .text _ :: rest => by simp only [eraseParts, displayParts, displayParts_erase rest]
  | .hole expr :: rest => by
    simp only [eraseParts, displayParts, display_erase expr, displayParts_erase rest]

theorem displayAll_erase : (exprs : List Expr) →
    displayAll (eraseAll change exprs) = displayAll exprs
  | [] => rfl
  | expr :: rest => by simp only [eraseAll, displayAll, display_erase expr, displayAll_erase rest]

theorem displayFields_erase : (fields : List (String × Expr)) →
    displayFields (eraseFields change fields) = displayFields fields
  | [] => rfl
  | (_, expr) :: rest => by
    simp only [eraseFields, displayFields, display_erase expr, displayFields_erase rest]

end

end

end Expr

/-! ## Reports -/

namespace TypingError

/-- The report without its locations. -/
def unlocated (error : TypingError) : TypingError where
  message := error.message
  hint := error.hint
  location := .unknown
  context := error.context.map fun entry => (entry.1, .unknown)

theorem unlocated_locate (error : TypingError) (location : Location) :
    (error.locate location).unlocated = error.unlocated := by
  unfold locate
  split <;> rfl

theorem locate_unlocated (error : TypingError) :
    error.unlocated.locate .unknown = error.unlocated := rfl

theorem unlocated_withHint (error : TypingError) (hint : String) :
    (error.withHint hint).unlocated = error.unlocated.withHint hint := rfl

theorem unlocated_within (error : TypingError) (description : String) (location : Location) :
    (error.within description location).unlocated =
      error.unlocated.within description .unknown := by
  simp [within, unlocated]

end TypingError

/-- A result, or the report without its locations. -/
def withoutLocations {α : Type} (result : Except TypingError α) : Except TypingError α :=
  result.mapError TypingError.unlocated

namespace Expr

variable {α : Type} {scope : Scope Ty}

@[simp] theorem withoutLocations_ok (result : α) :
    withoutLocations (.ok result) = .ok result := rfl

@[simp] theorem withoutLocations_error (error : TypingError) :
    withoutLocations (.error error : Except TypingError α) = .error error.unlocated := rfl

theorem withoutLocations_map {β : Type} (result : Except TypingError α) (change : α → β) :
    withoutLocations (result.map change) = (withoutLocations result).map change := by
  cases result <;> rfl

theorem location_unlocated (expr : Expr) : expr.unlocated.location = .unknown := by
  cases expr <;> rfl

theorem settle_unlocated (expr : Expr) (result : Except TypingError Ty) :
    settle scope expr.unlocated (withoutLocations result) =
      withoutLocations (settle scope expr result) := by
  cases result with
  | error report =>
    simp only [settle, withoutLocations_error, location_unlocated, TypingError.unlocated_locate,
      TypingError.locate_unlocated]
  | ok ty =>
    simp only [settle, withoutLocations_ok, scope.knows_congr (bare_unlocated expr)]

theorem inInvocation_unlocated (function : Function) (location : Location)
    (result : Except TypingError Ty) :
    inInvocation function .unknown (withoutLocations result) =
      withoutLocations (inInvocation function location result) := by
  cases result with
  | error report =>
    simp only [inInvocation, withoutLocations_error, TypingError.unlocated_within,
      TypingError.unlocated_locate, TypingError.locate_unlocated]
  | ok ty => rfl

theorem display_unlocated (expr : Expr) : expr.unlocated.display = expr.display :=
  display_erase (fun _ => rfl) expr

theorem mismatch_unlocated (expr : Expr) (place : Place) (expected found : Ty) :
    mismatch expr.unlocated place expected found =
      (mismatch expr place expected found).unlocated := by
  rw [mismatch, mismatch, TypingError.unlocated_locate]
  cases expr <;> rfl

theorem assignHint_unlocated (expr : Expr) : expr.unlocated.assignHint = expr.assignHint := by
  unfold assignHint
  rw [display_unlocated]

theorem selectHint_unlocated (expr : Expr) : expr.unlocated.selectHint = expr.selectHint := by
  unfold selectHint
  rw [display_unlocated]

theorem hintFor_unlocated (expr : Expr) (expected found : Ty) (error : TypingError) :
    hintFor expr.unlocated expected found error.unlocated =
      (hintFor expr expected found error).unlocated := by
  cases found with
  | optional inner =>
    rw [hintFor, hintFor, assignHint_unlocated]
    split
    · exact (error.unlocated_withHint expr.assignHint).symm
    · rfl
  | _ => rfl

theorem accept_unlocated (expr : Expr) (place : Place) (expected found : Ty) :
    accept expr.unlocated place expected found =
      withoutLocations (accept expr place expected found) := by
  unfold accept
  split
  · rfl
  · rw [mismatch_unlocated, hintFor_unlocated, withoutLocations_error]

theorem mapHintFor_unlocated (expr : Expr) (found : Ty) (error : TypingError) :
    mapHintFor expr.unlocated found error.unlocated = (mapHintFor expr found error).unlocated := by
  unfold mapHintFor
  split
  · rw [assignHint_unlocated, TypingError.unlocated_withHint]
  · rw [selectHint_unlocated, TypingError.unlocated_withHint]
  · rfl

theorem acceptSource_unlocated (expr : Expr) (element found : Ty) :
    acceptSource expr.unlocated element found =
      withoutLocations (acceptSource expr element found) := by
  unfold acceptSource
  split
  · rfl
  · rw [mismatch_unlocated, mapHintFor_unlocated, withoutLocations_error]

theorem filteredTy_unlocated (function : Function) (expr : Expr) (found : Ty) :
    filteredTy function expr.unlocated found =
      withoutLocations (filteredTy function expr found) := by
  cases found with
  | array element => rfl
  | _ => simp only [filteredTy, mismatch_unlocated, withoutLocations_error]

theorem literalPath_unlocated (expr : Expr) :
    literalPath expr.unlocated = withoutLocations (literalPath expr) := by
  have spelled : expr.unlocated.stringLiteral? = expr.stringLiteral? := by
    cases expr with
    | literal value place => cases value <;> rfl
    | _ => rfl
  rw [literalPath, literalPath, spelled]
  cases expr.stringLiteral? with
  | none =>
    simp only [withoutLocations_error, TypingError.unlocated_locate, location_unlocated]
    rfl
  | some text =>
    simp only
    cases Path.parse text <;> rfl

theorem length_eraseAll (change : Function → Function) (exprs : List Expr) :
    (eraseAll change exprs).length = exprs.length := by
  induction exprs with
  | nil => rfl
  | cons expr rest ih => rw [eraseAll, List.length_cons, List.length_cons, ih]

theorem withoutLocations_partTy (ty : Ty) (path : Path) :
    withoutLocations (partTy ty path) = partTy ty path := by
  rw [partTy]
  cases ty.part path <;> rfl

theorem withoutLocations_literalTy (value : Value) :
    withoutLocations (literalTy value) = literalTy value := by
  rw [literalTy]
  cases value.literalTy? <;> rfl

theorem withoutLocations_referenceTy (name : String) :
    withoutLocations (referenceTy scope name) = referenceTy scope name := by
  rw [referenceTy]
  cases scope.resolve name <;> rfl

mutual

/-- The check of an expression without its locations has the same result, without locations. -/
theorem check_unlocated (scope : Scope Ty) :
    (expr : Expr) → expr.unlocated.check scope = withoutLocations (expr.check scope)
  | .literal value location => by
    rw [check, ← settle_unlocated, withoutLocations_literalTy]
    rfl
  | .template parts location => by
    rw [check, ← settle_unlocated, withoutLocations_map, ← checkParts_unlocated scope parts]
    rfl
  | .tuple items location => by
    rw [check, ← settle_unlocated, withoutLocations_map, ← checkItems_unlocated scope none items]
    rfl
  | .record fields location => by
    rw [check, ← settle_unlocated, withoutLocations_map, ← checkFields_unlocated scope fields]
    rfl
  | .reference name location => by
    rw [check, ← settle_unlocated, withoutLocations_referenceTy]
    rfl
  | .attribute target path location => by
    have inside := check_unlocated scope target
    rw [unlocated, erase, check, check]
    rw [unlocated] at inside
    rw [inside]
    cases target.check scope with
    | error report => rfl
    | ok ty =>
      simp only [withoutLocations_ok]
      rw [← settle_unlocated, withoutLocations_partTy]
      rfl
  | .call function arguments location => by
    rw [check, ← settle_unlocated, ← inInvocation_unlocated, unlocated, erase, check]
    refine congrArg (settle scope _) (congrArg (inInvocation function .unknown) ?_)
    simp only [id_eq, length_eraseAll, checkFilter_unlocated scope function arguments,
      checkAttribute_unlocated scope arguments,
      checkArguments_unlocated scope 1 function.arguments arguments]
    cases function.typing with
    | signature =>
      simp only
      split
      · rw [withoutLocations_map]
      · rfl
    | arrayFilter | «attribute» => rfl
  | .mapped function source arguments location => by
    have inside := check_unlocated scope source
    rw [check, ← settle_unlocated, ← inInvocation_unlocated, unlocated, erase, check]
    refine congrArg (settle scope _) (congrArg (inInvocation function .unknown) ?_)
    rw [unlocated] at inside
    simp only [id_eq, length_eraseAll, inside]
    split
    · rfl
    split
    · rfl
    split
    · rfl
    next element others _ =>
      cases source.check scope with
      | error report => rfl
      | ok found =>
        have accepted := acceptSource_unlocated source element found
        rw [unlocated] at accepted
        simp only [withoutLocations_ok, accepted, checkArguments_unlocated scope 2 others arguments]
        cases acceptSource source element found with
        | error report => rfl
        | ok fits => exact (withoutLocations_map _ _).symm

theorem checkParts_unlocated (scope : Scope Ty) : (parts : List (TemplatePart Expr)) →
    checkParts scope (eraseParts id parts) = withoutLocations (checkParts scope parts)
  | [] => rfl
  | .text _ :: rest => by
    rw [eraseParts, checkParts, checkParts, checkParts_unlocated scope rest]
  | .hole expr :: rest => by
    have here := check_unlocated scope expr
    rw [eraseParts, checkParts, checkParts, checkParts_unlocated scope rest]
    rw [← unlocated, here, display_unlocated]
    cases expr.check scope with
    | error report => rfl
    | ok found =>
      simp only [withoutLocations_ok, accept_unlocated]
      cases accept expr (.hole expr.display) .string found <;> rfl

theorem checkItems_unlocated (scope : Scope Ty) (first : Option Ty) : (items : List Expr) →
    checkItems scope first (eraseAll id items) = withoutLocations (checkItems scope first items)
  | [] => rfl
  | item :: rest => by
    have here := check_unlocated scope item
    rw [eraseAll, checkItems, checkItems, ← unlocated, here]
    cases item.check scope with
    | error report => rfl
    | ok found =>
      cases first with
      | none => exact checkItems_unlocated scope (some found) rest
      | some ty =>
        simp only [withoutLocations_ok, checkItems_unlocated scope (some ty) rest]
        split
        · rfl
        · rw [withoutLocations_error, TypingError.unlocated_locate, location_unlocated]
          rfl

theorem checkFields_unlocated (scope : Scope Ty) : (fields : List (String × Expr)) →
    checkFields scope (eraseFields id fields) = withoutLocations (checkFields scope fields)
  | [] => rfl
  | (name, expr) :: rest => by
    have here := check_unlocated scope expr
    rw [eraseFields, checkFields, checkFields, ← unlocated, here,
      checkFields_unlocated scope rest]
    cases expr.check scope with
    | error report => rfl
    | ok ty => exact (withoutLocations_map _ _).symm

theorem checkArguments_unlocated (scope : Scope Ty) (position : Nat) (expected : List Ty) :
    (arguments : List Expr) → checkArguments scope position expected (eraseAll id arguments) =
      withoutLocations (checkArguments scope position expected arguments)
  | [] => by
    rw [eraseAll, checkArguments]
    rfl
  | argument :: rest => by
    have here := check_unlocated scope argument
    cases expected with
    | nil =>
      rw [eraseAll, checkArguments, checkArguments]
      rfl
    | cons ty others =>
      rw [eraseAll, checkArguments, checkArguments, ← unlocated, here,
        checkArguments_unlocated scope (position + 1) others rest]
      cases argument.check scope with
      | error report => rfl
      | ok found =>
        simp only [withoutLocations_ok, accept_unlocated]
        cases accept argument (.argument position) ty found <;> rfl

theorem checkFilter_unlocated (scope : Scope Ty) (function : Function) :
    (arguments : List Expr) → checkFilter scope function (eraseAll id arguments) =
      withoutLocations (checkFilter scope function arguments)
  | [] => rfl
  | [argument] => by
    have here := check_unlocated scope argument
    rw [eraseAll, eraseAll, checkFilter, checkFilter, ← unlocated, here]
    cases argument.check scope with
    | error report => rfl
    | ok found => exact filteredTy_unlocated function argument found
  | _ :: _ :: rest => by
    simp only [eraseAll, checkFilter, List.length_cons, length_eraseAll]
    rfl

theorem checkAttribute_unlocated (scope : Scope Ty) : (arguments : List Expr) →
    checkAttribute scope (eraseAll id arguments) =
      withoutLocations (checkAttribute scope arguments)
  | [] => rfl
  | [_] => rfl
  | [target, path] => by
    have here := check_unlocated scope target
    rw [eraseAll, eraseAll, eraseAll, checkAttribute, checkAttribute, ← unlocated, ← unlocated,
      here, literalPath_unlocated]
    cases target.check scope with
    | error report => rfl
    | ok found =>
      cases literalPath path with
      | error report => rfl
      | ok steps => exact (withoutLocations_partTy found steps).symm
  | _ :: _ :: _ :: rest => by
    simp only [eraseAll, checkAttribute, List.length_cons, length_eraseAll]
    rfl

end

/-- Two results that are one but for locations are one type, or two reports in the same words. -/
theorem sameWords_of_withoutLocations {first second : Except TypingError Ty}
    (same : withoutLocations first = withoutLocations second) :
    (∃ ty, first = .ok ty ∧ second = .ok ty) ∨
    ∃ error other, first = .error error ∧ second = .error other ∧ error.message = other.message ∧
      error.hint = other.hint ∧ error.context.map Prod.fst = other.context.map Prod.fst := by
  match first, second with
  | .ok ty, .ok other =>
    cases same
    exact .inl ⟨ty, rfl, rfl⟩
  | .ok _, .error _ | .error _, .ok _ => cases same
  | .error error, .error other =>
    have erased : error.unlocated = other.unlocated := Except.error.inj same
    have message : error.unlocated.message = other.unlocated.message := by rw [erased]
    have hint : error.unlocated.hint = other.unlocated.hint := by rw [erased]
    have context : error.unlocated.context.map Prod.fst = other.unlocated.context.map Prod.fst := by
      rw [erased]
    refine .inr ⟨error, other, rfl, rfl, message, hint, ?_⟩
    simpa [TypingError.unlocated, Function.comp_def] using context

/-- Alike expressions of one registry mean the same: in a scope of values they have the same value or
the same failure, in a scope of types they have the same type or are refused in the same words, and
where one is known to be set, so is the other. -/
theorem alike_congruence {registry : Registry} {a b : Expr} (similar : a.alike b = true)
    (calls : a.Calls registry.Has) (others : b.Calls registry.Has) :
    (∀ scope : Scope Value, a.eval scope = b.eval scope) ∧
    (∀ scope : Scope Ty,
      (∃ ty, a.check scope = .ok ty ∧ b.check scope = .ok ty) ∨
      ∃ error other, a.check scope = .error error ∧ b.check scope = .error other ∧
        error.message = other.message ∧ error.hint = other.hint ∧
        error.context.map Prod.fst = other.context.map Prod.fst) ∧
    (∀ (α : Type) (scope : Scope α), scope.knows a = scope.knows b) := by
  refine ⟨fun scope => eval_eq_of_alike scope a b similar calls others, fun scope => ?_,
    fun α scope => scope.knows_congr (alike_iff_bare.mp similar)⟩
  apply sameWords_of_withoutLocations
  rw [← check_unlocated, ← check_unlocated, unlocated_eq_of_alike similar calls others]

/-- Whether a name is bound to `aws`, with the locations of the call and of the name. -/
def isAws (call name : Location) : Expr :=
  .call .stringEquals [.reference "Region" name, .string "aws"] call

/-- An optional name is refused in the same words at two places of a file. -/
theorem alike_congruence_of_isAws :
    ∃ error other,
      (isAws ⟨"rules.json", 3, 5⟩ ⟨"rules.json", 3, 20⟩).check
        (Scope.empty.insert "Region" (.optional .string)) = .error error ∧
      (isAws ⟨"rules.json", 9, 5⟩ .unknown).check
        (Scope.empty.insert "Region" (.optional .string)) = .error other ∧
      error.location ≠ other.location ∧ error.message = other.message ∧
      error.hint = other.hint ∧ error.hint ≠ none := by
  have calls : ∀ call name, (isAws call name).Calls Registry.standard.Has :=
    fun _ _ => ⟨rfl, trivial, trivial, trivial⟩
  have similar : (isAws ⟨"rules.json", 3, 5⟩ ⟨"rules.json", 3, 20⟩).alike
    (isAws ⟨"rules.json", 9, 5⟩ .unknown) = true := alike_iff_bare.mpr rfl
  obtain ⟨-, checked, -⟩ := alike_congruence similar (calls _ _) (calls _ _)
  rcases checked (Scope.empty.insert "Region" (.optional .string)) with
    ⟨ty, accepted, -⟩ | ⟨error, other, first, second, message, hint, -⟩
  · cases accepted
  · refine ⟨error, other, first, second, ?_, message, hint, ?_⟩
    · cases first
      cases second
      decide
    · cases first
      nofun

end Expr
end EndpointResolution
