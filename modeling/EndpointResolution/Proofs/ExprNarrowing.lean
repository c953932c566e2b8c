import EndpointResolution.Proofs.Narrowing

/-!
Expressions in narrower scopes. Where the names have narrower types and more is known to be set,
every expression that has a type still has one, and a narrower one. The items of a tuple have to have
the same type, which may be lost, so that tuples with several items are left out.
-/
namespace EndpointResolution

namespace Scope

/-- Every name has a narrower type in the second scope, and all that is known to be set in the first
is known there. -/
structure Narrows (wide narrow : Scope Ty) : Prop where
  typed : ∀ name ty, wide.resolve name = some ty →
    ∃ other, narrow.resolve name = some other ∧ ty.narrowsTo other = true
  known : ∀ expr, wide.knows expr = true → narrow.knows expr = true

namespace Narrows

variable {wide narrow : Scope Ty} (narrows : wide.Narrows narrow)
include narrows

theorem push : wide.push.Narrows narrow.push where
  typed := by simpa using narrows.typed
  known := by simpa using narrows.known

theorem insert {ty other : Ty} (name : String) (narrower : ty.narrowsTo other = true) :
    (wide.insert name ty).Narrows (narrow.insert name other) where
  typed bound found := by
    intro resolved
    by_cases same : bound = name
    · subst same
      rw [resolve_insert_self] at resolved
      cases resolved
      exact ⟨other, resolve_insert_self _ _ _, narrower⟩
    · rw [resolve_insert_of_ne same] at resolved ⊢
      exact narrows.typed bound found resolved
  known := by simpa using narrows.known

theorem know_right (fact : Expr) : wide.Narrows (narrow.know fact) where
  typed := narrows.typed
  known expr recorded := by
    rw [knows_know, narrows.known expr recorded, Bool.or_true]

theorem know (fact : Expr) : (wide.know fact).Narrows (narrow.know fact) where
  typed := narrows.typed
  known expr recorded := by
    rw [knows_know, Bool.or_eq_true] at recorded ⊢
    exact recorded.imp_right (narrows.known expr)

end Narrows

end Scope

namespace Expr

mutual

/-- No tuple in the expression has two or more items. -/
def SmallTuples : Expr → Prop
  | .literal _ _ => True
  | .template parts _ => PartsSmall parts
  | .tuple items _ => items.length < 2 ∧ AllSmall items
  | .record fields _ => FieldsSmall fields
  | .reference _ _ => True
  | .attribute target _ _ => SmallTuples target
  | .call _ arguments _ => AllSmall arguments
  | .mapped _ source arguments _ => SmallTuples source ∧ AllSmall arguments

/-- No tuple in a placeholder has two or more items. -/
def PartsSmall : List (TemplatePart Expr) → Prop
  | [] => True
  | .text _ :: rest => PartsSmall rest
  | .hole expr :: rest => SmallTuples expr ∧ PartsSmall rest

/-- No tuple in one of the expressions has two or more items. -/
def AllSmall : List Expr → Prop
  | [] => True
  | expr :: rest => SmallTuples expr ∧ AllSmall rest

/-- No tuple in the expression of a field has two or more items. -/
def FieldsSmall : List (String × Expr) → Prop
  | [] => True
  | (_, expr) :: rest => SmallTuples expr ∧ FieldsSmall rest

end

end Expr

/-- The type of results narrows to itself: no wrapper in it is directly in another. -/
def Function.ReturnsCollapsed (function : Function) : Prop :=
  function.returns.narrowsTo function.returns = true

theorem Registry.standard_returnsCollapsed :
    ∀ function, standard.Has function → function.ReturnsCollapsed := by
  refine forall_standard ?_
  simp only [Function.standard, Function.onTexts, List.cons_append, List.nil_append,
    List.forall_mem_cons, List.not_mem_nil, false_implies, implies_true, and_true]
  exact ⟨rfl, rfl, rfl, rfl, rfl, rfl, rfl, rfl, rfl, rfl, rfl, rfl⟩

namespace Expr

/-- If the first result is a type, the second is a narrower one. -/
def ResultNarrows (result other : Except TypingError Ty) : Prop :=
  ∀ ty, result = .ok ty → ∃ narrower, other = .ok narrower ∧ ty.narrowsTo narrower = true

section

variable {found narrower : Ty} (narrows : found.narrowsTo narrower = true)
include narrows

theorem accept_of_narrowsTo {expr : Expr} {place : Place} {expected : Ty}
    (accepted : accept expr place expected found = .ok ()) :
    accept expr place expected narrower = .ok () := by
  have fits := Ty.accepts_of_narrowsTo expected narrows (accepts_of_accept accepted)
  rw [accept, if_pos fits]

theorem partTy_narrows (path : Path) : ResultNarrows (partTy found path) (partTy narrower path) := by
  intro ty reached
  obtain ⟨other, there, fits⟩ := Ty.part_of_narrowsTo narrows (part_of_partTy reached)
  exact ⟨other, by rw [partTy, there], fits⟩

end

theorem literalTy_narrows (value : Value) : ResultNarrows (literalTy value) (literalTy value) := by
  intro ty typed
  refine ⟨ty, typed, ?_⟩
  rw [literalTy] at typed
  split at typed
  next known =>
    cases typed
    exact value.literalTy_narrowsTo_self known
  · cases typed

theorem inInvocation_narrows {function : Function} {location : Location}
    {result other : Except TypingError Ty} (narrows : ResultNarrows result other) :
    ResultNarrows (inInvocation function location result)
      (inInvocation function location other) := by
  intro ty checked
  obtain ⟨narrower, typed, fits⟩ := narrows ty (eq_ok_of_inInvocation checked)
  exact ⟨narrower, by rw [typed]; rfl, fits⟩

section

-- In a mutual block the linter does not see that a theorem needs this for those it calls.
set_option linter.unusedSectionVars false

variable {wide narrow : Scope Ty} (narrows : wide.Narrows narrow)
include narrows

theorem referenceTy_narrows (name : String) :
    ResultNarrows (referenceTy wide name) (referenceTy narrow name) := by
  intro ty bound
  rw [referenceTy] at bound
  split at bound
  next known =>
    cases bound
    obtain ⟨other, there, fits⟩ := narrows.typed name ty known
    exact ⟨other, by rw [referenceTy, there], fits⟩
  · cases bound

/-- The wrapper may go in the narrower scope alone. -/
theorem settle_narrows {expr : Expr} {result other : Except TypingError Ty}
    (narrower : ResultNarrows result other) :
    ResultNarrows (settle wide expr result) (settle narrow expr other) := by
  intro ty settled
  obtain ⟨plain, typed, rfl⟩ := eq_ok_of_settle settled
  obtain ⟨least, found, fits⟩ := narrower plain typed
  refine ⟨_, by rw [found, settle], ?_⟩
  by_cases known : wide.knows expr = true
  · rw [if_pos known, if_pos (narrows.known expr known)]
    exact (Ty.required_narrowsTo fits).2
  · rw [if_neg known]
    split
    · exact Ty.narrowsTo_required fits
    · exact fits

mutual

/-- An expression that has a type has a narrower one in a narrower scope. -/
theorem check_narrows : (expr : Expr) → expr.Calls Function.ReturnsCollapsed →
    expr.SmallTuples → ResultNarrows (expr.check wide) (expr.check narrow)
  | .literal value location, _, _ => by
    rw [check, check]
    exact settle_narrows narrows (literalTy_narrows value)
  | .template parts location, calls, small => by
    rw [check, check]
    refine settle_narrows narrows fun ty typed => ?_
    obtain ⟨_, accepted, rfl⟩ := exists_of_map_eq_ok typed
    exact ⟨.string, by rw [checkParts_of_narrows parts calls small accepted]; rfl, rfl⟩
  | .tuple items location, calls, small => by
    rw [check, check]
    refine settle_narrows narrows fun ty typed => ?_
    obtain ⟨element, checked, rfl⟩ := exists_of_map_eq_ok typed
    -- The types of two items could be narrowed differently.
    match items, calls, small.1, small.2, checked with
    | [], _, _, _, checked =>
      cases checked
      exact ⟨_, rfl, rfl⟩
    | [item], calls, _, small, checked =>
      cases known : item.check wide with
      | error report => simp [checkItems, known] at checked
      | ok found =>
        obtain ⟨other, there, fits⟩ := check_narrows item calls.1 small.1 found known
        simp only [checkItems, known, Option.getD_some, Except.ok.injEq] at checked
        subst checked
        exact ⟨.array other, by simp only [checkItems, there]; rfl, by rwa [Ty.narrowsTo]⟩
    | _ :: _ :: rest, _, few, _, _ => exact absurd few (by simp)
  | .record fields location, calls, small => by
    rw [check, check]
    refine settle_narrows narrows fun ty typed => ?_
    obtain ⟨tys, checked, rfl⟩ := exists_of_map_eq_ok typed
    obtain ⟨others, there, fits⟩ := checkFields_narrows fields calls small checked
    exact ⟨.record others, by rw [there]; rfl, by rwa [Ty.narrowsTo]⟩
  | .reference name location, _, _ => by
    rw [check, check]
    exact settle_narrows narrows (referenceTy_narrows narrows name)
  | .attribute target path location, calls, small => by
    rw [check, check]
    cases known : target.check wide with
    | error report => nofun
    | ok found =>
      obtain ⟨other, there, fits⟩ := check_narrows target calls small found known
      rw [there]
      exact settle_narrows narrows (partTy_narrows fits path)
  | .call function arguments location, calls, small => by
    rw [check, check]
    refine settle_narrows narrows (inInvocation_narrows fun ty checked => ?_)
    split at checked
    next =>
      split at checked
      next counted =>
        obtain ⟨_, accepted, rfl⟩ := exists_of_map_eq_ok checked
        rw [if_pos counted, checkArguments_of_narrows arguments calls.2 small accepted]
        exact ⟨function.returns, rfl, calls.1⟩
      · cases checked
    next =>
      obtain ⟨argument, element, rfl, known, rfl⟩ := eq_of_checkFilter checked
      obtain ⟨other, there, fits⟩ := check_narrows argument calls.2.1 small.1 _ known
      obtain ⟨least, rfl, inside⟩ := Ty.exists_array_of_narrowsTo fits
      refine ⟨.array least.required, by simp only [checkFilter, there]; rfl, ?_⟩
      rw [Ty.narrowsTo]
      exact (Ty.required_narrowsTo inside).2
    next =>
      obtain ⟨target, text, place, path, whole, rfl, parsed, known, part⟩ :=
        eq_of_checkAttribute checked
      obtain ⟨other, there, fits⟩ := check_narrows target calls.2.1 small.1 _ known
      obtain ⟨least, reached, inside⟩ := partTy_narrows fits path ty (by rw [partTy, part])
      refine ⟨least, ?_, inside⟩
      simp only [checkAttribute, there, literalPath, stringLiteral?, parsed, reached]
  | .mapped function source arguments location, calls, small => by
    intro ty checked
    obtain ⟨element, others, found, signed, declared, sameLength, known, accepted, given, rfl⟩ :=
      check_mapped_iff.mp checked
    obtain ⟨other, there, narrower⟩ := check_narrows source calls.2.1 small.1 found known
    refine ⟨.array function.returns, check_mapped_iff.mpr ⟨element, others, other, signed, declared,
      sameLength, there, Ty.accepts_of_narrowsTo _ narrower accepted, ?_, rfl⟩, ?_⟩
    · exact checkArguments_of_narrows arguments calls.2.2 small.2 given
    · rw [Ty.narrowsTo]
      exact calls.1

theorem checkParts_of_narrows : (parts : List (TemplatePart Expr)) →
    PartsCall Function.ReturnsCollapsed parts → PartsSmall parts →
    checkParts wide parts = .ok () → checkParts narrow parts = .ok ()
  | [], _, _, _ => rfl
  | .text _ :: rest, calls, small, accepted => by
    rw [checkParts] at accepted ⊢
    exact checkParts_of_narrows rest calls small accepted
  | .hole expr :: rest, calls, small, accepted => by
    rw [checkParts] at accepted ⊢
    split at accepted
    · cases accepted
    next found known =>
      split at accepted
      · cases accepted
      next fits =>
        obtain ⟨other, there, narrower⟩ := check_narrows expr calls.1 small.1 found known
        simp only [there, accept_of_narrowsTo narrower fits]
        exact checkParts_of_narrows rest calls.2 small.2 accepted

theorem checkFields_narrows : (fields : List (String × Expr)) →
    FieldsCall Function.ReturnsCollapsed fields → FieldsSmall fields →
    {tys : List (String × Ty)} → checkFields wide fields = .ok tys →
    ∃ others, checkFields narrow fields = .ok others ∧ Ty.fieldsNarrowTo tys others = true
  | [], _, _, _, checked => by
    cases checked
    exact ⟨[], rfl, rfl⟩
  | (name, expr) :: rest, calls, small, _, checked => by
    rw [checkFields] at checked ⊢
    split at checked
    · cases checked
    next found known =>
      obtain ⟨tys, later, rfl⟩ := exists_of_map_eq_ok checked
      obtain ⟨other, there, fits⟩ := check_narrows expr calls.1 small.1 found known
      obtain ⟨others, checkedLater, fit⟩ := checkFields_narrows rest calls.2 small.2 later
      refine ⟨(name, other) :: others, by rw [there, checkedLater]; rfl, ?_⟩
      simp only [Ty.fieldsNarrowTo, beq_self_eq_true, fits, fit, Bool.and_true]

theorem checkArguments_of_narrows {position : Nat} {expected : List Ty} :
    (arguments : List Expr) → AllCall Function.ReturnsCollapsed arguments → AllSmall arguments →
    checkArguments wide position expected arguments = .ok () →
    checkArguments narrow position expected arguments = .ok ()
  | [], _, _, _ => by rw [checkArguments]
  | argument :: rest, calls, small, accepted => by
    cases expected with
    | nil => rw [checkArguments]
    | cons ty others =>
      rw [checkArguments] at accepted ⊢
      split at accepted
      · cases accepted
      next found known =>
        split at accepted
        · cases accepted
        next fits =>
          obtain ⟨other, there, narrower⟩ := check_narrows argument calls.1 small.1 found known
          simp only [there, accept_of_narrowsTo narrower fits]
          exact checkArguments_of_narrows rest calls.2 small.2 accepted

end

end

end Expr
end EndpointResolution
