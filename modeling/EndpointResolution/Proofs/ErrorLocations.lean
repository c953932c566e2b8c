import EndpointResolution.Proofs.Subexpressions

/-!
The locations of type errors. An error takes the first known location on its way out of the
expressions that it is in, and every expression offers its own, but for the access to an attribute
of an expression that has no type: that error passes the access by. So an error whose location is
known has that of a part of the expression, and it has one if the expression that reports it does.
-/
namespace EndpointResolution

namespace TypingError

variable {places : Location → Prop} {error : TypingError}

theorem location_locate (error : TypingError) (location : Location) :
    (error.locate location).location =
      if error.location.isUnknown then location else error.location := by
  rw [locate]
  split <;> rfl

/-- The location of the error, if it is known, is one of the places. -/
def LocatedIn (places : Location → Prop) (error : TypingError) : Prop :=
  error.location.isUnknown = false → places error.location

theorem LocatedIn.of_fault (fault : TypingFault) : fault.error.LocatedIn places := nofun

theorem LocatedIn.locate {location : Location} (located : error.LocatedIn places)
    (place : places location) : (error.locate location).LocatedIn places := by
  rw [LocatedIn, location_locate]
  split
  · exact fun _ => place
  · exact located

theorem LocatedIn.withHint (located : error.LocatedIn places) (hint : String) :
    (error.withHint hint).LocatedIn places :=
  located

theorem LocatedIn.within (located : error.LocatedIn places) (description : String)
    (location : Location) : (error.within description location).LocatedIn places :=
  located

/-- An error that is located at a known place is at a known place. -/
theorem isUnknown_locate {location : Location} (place : location.isUnknown = false) :
    (error.locate location).location.isUnknown = false := by
  rw [location_locate]
  split
  · exact place
  next known => exact Bool.eq_false_iff.mpr known

end TypingError

namespace Expr

variable {α β : Type} {places : Location → Prop} {scope : Scope Ty}

/-- A result, or an error that is located at one of the places if at all. -/
def FailsIn (places : Location → Prop) : Except TypingError α → Prop
  | .ok _ => True
  | .error error => error.LocatedIn places

theorem FailsIn.mono {others : Location → Prop} {result : Except TypingError α}
    (fails : FailsIn places result) (wider : ∀ location, places location → others location) :
    FailsIn others result := by
  cases result with
  | error report => exact fun known => wider _ (fails known)
  | ok a => trivial

/-- An error that is passed on stays where it is. -/
theorem FailsIn.passOn {result : Except TypingError α} {error : TypingError}
    (fails : FailsIn places result) (failed : result = .error error) :
    FailsIn places (.error error : Except TypingError β) := by
  subst failed
  exact fails

theorem FailsIn.map {result : Except TypingError α} (fails : FailsIn places result)
    (change : α → β) : FailsIn places (result.map change) := by
  cases result with
  | error report => exact fails
  | ok a => trivial

theorem FailsIn.settle {expr : Expr} {result : Except TypingError Ty}
    (fails : FailsIn places result) (here : places expr.location) :
    FailsIn places (settle scope expr result) := by
  cases result with
  | error report => exact TypingError.LocatedIn.locate fails here
  | ok ty => trivial

theorem FailsIn.inInvocation {function : Function} {location : Location}
    {result : Except TypingError Ty} (fails : FailsIn places result) (here : places location) :
    FailsIn places (inInvocation function location result) := by
  cases result with
  | error report => exact (TypingError.LocatedIn.locate fails here).within _ location
  | ok ty => trivial

theorem locatedIn_mismatch {expr : Expr} (here : places expr.location) (place : Place)
    (expected found : Ty) : (mismatch expr place expected found).LocatedIn places :=
  (TypingError.LocatedIn.of_fault _).locate here

theorem failsIn_accept {expr : Expr} (here : places expr.location) (place : Place)
    (expected found : Ty) : FailsIn places (accept expr place expected found) := by
  have report := locatedIn_mismatch here place expected found
  unfold accept
  split
  · trivial
  · unfold hintFor
    split
    · split
      · exact report.withHint _
      · exact report
    · exact report

theorem failsIn_acceptSource {expr : Expr} (here : places expr.location) (element found : Ty) :
    FailsIn places (acceptSource expr element found) := by
  have report := locatedIn_mismatch here .mapSource (.array element) found
  unfold acceptSource
  split
  · trivial
  · unfold mapHintFor
    split
    · exact report.withHint _
    · exact report.withHint _
    · exact report

theorem failsIn_filteredTy {expr : Expr} (here : places expr.location) (function : Function)
    (found : Ty) : FailsIn places (filteredTy function expr found) := by
  unfold filteredTy
  split
  · trivial
  · exact locatedIn_mismatch here _ _ _

theorem failsIn_literalPath {expr : Expr} (here : places expr.location) :
    FailsIn places (literalPath expr) := by
  unfold literalPath
  split
  · exact (TypingError.LocatedIn.of_fault _).locate here
  · split
    · trivial
    · exact .of_fault _

theorem failsIn_partTy (ty : Ty) (path : Path) : FailsIn places (partTy ty path) := by
  unfold partTy
  split
  · trivial
  · exact TypingError.LocatedIn.of_fault _

theorem failsIn_literalTy (value : Value) : FailsIn places (literalTy value) := by
  unfold literalTy
  split
  · trivial
  · exact TypingError.LocatedIn.of_fault _

theorem failsIn_referenceTy (name : String) : FailsIn places (referenceTy scope name) := by
  unfold referenceTy
  split
  · trivial
  · exact TypingError.LocatedIn.of_fault _

/-- The expression is at one of the places, and so is what its check reports. -/
structure Placed (places : Location → Prop) (scope : Scope Ty) (expr : Expr) : Prop where
  here : places expr.location
  fails : FailsIn places (expr.check scope)

theorem failsIn_checkParts {parts : List (TemplatePart Expr)}
    (each : ∀ child ∈ parts.filterMap TemplatePart.hole?, child.Placed places scope) :
    FailsIn places (checkParts scope parts) := by
  induction parts with
  | nil => trivial
  | cons part rest ih =>
    cases part with
    | text text =>
      rw [checkParts]
      exact ih each
    | hole expr =>
      obtain ⟨⟨here, fails⟩, others⟩ := List.forall_mem_cons.mp each
      rw [checkParts]
      split
      next failed => exact fails.passOn failed
      next found _ =>
        split
        next refused => exact (failsIn_accept here _ _ found).passOn refused
        next => exact ih others

theorem failsIn_checkItems {first : Option Ty} {items : List Expr}
    (each : ∀ child ∈ items, child.Placed places scope) :
    FailsIn places (checkItems scope first items) := by
  induction items generalizing first with
  | nil => trivial
  | cons item rest ih =>
    obtain ⟨⟨here, fails⟩, others⟩ := List.forall_mem_cons.mp each
    rw [checkItems]
    split
    next failed => exact fails.passOn failed
    next =>
      split
      · exact ih others
      · split
        · exact ih others
        · exact (TypingError.LocatedIn.of_fault _).locate here

theorem failsIn_checkFields {fields : List (String × Expr)}
    (each : ∀ child ∈ fields.map Prod.snd, child.Placed places scope) :
    FailsIn places (checkFields scope fields) := by
  induction fields with
  | nil => trivial
  | cons field rest ih =>
    obtain ⟨⟨here, fails⟩, others⟩ := List.forall_mem_cons.mp each
    rw [checkFields]
    split
    next failed => exact fails.passOn failed
    next => exact (ih others).map _

theorem failsIn_checkArguments {position : Nat} {expected : List Ty} {arguments : List Expr}
    (each : ∀ child ∈ arguments, child.Placed places scope) :
    FailsIn places (checkArguments scope position expected arguments) := by
  induction arguments generalizing position expected with
  | nil =>
    rw [checkArguments]
    trivial
  | cons argument rest ih =>
    obtain ⟨⟨here, fails⟩, others⟩ := List.forall_mem_cons.mp each
    cases expected with
    | nil =>
      rw [checkArguments]
      trivial
    | cons ty more =>
      rw [checkArguments]
      split
      next failed => exact fails.passOn failed
      next found _ =>
        split
        next refused => exact (failsIn_accept here _ ty found).passOn refused
        next => exact ih others

theorem failsIn_checkFilter {function : Function} {arguments : List Expr}
    (each : ∀ child ∈ arguments, child.Placed places scope) :
    FailsIn places (checkFilter scope function arguments) := by
  unfold checkFilter
  split
  next argument =>
    obtain ⟨here, fails⟩ := each argument List.mem_cons_self
    split
    next failed => exact fails.passOn failed
    next found _ => exact failsIn_filteredTy here function found
  next => exact TypingError.LocatedIn.of_fault _

theorem failsIn_checkAttribute {arguments : List Expr}
    (each : ∀ child ∈ arguments, child.Placed places scope) :
    FailsIn places (checkAttribute scope arguments) := by
  unfold checkAttribute
  split
  next target path =>
    obtain ⟨⟨-, fails⟩, others⟩ := List.forall_mem_cons.mp each
    obtain ⟨here, -⟩ := others path List.mem_cons_self
    split
    next failed => exact fails.passOn failed
    next found _ =>
      split
      next misspelled => exact (failsIn_literalPath here).passOn misspelled
      next steps _ => exact failsIn_partTy found steps
  next => exact TypingError.LocatedIn.of_fault _

/-- If the expressions directly inside an expression are placed, what it reports is. -/
theorem failsIn_check_of_children (expr : Expr) (here : places expr.location)
    (each : ∀ child ∈ expr.children, child.Placed places scope) :
    FailsIn places (expr.check scope) := by
  match expr with
  | .literal value location =>
    rw [check]
    exact (failsIn_literalTy value).settle here
  | .template parts location =>
    rw [check]
    exact ((failsIn_checkParts each).map _).settle here
  | .tuple items location =>
    rw [check]
    exact ((failsIn_checkItems each).map _).settle here
  | .record fields location =>
    rw [check]
    exact ((failsIn_checkFields each).map _).settle here
  | .reference name location =>
    rw [check]
    exact (failsIn_referenceTy name).settle here
  | .attribute target path location =>
    obtain ⟨-, fails⟩ := each target List.mem_cons_self
    rw [check]
    split
    next failed => exact fails.passOn failed
    next ty _ => exact (failsIn_partTy ty path).settle here
  | .call function arguments location =>
    rw [check]
    refine (FailsIn.inInvocation ?_ here).settle here
    split
    · split
      · exact (failsIn_checkArguments each).map _
      · exact TypingError.LocatedIn.of_fault _
    · exact failsIn_checkFilter each
    · exact failsIn_checkAttribute each
  | .mapped function source arguments location =>
    obtain ⟨⟨there, fails⟩, others⟩ := List.forall_mem_cons.mp each
    rw [check]
    refine (FailsIn.inInvocation ?_ here).settle here
    split
    next => exact TypingError.LocatedIn.of_fault _
    next =>
      split
      next => exact TypingError.LocatedIn.of_fault _
      next =>
        split
        next => exact TypingError.LocatedIn.of_fault _
        next element more _ =>
          split
          next failed => exact fails.passOn failed
          next found _ =>
            split
            next refused => exact (failsIn_acceptSource there element found).passOn refused
            next => exact (failsIn_checkArguments others).map _

/-- The first expression is the second or inside it. -/
def Within : Expr → Expr → Prop :=
  Relation.ReflTransGen ChildOf

theorem within_iff {part whole : Expr} : part.Within whole ↔ part = whole ∨ part.Inside whole := by
  rw [Within, Relation.reflTransGen_iff_eq_or_transGen, eq_comm]
  rfl

/-- The location of an error, if it is known, is that of a part of the expression. -/
theorem failsIn_check (scope : Scope Ty) (expr : Expr) :
    FailsIn (fun location => ∃ part : Expr, part.Within expr ∧ location = part.location)
      (expr.check scope) := by
  induction expr using induction with
  | step expr ih =>
    refine failsIn_check_of_children expr ⟨expr, .refl, rfl⟩ fun child among => ?_
    refine ⟨⟨child, .single among, rfl⟩, (ih child among).mono ?_⟩
    rintro location ⟨part, within, same⟩
    exact ⟨part, within.tail among, same⟩

/-! ## Who reports an error -/

/-- The expression is the access to an attribute of an expression whose check fails. -/
def PassesOn (scope : Scope Ty) (expr : Expr) : Prop :=
  ∃ target path location error, expr = .attribute target path location ∧
    target.check scope = .error error

/-- The expression whose error the check of an expression reports: an access to an attribute passes
on the error of its target. -/
def reporter (scope : Scope Ty) : Expr → Expr
  | .attribute target path location =>
    match target.check scope with
    | .error _ => reporter scope target
    | .ok _ => .attribute target path location
  | expr => expr

theorem reporter_of_not_passesOn {expr : Expr} (reports : ¬ expr.PassesOn scope) :
    expr.reporter scope = expr := by
  match expr with
  | .attribute target path location =>
    cases found : target.check scope with
    | error report => exact absurd ⟨target, path, location, report, rfl, found⟩ reports
    | ok ty => rw [reporter, found]
  | .literal _ _ | .template _ _ | .tuple _ _ | .record _ _ | .reference _ _ | .call _ _ _
  | .mapped _ _ _ _ => rfl

/-- The reporter of an expression passes nothing on, is a part of the expression, and fails with the
same error. -/
theorem reporter_spec (scope : Scope Ty) (expr : Expr) :
    ¬ (expr.reporter scope).PassesOn scope ∧ (expr.reporter scope).Within expr ∧
      ∀ error, expr.check scope = .error error →
        (expr.reporter scope).check scope = .error error := by
  induction expr using induction with
  | step expr ih =>
    by_cases passes : expr.PassesOn scope
    · obtain ⟨target, path, location, report, rfl, failed⟩ := passes
      obtain ⟨reports, within, same⟩ := ih target List.mem_cons_self
      have next : (Expr.attribute target path location).reporter scope = target.reporter scope := by
        rw [reporter, failed]
      have passed : (Expr.attribute target path location).check scope = target.check scope := by
        rw [check, failed]
      rw [next, passed]
      exact ⟨reports, within.tail (List.mem_singleton_self target), same⟩
    · rw [reporter_of_not_passesOn passes]
      exact ⟨passes, .refl, fun _ => id⟩

/-- An expression that passes nothing on offers its own location to its error. -/
theorem exists_settle {expr : Expr} (reports : ¬ expr.PassesOn scope) :
    ∃ result, expr.check scope = settle scope expr result := by
  match expr with
  | .attribute target path location =>
    cases found : target.check scope with
    | error report => exact absurd ⟨target, path, location, report, rfl, found⟩ reports
    | ok ty => exact ⟨partTy ty path, by rw [check, found]⟩
  | .literal _ _ | .template _ _ | .tuple _ _ | .record _ _ | .reference _ _ | .call _ _ _
  | .mapped _ _ _ _ => exact ⟨_, by rw [check]⟩

theorem located_of_not_passesOn {expr : Expr} {error : TypingError}
    (reports : ¬ expr.PassesOn scope) (failed : expr.check scope = .error error)
    (located : expr.location.isUnknown = false) : error.location.isUnknown = false := by
  obtain ⟨result, settled⟩ := exists_settle reports
  rw [settled] at failed
  cases result with
  | error report =>
    cases failed
    exact report.isUnknown_locate located
  | ok ty => cases failed

/-- The error of an expression has a known location exactly if its reporter has one or the location
comes from inside the reporter. So it has one if the expression itself is located and passes no
error on. A known location is that of a part of the expression. -/
theorem error_located_iff {scope : Scope Ty} {expr : Expr} {error : TypingError}
    (failed : expr.check scope = .error error) :
    ((expr.reporter scope).Within expr ∧ (expr.reporter scope).check scope = .error error) ∧
    (error.location.isUnknown = false ↔
      (expr.reporter scope).location.isUnknown = false ∨
        ∃ part : Expr, part.Inside (expr.reporter scope) ∧ part.location.isUnknown = false ∧
          error.location = part.location) ∧
    (¬ expr.PassesOn scope → expr.location.isUnknown = false →
      error.location.isUnknown = false) ∧
    (error.location.isUnknown = false →
      ∃ part : Expr, part.Within expr ∧ error.location = part.location) := by
  obtain ⟨reports, within, same⟩ := reporter_spec scope expr
  have reported := same error failed
  refine ⟨⟨within, reported⟩, ⟨fun known => ?_, ?_⟩,
    fun direct => located_of_not_passesOn direct failed, ?_⟩
  · have origin := failsIn_check scope (expr.reporter scope)
    rw [reported] at origin
    obtain ⟨part, within, place⟩ := origin known
    rcases within_iff.mp within with rfl | inside
    · exact .inl (place ▸ known)
    · exact .inr ⟨part, inside, place ▸ known, place⟩
  · rintro (located | ⟨part, -, located, place⟩)
    · exact located_of_not_passesOn reports reported located
    · exact place ▸ located
  · have origin := failsIn_check scope expr
    rw [failed] at origin
    exact origin

/-- The access to an attribute of a name that nothing is bound to, with the locations of the access
and of the name. -/
def attributeOfMissing (access name : Location) : Expr :=
  .attribute (.reference "Missing" name) [.field "a"] access

theorem error_located_iff_of_name :
    ∃ error, (attributeOfMissing .unknown ⟨"rules.json", 12, 7⟩).check .empty = .error error ∧
      error.location.isUnknown = false := by
  refine ⟨_, rfl, ?_⟩
  have failed : (attributeOfMissing .unknown ⟨"rules.json", 12, 7⟩).check .empty = .error _ := rfl
  exact (error_located_iff failed).2.1.mpr (.inl rfl)

/-- The error of a located expression need not be located: an access to an attribute that is located
passes on the error of its target, which is not. -/
theorem exists_unlocated_error :
    ¬ ∀ (scope : Scope Ty) (expr : Expr) (error : TypingError), expr.check scope = .error error →
      expr.location.isUnknown = false → error.location.isUnknown = false := by
  intro claim
  have known := claim .empty (attributeOfMissing ⟨"rules.json", 12, 7⟩ .unknown) _ rfl rfl
  exact absurd known (by decide)

end Expr
end EndpointResolution
