import EndpointResolution.Proofs.Likeness
import EndpointResolution.Proofs.Results
import EndpointResolution.Proofs.Signature
import EndpointResolution.Typing.Expr

/-!
Scopes of types and of values that agree, and what the type of an expression then says about its
value.
-/
namespace EndpointResolution

namespace Scope

universe u

variable {α : Type u}

/-- The expressions known to be set, in all frames. -/
def facts (scope : Scope α) : List Expr :=
  scope.frames.flatMap Frame.known

@[simp] theorem facts_empty : (empty : Scope α).facts = [] := rfl

@[simp] theorem facts_push (scope : Scope α) : scope.push.facts = scope.facts := by
  simp [facts, push, frames, Frame.empty]

@[simp] theorem facts_insert (name : String) (value : α) (scope : Scope α) :
    (scope.insert name value).facts = scope.facts := rfl

@[simp] theorem facts_know (expr : Expr) (scope : Scope α) :
    (scope.know expr).facts = expr :: scope.facts := rfl

@[simp] theorem resolve_know (name : String) (expr : Expr) (scope : Scope α) :
    (scope.know expr).resolve name = scope.resolve name := rfl

@[simp] theorem knows_insert (name : String) (value : α) (expr : Expr) (scope : Scope α) :
    (scope.insert name value).knows expr = scope.knows expr := rfl

@[simp] theorem knows_know (fact expr : Expr) (scope : Scope α) :
    (scope.know fact).knows expr = (expr.alike fact || scope.knows expr) := by
  simp [knows, know, frames, Bool.or_assoc]

theorem eq_of_resolve_insert_empty {name other : String} {value found : α}
    (bound : (empty.insert name value).resolve other = some found) :
    other = name ∧ found = value := by
  by_cases same : other = name
  · rw [same, resolve_insert_self] at bound
    exact ⟨same, (Option.some.inj bound).symm⟩
  · rw [resolve_insert_of_ne same] at bound
    cases bound

theorem exists_fact_of_knows {expr : Expr} {scope : Scope α} (known : scope.knows expr = true) :
    ∃ fact ∈ scope.facts, expr.alike fact = true := by
  obtain ⟨frame, opened, found⟩ := List.any_eq_true.mp known
  obtain ⟨fact, recorded, similar⟩ := List.any_eq_true.mp found
  exact ⟨fact, List.mem_flatMap.mpr ⟨frame, opened, recorded⟩, similar⟩

theorem knows_of_facts {scope : Scope α} (unknown : scope.facts = []) (expr : Expr) :
    scope.knows expr = false := by
  rw [Bool.eq_false_iff]
  intro known
  obtain ⟨fact, recorded, -⟩ := exists_fact_of_knows known
  rw [unknown] at recorded
  cases recorded

/-- The value of every name that has a type inhabits it, and what is known to be set is set. -/
structure Agree (registry : Registry) (reading : Reading) (types : Scope Ty)
    (values : Scope Value) : Prop where
  typed : ∀ name ty, types.resolve name = some ty →
    ty.admitsUnder reading (values.valueOf name) = true
  built : ∀ fact ∈ types.facts, fact.Calls registry.Has
  set : ∀ fact ∈ types.facts, fact.eval values ≠ .ok .empty

end Scope

namespace Reading

variable {α β : Type} {reading : Reading} {property : α → Prop}

theorem Ends.map {goal : β → Prop} {change : α → β} {result : Except EvaluationError α}
    (ends : reading.Ends property result) (carries : ∀ a, property a → goal (change a)) :
    reading.Ends goal (result.map change) := by
  cases result with
  | error failure => exact ends
  | ok a => exact carries a ends

theorem Ends.bind {goal : β → Prop} {next : α → Except EvaluationError β}
    {result : Except EvaluationError α} (ends : reading.Ends property result)
    (carries : ∀ a, property a → reading.Ends goal (next a)) :
    reading.Ends goal (result.bind next) := by
  cases result with
  | error failure => exact ends
  | ok a => exact carries a ends

/-- Under the strict reading there is a result. -/
theorem Ends.exists_ok {result : Except EvaluationError α}
    (ends : Reading.strict.Ends property result) : ∃ a, result = .ok a ∧ property a := by
  cases result with
  | error failure => exact nomatch (show Reading.strict = .wide from ends)
  | ok a => exact ⟨a, rfl, ends⟩

end Reading

namespace Expr

variable {types : Scope Ty}

theorem eq_ok_of_settle {expr : Expr} {result : Except TypingError Ty} {ty : Ty}
    (settled : settle types expr result = .ok ty) :
    ∃ plain, result = .ok plain ∧ ty = if types.knows expr then plain.required else plain := by
  cases result with
  | error report => simp [settle] at settled
  | ok plain => exact ⟨plain, rfl, (Except.ok.inj settled).symm⟩

/-- Where nothing is known to be set, types stay as they are. -/
theorem settle_eq_ok_iff (unknown : types.facts = []) {expr : Expr}
    {result : Except TypingError Ty} {ty : Ty} :
    settle types expr result = .ok ty ↔ result = .ok ty := by
  cases result with
  | error report => exact iff_of_false nofun nofun
  | ok found =>
    rw [settle, Scope.knows_of_facts unknown]
    rfl

theorem eq_ok_of_inInvocation {function : Function} {location : Location}
    {result : Except TypingError Ty} {ty : Ty}
    (checked : inInvocation function location result = .ok ty) : result = .ok ty := by
  cases result with
  | error report => simp [inInvocation] at checked
  | ok plain => exact checked

theorem accepts_of_accept {expr : Expr} {place : Place} {expected found : Ty}
    (accepted : accept expr place expected found = .ok ()) : expected.accepts found = true := by
  by_contra refused
  simp [accept, refused] at accepted

theorem accepts_of_acceptSource {expr : Expr} {element found : Ty}
    (accepted : acceptSource expr element found = .ok ()) :
    (Ty.array element).accepts found = true := by
  by_contra refused
  simp [acceptSource, refused] at accepted

theorem checkItems_some_iff {first ty : Ty} {items : List Expr} :
    checkItems types (some first) items = .ok ty ↔
      ty = first ∧ ∀ item ∈ items, item.check types = .ok first := by
  induction items with
  | nil => simp [checkItems, eq_comm]
  | cons item rest ih =>
    rw [checkItems, List.forall_mem_cons]
    cases item.check types with
    | error report => simp
    | ok found =>
      by_cases same : first = found
      · subst same
        simp [ih]
      · simp [same, Ne.symm same]

theorem eq_of_filteredTy {function : Function} {expr : Expr} {found ty : Ty}
    (filtered : filteredTy function expr found = .ok ty) :
    ∃ element, found = .array element ∧ ty = .array element.required := by
  cases found with
  | array element => exact ⟨element, rfl, (Except.ok.inj filtered).symm⟩
  | _ => cases filtered

theorem eq_of_literalPath {expr : Expr} {path : Path} (spelled : literalPath expr = .ok path) :
    ∃ text location, expr = .literal (.string text) location ∧ Path.parse text = .ok path := by
  simp only [literalPath] at spelled
  split at spelled
  · cases spelled
  next text found =>
    split at spelled
    next steps parsed =>
      cases spelled
      unfold stringLiteral? at found
      split at found
      · cases found
        exact ⟨text, _, rfl, parsed⟩
      · cases found
    · cases spelled

theorem part_of_partTy {ty result : Ty} {path : Path} (found : partTy ty path = .ok result) :
    ty.part path = .ok result := by
  simp only [partTy] at found
  split at found
  next part known =>
    cases found
    exact known
  · cases found

theorem eq_of_checkFilter {function : Function} {arguments : List Expr} {ty : Ty}
    (checked : checkFilter types function arguments = .ok ty) :
    ∃ argument element, arguments = [argument] ∧ argument.check types = .ok (.array element) ∧
      ty = .array element.required := by
  unfold checkFilter at checked
  split at checked
  next argument =>
    split at checked
    · cases checked
    next found known =>
      obtain ⟨element, rfl, rfl⟩ := eq_of_filteredTy checked
      exact ⟨argument, element, rfl, known, rfl⟩
  · cases checked

theorem eq_of_checkAttribute {arguments : List Expr} {ty : Ty}
    (checked : checkAttribute types arguments = .ok ty) :
    ∃ target text location path whole, arguments = [target, .literal (.string text) location] ∧
      Path.parse text = .ok path ∧ target.check types = .ok whole ∧ whole.part path = .ok ty := by
  unfold checkAttribute at checked
  split at checked
  next target spelled =>
    split at checked
    · cases checked
    next whole known =>
      split at checked
      · cases checked
      next path literal =>
        obtain ⟨text, location, rfl, parsed⟩ := eq_of_literalPath literal
        exact ⟨target, text, location, path, whole, rfl, parsed, known, part_of_partTy checked⟩
  · cases checked

/-- A mapped call has a type exactly if its function has a signature, whose first argument takes the
items of the source and whose others take the arguments. -/
theorem check_mapped_iff {function : Function} {source : Expr} {arguments : List Expr}
    {location : Location} {ty : Ty} :
    (Expr.mapped function source arguments location).check types = .ok ty ↔
      ∃ element others found, function.typing = .signature ∧
        function.arguments = element :: others ∧ others.length = arguments.length ∧
        source.check types = .ok found ∧ (Ty.array element).accepts found = true ∧
        checkArguments types 2 others arguments = .ok () ∧ ty = .array function.returns := by
  rw [check]
  constructor
  · intro checked
    obtain ⟨plain, invoked, rfl⟩ := eq_ok_of_settle checked
    have typed := eq_ok_of_inInvocation invoked
    split at typed
    · cases typed
    next signed =>
    split at typed
    · cases typed
    next sameLength =>
    split at typed
    · cases typed
    next element others declared =>
    split at typed
    · cases typed
    next found known =>
    split at typed
    · cases typed
    next accepted =>
    obtain ⟨⟨⟩, given, rfl⟩ := exists_of_map_eq_ok typed
    refine ⟨element, others, found, of_not_not signed, declared, ?_, known,
      accepts_of_acceptSource accepted, given, ite_self _⟩
    simpa [declared] using sameLength
  · rintro ⟨element, others, found, signed, declared, sameLength, known, accepted, given, rfl⟩
    simp only [signed, declared, List.length_cons, sameLength, ne_eq, not_true_eq_false, if_false,
      known, acceptSource, accepted, if_true, given]
    exact congrArg Except.ok (ite_self _)

theorem length_of_evalAll {values : Scope Value} {exprs : List Expr} {results : List Value}
    (executed : evalAll values exprs = .ok results) : results.length = exprs.length := by
  induction exprs generalizing results with
  | nil =>
    cases executed
    rfl
  | cons expr rest ih =>
    simp only [evalAll] at executed
    split at executed
    · cases executed
    · obtain ⟨tail, others, rfl⟩ := exists_of_map_eq_ok executed
      simp [ih others]

end Expr

end EndpointResolution
