import EndpointResolution.Proofs.ExprSoundness
import EndpointResolution.Proofs.Narrowing

/-!
The spellings of an attribute access. The access, the call of `getAttr` with the path as a text and
the access in two steps all read the path that they spell, and where nothing is known to be set they
have the same type. Between two steps there is one wrapper more and one more test for the empty
value, neither of which changes the result.
-/
namespace EndpointResolution

namespace Path

theorem readSegments_append {segments others : List (List Char)} {first second : Path}
    (read : readSegments segments = .ok first) (later : readSegments others = .ok second) :
    readSegments (segments ++ others) = .ok (first ++ second) := by
  induction segments generalizing first with
  | nil =>
    cases read
    exact later
  | cons segment rest ih =>
    rw [readSegments] at read
    rw [List.cons_append, readSegments]
    split at read
    · cases read
    next steps here =>
      obtain ⟨further, inside, rfl⟩ := exists_of_map_eq_ok read
      rw [ih inside, List.append_assoc]
      rfl

/-- Two paths with a dot between them are read as the steps of the one and then of the other. -/
theorem parse_append {text other : String} {first second : Path} (parsed : parse text = .ok first)
    (later : parse other = .ok second) : parse (text ++ "." ++ other) = .ok (first ++ second) := by
  have dotted : (text ++ "." ++ other).toList = text.toList ++ '.' :: other.toList := by
    simp [String.toList_append]
  rw [parse, dotted, Text.pieces_append]
  exact readSegments_append parsed later

end Path

/-- The part of a part is the part that the two paths in a row lead to. -/
theorem Value.follow_append (value : Value) (first second : Path) :
    value.follow (first ++ second) = (value.follow first).bind fun part => part.follow second := by
  induction first generalizing value with
  | nil => rfl
  | cons step rest ih =>
    -- Once a part is absent so are all of its parts.
    have absent : Value.empty.follow second = .ok .empty := by
      cases second <;> rfl
    cases value with
    | empty => exact absent.symm
    | record fields =>
      cases step with
      | field name =>
        simp only [List.cons_append, follow]
        cases Fields.get? name fields with
        | none => exact absent.symm
        | some part => exact ih part
      | index position => rfl
    | array items =>
      cases step with
      | field name => rfl
      | index position =>
        simp only [List.cons_append, follow]
        cases items[position.toNat]? with
        | none => exact absent.symm
        | some part => exact ih part
    | _ => cases step <;> rfl

namespace Ty

/-- The wrapper of a type does not matter to the type of a part of it. -/
theorem part_congr {left right : Ty} (same : left.required = right.required) (path : Path) :
    (left.part path).toOption = (right.part path).toOption := by
  cases path with
  | nil => rw [part, part, orEmpty_eq, orEmpty_eq, same]
  | cons step rest =>
    unfold part
    rw [same]
    split
    · rfl
    · split <;> rfl
    · rfl
    · rfl
    · rfl

theorem part_any (path : Path) : (Ty.optional .any).part path = .ok (.optional .any) := by
  cases path <;> rfl

theorem part_append (ty : Ty) (first second : Path) :
    (ty.part (first ++ second)).toOption =
      (ty.part first).toOption.bind fun found => (found.part second).toOption := by
  induction first generalizing ty with
  | nil =>
    have same : ty.required = ty.orEmpty.required := by rw [orEmpty_eq]; rfl
    exact part_congr same second
  | cons step rest ih =>
    cases known : ty.required with
    | any => simp only [List.cons_append, part, known, Except.toOption, Option.bind_some, part_any]
    | record fields =>
      cases step with
      | field name =>
        simp only [List.cons_append, part, known]
        cases Fields.get? name fields with
        | none => rfl
        | some field => exact ih field
      | index position => simp only [List.cons_append, part, known]; rfl
    | array element =>
      cases step with
      | field name => simp only [List.cons_append, part, known]; rfl
      | index position =>
        simp only [List.cons_append, part, known]
        exact ih element
    | _ => cases step <;> simp only [List.cons_append, part, known] <;> rfl

end Ty

namespace Expr

variable {types : Scope Ty}

theorem toOption_settle (unknown : types.facts = []) (expr : Expr)
    (result : Except TypingError Ty) : (settle types expr result).toOption = result.toOption := by
  cases result with
  | error report => rfl
  | ok ty =>
    rw [settle, Scope.knows_of_facts unknown]
    rfl

theorem toOption_partTy (ty : Ty) (path : Path) :
    (partTy ty path).toOption = (ty.part path).toOption := by
  rw [partTy]
  cases ty.part path <;> rfl

/-- The type of an access is that of the part, or there is none. -/
theorem toOption_check_attribute (unknown : types.facts = []) (target : Expr) (path : Path)
    (location : Location) : ((Expr.attribute target path location).check types).toOption =
      (target.check types).toOption.bind fun ty => (ty.part path).toOption := by
  rw [check]
  cases target.check types with
  | error report => rfl
  | ok ty => exact (toOption_settle unknown _ _).trans (toOption_partTy ty path)

theorem toOption_inInvocation (function : Function) (location : Location)
    (result : Except TypingError Ty) :
    (inInvocation function location result).toOption = result.toOption := by
  cases result <;> rfl

theorem literalPath_string {text : String} {path : Path} (parsed : Path.parse text = .ok path) :
    literalPath (.string text) = .ok path := by
  simp only [literalPath, string, stringLiteral?, parsed]

/-- The type of a call of `getAttr` is that of the part as well. -/
theorem toOption_check_getAttr (unknown : types.facts = []) (target : Expr) {text : String}
    {path : Path} (parsed : Path.parse text = .ok path) (location : Location) :
    ((Expr.call .getAttr [target, .string text] location).check types).toOption =
      (target.check types).toOption.bind fun ty => (ty.part path).toOption := by
  have typing : Function.getAttr.typing = .attribute := rfl
  simp only [check, typing, toOption_settle unknown, toOption_inInvocation, checkAttribute]
  cases target.check types with
  | error report => rfl
  | ok ty =>
    simp only [literalPath_string parsed, toOption_partTy]
    rfl

theorem eval_getAttr (target : Expr) {text : String} {path : Path}
    (parsed : Path.parse text = .ok path) (location place : Location) (values : Scope Value) :
    (Expr.call .getAttr [target, .string text] location).eval values =
      (Expr.attribute target path place).eval values := by
  rw [string, eval_call_literal, eval_attribute]
  simp only [Function.getAttr_apply parsed]

theorem eval_attribute_append (target : Expr) (first second : Path) (inner outer place : Location)
    (values : Scope Value) :
    (Expr.attribute (.attribute target first inner) second outer).eval values =
      (Expr.attribute target (first ++ second) place).eval values := by
  simp only [eval_attribute, Value.follow_append]
  cases target.eval values <;> rfl

theorem toOption_check_attribute_append (unknown : types.facts = []) (target : Expr)
    (first second : Path) (inner outer place : Location) :
    ((Expr.attribute (.attribute target first inner) second outer).check types).toOption =
      ((Expr.attribute target (first ++ second) place).check types).toOption := by
  simp only [toOption_check_attribute unknown, Ty.part_append, Option.bind_assoc]

/-- All spellings of an attribute access agree. The access by a path and the call of `getAttr` with
the text of the path have the same value or failure in every scope, and so have the access in two
steps and the one by both paths with a dot between them. Where nothing is known to be set they have
the same type or none. -/
theorem attribute_spellings (expr : Expr) {text other : String} {first second : Path}
    (parsed : Path.parse text = .ok first) (later : Path.parse other = .ok second) :
    ∃ access call nested joined,
      expr.attributeOf text = .ok access ∧
      Registry.standard.call "getAttr" [expr, .string text] = .ok call ∧
      access.attributeOf other = .ok nested ∧
      expr.attributeOf (text ++ "." ++ other) = .ok joined ∧
      joined = .attribute expr (first ++ second) expr.location ∧
      (∀ values, access.eval values = call.eval values ∧ nested.eval values = joined.eval values) ∧
      ∀ types, types.facts = [] →
        (access.check types).toOption = (call.check types).toOption ∧
          (nested.check types).toOption = (joined.check types).toOption := by
  have joint := Path.parse_append parsed later
  refine ⟨.attribute expr first expr.location, .call .getAttr [expr, .string text] .unknown,
    .attribute (.attribute expr first expr.location) second expr.location,
    .attribute expr (first ++ second) expr.location, ?_, rfl, ?_, ?_, rfl, fun values => ?_,
    fun types unknown => ?_⟩
  · rw [attributeOf, parsed]
  · rw [attributeOf, later]
    rfl
  · rw [attributeOf, joint]
  · exact ⟨(eval_getAttr expr parsed _ _ values).symm, eval_attribute_append expr first second ..⟩
  · refine ⟨?_, toOption_check_attribute_append unknown expr first second ..⟩
    rw [toOption_check_attribute unknown, toOption_check_getAttr unknown expr parsed]

/-- The name of the first authentication scheme, in one step or two. -/
theorem attribute_spellings_of_scheme :
    ∃ access call nested joined,
      (Expr.reference "Url" .unknown).attributeOf "authSchemes[0]" = .ok access ∧
      Registry.standard.call "getAttr" [.reference "Url" .unknown, .string "authSchemes[0]"] =
        .ok call ∧
      access.attributeOf "name" = .ok nested ∧
      (Expr.reference "Url" .unknown).attributeOf "authSchemes[0].name" = .ok joined ∧
      (∀ values, access.eval values = call.eval values ∧ nested.eval values = joined.eval values) ∧
      (nested.check (Scope.empty.insert "Url" .any)).toOption =
        (joined.check (Scope.empty.insert "Url" .any)).toOption := by
  obtain ⟨access, call, nested, joined, built, called, further, whole, -, same, typed⟩ :=
    attribute_spellings (.reference "Url" .unknown)
      (by decide : Path.parse "authSchemes[0]" = .ok [.field "authSchemes", .index 0])
      (by decide : Path.parse "name" = .ok [.field "name"])
  exact ⟨access, call, nested, joined, built, called, further, whole, same, (typed _ rfl).2⟩

end Expr
end EndpointResolution
