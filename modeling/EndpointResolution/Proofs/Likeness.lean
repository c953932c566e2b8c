import EndpointResolution.Evaluation.Expr
import EndpointResolution.Proofs.Composition

/-!
What the value of an expression depends on: the values of the names that it mentions, and nothing
about where it was declared.
-/
namespace EndpointResolution

/-- The value of a name, which is the empty one if nothing is bound to it. -/
def Scope.valueOf (scope : Scope Value) (name : String) : Value :=
  (scope.resolve name).getD .empty

@[simp] theorem Scope.valueOf_push (scope : Scope Value) (name : String) :
    scope.push.valueOf name = scope.valueOf name := by
  simp [valueOf]

@[simp] theorem Scope.valueOf_insert_self (scope : Scope Value) (name : String) (value : Value) :
    (scope.insert name value).valueOf name = value := by
  simp [valueOf]

theorem Scope.valueOf_insert_of_ne {name other : String} (distinct : other ≠ name) (value : Value)
    (scope : Scope Value) : (scope.insert name value).valueOf other = scope.valueOf other := by
  simp [valueOf, resolve_insert_of_ne distinct]

theorem Registry.Has.eq_of_id {registry : Registry} {f g : Function} (hasF : registry.Has f)
    (hasG : registry.Has g) (sameId : f.id = g.id) : f = g := by
  have found : some f = some g := by
    rw [← hasF, ← hasG, sameId]
  exact Option.some.inj found

namespace Expr

mutual

/-- Two scopes that agree on the names an expression mentions give it the same value. -/
theorem eval_congr {left right : Scope Value} : (expr : Expr) →
    (∀ name, expr.mentions name = true → left.valueOf name = right.valueOf name) →
    expr.eval left = expr.eval right
  | .literal _ _, _ => rfl
  | .template parts _, agree => by simp only [eval, evalParts_congr parts agree]
  | .tuple items _, agree => by simp only [eval, evalAll_congr items agree]
  | .record fields _, agree => by simp only [eval, evalFields_congr fields agree]
  | .reference name _, agree => by
    have same := agree name (by simp [mentions])
    simp only [Scope.valueOf] at same
    simp only [eval, same]
  | .attribute target _ _, agree => by simp only [eval, eval_congr target agree]
  | .call _ arguments _, agree => by simp only [eval, evalAll_congr arguments agree]
  | .mapped _ source arguments _, agree => by
    have sources := eval_congr source fun name mentioned =>
      agree name (by simp [mentions, mentioned])
    have others := evalAll_congr arguments fun name mentioned =>
      agree name (by simp [mentions, mentioned])
    simp only [eval, sources, others]

theorem evalParts_congr {left right : Scope Value} : (parts : List (TemplatePart Expr)) →
    (∀ name, partsMention name parts = true → left.valueOf name = right.valueOf name) →
    evalParts left parts = evalParts right parts
  | [], _ => rfl
  | .text _ :: rest, agree => by simp only [evalParts, evalParts_congr rest agree]
  | .hole expr :: rest, agree => by
    have first := eval_congr expr fun name mentioned =>
      agree name (by simp [partsMention, mentioned])
    have others := evalParts_congr rest fun name mentioned =>
      agree name (by simp [partsMention, mentioned])
    simp only [evalParts, first, others]

theorem evalAll_congr {left right : Scope Value} : (exprs : List Expr) →
    (∀ name, allMention name exprs = true → left.valueOf name = right.valueOf name) →
    evalAll left exprs = evalAll right exprs
  | [], _ => rfl
  | expr :: rest, agree => by
    have first := eval_congr expr fun name mentioned =>
      agree name (by simp [allMention, mentioned])
    have others := evalAll_congr rest fun name mentioned =>
      agree name (by simp [allMention, mentioned])
    simp only [evalAll, first, others]

theorem evalFields_congr {left right : Scope Value} : (fields : List (String × Expr)) →
    (∀ name, fieldsMention name fields = true → left.valueOf name = right.valueOf name) →
    evalFields left fields = evalFields right fields
  | [], _ => rfl
  | (_, expr) :: rest, agree => by
    have first := eval_congr expr fun name mentioned =>
      agree name (by simp [fieldsMention, mentioned])
    have others := evalFields_congr rest fun name mentioned =>
      agree name (by simp [fieldsMention, mentioned])
    simp only [evalFields, first, others]

end

/-- Opening a frame changes the value of no expression. -/
theorem eval_push (expr : Expr) (scope : Scope Value) : expr.eval scope.push = expr.eval scope :=
  eval_congr expr fun name _ => scope.valueOf_push name

/-- Binding a name changes the value of no expression that does not mention it. -/
theorem eval_insert_of_not_mentions {expr : Expr} {name : String}
    (absent : expr.mentions name = false) (value : Value) (scope : Scope Value) :
    expr.eval (scope.insert name value) = expr.eval scope := by
  refine eval_congr expr fun other mentioned => ?_
  refine Scope.valueOf_insert_of_ne ?_ value scope
  intro same
  rw [same, absent] at mentioned
  exact Bool.noConfusion mentioned

section

variable {registry : Registry} (scope : Scope Value)

mutual

/-- Expressions of one registry that differ in source locations at most have the same value. -/
theorem eval_eq_of_alike : (a b : Expr) → a.alike b = true → a.Calls registry.Has →
    b.Calls registry.Has → a.eval scope = b.eval scope
  | .literal v _, b, similar, _, _ => by
    cases b <;> simp only [alike, Bool.false_eq_true] at similar
    rw [Value.same_iff] at similar
    simp only [eval, similar]
  | .template ps _, b, similar, calls, others => by
    cases b <;> simp only [alike, Bool.false_eq_true] at similar
    simp only [eval, evalParts_eq_of_alike ps _ similar calls others]
  | .tuple as _, b, similar, calls, others => by
    cases b <;> simp only [alike, Bool.false_eq_true] at similar
    simp only [eval, evalAll_eq_of_alike as _ similar calls others]
  | .record as _, b, similar, calls, others => by
    cases b <;> simp only [alike, Bool.false_eq_true] at similar
    simp only [eval, evalFields_eq_of_alike as _ similar calls others]
  | .reference n _, b, similar, _, _ => by
    cases b <;> simp only [alike, Bool.false_eq_true, beq_iff_eq] at similar
    simp only [eval, similar]
  | .attribute a p _, b, similar, calls, others => by
    cases b <;> simp only [alike, Bool.false_eq_true, Bool.and_eq_true, beq_iff_eq] at similar
    simp only [eval, eval_eq_of_alike a _ similar.1 calls others, similar.2]
  | .call f as _, b, similar, calls, others => by
    cases b <;> simp only [alike, Bool.false_eq_true, Bool.and_eq_true, beq_iff_eq] at similar
    have sameFunction := calls.1.eq_of_id others.1 similar.1
    simp only [eval, evalAll_eq_of_alike as _ similar.2 calls.2 others.2, sameFunction]
  | .mapped f a as _, b, similar, calls, others => by
    cases b <;> simp only [alike, Bool.false_eq_true, Bool.and_eq_true, beq_iff_eq] at similar
    have sameFunction := calls.1.eq_of_id others.1 similar.1.1
    have sameSource := eval_eq_of_alike a _ similar.1.2 calls.2.1 others.2.1
    have sameArguments := evalAll_eq_of_alike as _ similar.2 calls.2.2 others.2.2
    simp only [eval, sameArguments, sameSource, sameFunction]

theorem evalParts_eq_of_alike : (ps qs : List (TemplatePart Expr)) → alikeParts ps qs = true →
    PartsCall registry.Has ps → PartsCall registry.Has qs → evalParts scope ps = evalParts scope qs
  | [], qs, similar, _, _ => by
    cases qs with
    | nil => rfl
    | cons => simp [alikeParts] at similar
  | .text s :: ps, qs, similar, calls, others => by
    match qs with
    | [] => simp [alikeParts] at similar
    | .hole _ :: _ => simp [alikeParts] at similar
    | .text _ :: qs =>
      simp only [alikeParts, Bool.and_eq_true, beq_iff_eq] at similar
      simp only [evalParts, evalParts_eq_of_alike ps qs similar.2 calls others, similar.1]
  | .hole a :: ps, qs, similar, calls, others => by
    match qs with
    | [] => simp [alikeParts] at similar
    | .text _ :: _ => simp [alikeParts] at similar
    | .hole b :: qs =>
      simp only [alikeParts, Bool.and_eq_true] at similar
      simp only [evalParts, eval_eq_of_alike a b similar.1 calls.1 others.1,
        evalParts_eq_of_alike ps qs similar.2 calls.2 others.2]

theorem evalAll_eq_of_alike : (as bs : List Expr) → alikeAll as bs = true →
    AllCall registry.Has as → AllCall registry.Has bs → evalAll scope as = evalAll scope bs
  | [], bs, similar, _, _ => by
    cases bs with
    | nil => rfl
    | cons => simp [alikeAll] at similar
  | a :: as, bs, similar, calls, others => by
    cases bs with
    | nil => simp [alikeAll] at similar
    | cons b bs =>
      simp only [alikeAll, Bool.and_eq_true] at similar
      simp only [evalAll, eval_eq_of_alike a b similar.1 calls.1 others.1,
        evalAll_eq_of_alike as bs similar.2 calls.2 others.2]

theorem evalFields_eq_of_alike : (as bs : List (String × Expr)) → alikeFields as bs = true →
    FieldsCall registry.Has as → FieldsCall registry.Has bs →
    evalFields scope as = evalFields scope bs
  | [], bs, similar, _, _ => by
    cases bs with
    | nil => rfl
    | cons => simp [alikeFields] at similar
  | (n, a) :: as, bs, similar, calls, others => by
    cases bs with
    | nil => simp [alikeFields] at similar
    | cons entry bs =>
      obtain ⟨m, b⟩ := entry
      simp only [alikeFields, Bool.and_eq_true, beq_iff_eq] at similar
      simp only [evalFields, eval_eq_of_alike a b similar.1.2 calls.1 others.1,
        evalFields_eq_of_alike as bs similar.2 calls.2 others.2, similar.1.1]

end

end

end Expr
end EndpointResolution
