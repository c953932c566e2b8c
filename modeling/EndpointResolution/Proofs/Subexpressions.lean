import EndpointResolution.Proofs.Agreement
import Mathlib.Logic.Relation

/-!
Expressions inside others. The type of an expression depends on those of the expressions directly
inside it and on whether it is known to be set itself. No expression is like one inside it, so that
to know it to be set changes the type of nothing in it.
-/
namespace EndpointResolution

/-- The expression of a placeholder. -/
def TemplatePart.hole? {ε : Type} : TemplatePart ε → Option ε
  | .text _ => none
  | .hole expr => some expr

namespace Expr

/-- The expressions directly inside an expression. -/
def children : Expr → List Expr
  | .literal _ _ => []
  | .template parts _ => parts.filterMap TemplatePart.hole?
  | .tuple items _ => items
  | .record fields _ => fields.map Prod.snd
  | .reference _ _ => []
  | .attribute target _ _ => [target]
  | .call _ arguments _ => arguments
  | .mapped _ source arguments _ => source :: arguments

/-- Induction on an expression, with a hypothesis for each expression directly inside it. -/
@[elab_as_elim]
theorem induction {motive : Expr → Prop}
    (step : ∀ expr, (∀ child ∈ expr.children, motive child) → motive expr) (expr : Expr) :
    motive expr :=
  @Expr.rec motive (fun parts => ∀ child ∈ parts.filterMap TemplatePart.hole?, motive child)
    (fun exprs => ∀ child ∈ exprs, motive child)
    (fun fields => ∀ child ∈ fields.map Prod.snd, motive child)
    (fun part => ∀ child ∈ part.hole?, motive child) (fun field => motive field.2)
    (fun value location => step (.literal value location) nofun)
    (fun parts location inside => step (.template parts location) inside)
    (fun items location inside => step (.tuple items location) inside)
    (fun fields location inside => step (.record fields location) inside)
    (fun name location => step (.reference name location) nofun)
    (fun target path location inside => step (.attribute target path location)
      (List.forall_mem_singleton.mpr inside))
    (fun function arguments location inside => step (.call function arguments location) inside)
    (fun function source arguments location inside others =>
      step (.mapped function source arguments location) (List.forall_mem_cons.mpr ⟨inside, others⟩))
    nofun
    (fun part _ here others => match part, here with
      | .text _, _ => others
      | .hole expr, here => List.forall_mem_cons.mpr ⟨here expr rfl, others⟩)
    nofun (fun _ _ here others => List.forall_mem_cons.mpr ⟨here, others⟩)
    nofun (fun _ _ here others => List.forall_mem_cons.mpr ⟨here, others⟩)
    (fun _ => nofun)
    (fun _ inside _ found => Option.some.inj found ▸ inside)
    (fun _ _ inside => inside) expr

/-- The first expression is directly inside the second. -/
def ChildOf (part whole : Expr) : Prop :=
  part ∈ whole.children

/-- The first expression is inside the second, at any depth. -/
def Inside : Expr → Expr → Prop :=
  Relation.TransGen ChildOf

theorem wellFounded_inside : WellFounded Inside := by
  have direct : WellFounded ChildOf := by
    refine ⟨fun expr => ?_⟩
    induction expr using induction with
    | step expr ih => exact .intro expr ih
  exact direct.transGen

mutual

theorem alike_refl : (expr : Expr) → expr.alike expr = true
  | .literal value _ => by rw [alike, Value.same_iff]
  | .template parts _ => by rw [alike, alikeParts_refl parts]
  | .tuple items _ => by rw [alike, alikeAll_refl items]
  | .record fields _ => by rw [alike, alikeFields_refl fields]
  | .reference _ _ => by rw [alike, beq_self_eq_true]
  | .attribute target _ _ => by simp [alike, alike_refl target]
  | .call _ arguments _ => by simp [alike, alikeAll_refl arguments]
  | .mapped _ source arguments _ => by
    simp [alike, alike_refl source, alikeAll_refl arguments]

theorem alikeParts_refl : (parts : List (TemplatePart Expr)) → alikeParts parts parts = true
  | [] => by rw [alikeParts]
  | .text _ :: rest => by simp [alikeParts, alikeParts_refl rest]
  | .hole expr :: rest => by simp [alikeParts, alike_refl expr, alikeParts_refl rest]

theorem alikeAll_refl : (exprs : List Expr) → alikeAll exprs exprs = true
  | [] => by rw [alikeAll]
  | expr :: rest => by simp [alikeAll, alike_refl expr, alikeAll_refl rest]

theorem alikeFields_refl : (fields : List (String × Expr)) → alikeFields fields fields = true
  | [] => by rw [alikeFields]
  | (_, expr) :: rest => by simp [alikeFields, alike_refl expr, alikeFields_refl rest]

end

/-- The expressions of the two lists are alike, one by one. -/
abbrev EachAlike : List Expr → List Expr → Prop :=
  List.Forall₂ fun a b => a.alike b = true

theorem eachAlike_of_alikeParts {ps qs : List (TemplatePart Expr)}
    (similar : alikeParts ps qs = true) :
    EachAlike (ps.filterMap TemplatePart.hole?) (qs.filterMap TemplatePart.hole?) := by
  induction ps generalizing qs with
  | nil =>
    cases qs with
    | nil => exact .nil
    | cons => simp [alikeParts] at similar
  | cons p ps ih =>
    match p, qs with
    | _, [] => simp [alikeParts] at similar
    | .text _, .hole _ :: _ => simp [alikeParts] at similar
    | .hole _, .text _ :: _ => simp [alikeParts] at similar
    | .text _, .text _ :: qs =>
      simp only [alikeParts, Bool.and_eq_true] at similar
      have others := ih similar.2
      exact others
    | .hole a, .hole b :: qs =>
      simp only [alikeParts, Bool.and_eq_true] at similar
      exact .cons similar.1 (ih similar.2)

theorem eachAlike_of_alikeAll {as bs : List Expr} (similar : alikeAll as bs = true) :
    EachAlike as bs := by
  induction as generalizing bs with
  | nil =>
    cases bs with
    | nil => exact .nil
    | cons => simp [alikeAll] at similar
  | cons a as ih =>
    cases bs with
    | nil => simp [alikeAll] at similar
    | cons b bs =>
      simp only [alikeAll, Bool.and_eq_true] at similar
      exact .cons similar.1 (ih similar.2)

theorem eachAlike_of_alikeFields {as bs : List (String × Expr)}
    (similar : alikeFields as bs = true) : EachAlike (as.map Prod.snd) (bs.map Prod.snd) := by
  induction as generalizing bs with
  | nil =>
    cases bs with
    | nil => exact .nil
    | cons => simp [alikeFields] at similar
  | cons a as ih =>
    obtain ⟨name, a⟩ := a
    cases bs with
    | nil => simp [alikeFields] at similar
    | cons b bs =>
      obtain ⟨name, b⟩ := b
      simp only [alikeFields, Bool.and_eq_true] at similar
      exact .cons similar.1.2 (ih similar.2)

/-- Like expressions have like expressions directly inside. -/
theorem eachAlike_children {a b : Expr} (similar : a.alike b = true) :
    EachAlike a.children b.children := by
  cases a <;> cases b <;> simp only [alike, Bool.and_eq_true, Bool.false_eq_true] at similar
  case literal.literal => exact .nil
  case template.template => exact eachAlike_of_alikeParts similar
  case tuple.tuple => exact eachAlike_of_alikeAll similar
  case record.record => exact eachAlike_of_alikeFields similar
  case reference.reference => exact .nil
  case attribute.attribute => exact .cons similar.1 .nil
  case call.call => exact eachAlike_of_alikeAll similar.2
  case mapped.mapped => exact .cons similar.1.2 (eachAlike_of_alikeAll similar.2)

/-- What is inside an expression has its like inside every like expression. -/
theorem exists_inside_of_alike {a b part : Expr} (similar : a.alike b = true)
    (inside : part.Inside b) : ∃ other : Expr, other.Inside a ∧ other.alike part = true := by
  induction inside generalizing a with
  | single child =>
    obtain ⟨other, among, like⟩ :=
      exists_mem_of_forall₂ (eachAlike_children similar).flip child
    exact ⟨other, .single among, like⟩
  | tail _ child ih =>
    obtain ⟨middle, among, like⟩ :=
      exists_mem_of_forall₂ (eachAlike_children similar).flip child
    obtain ⟨other, deeper, found⟩ := ih like
    exact ⟨other, .tail deeper among, found⟩

/-- No expression is like one that it is inside of. -/
theorem not_alike_of_inside {part whole : Expr} (inside : part.Inside whole) :
    part.alike whole = false := by
  induction whole using wellFounded_inside.induction generalizing part with
  | _ whole ih =>
    refine Bool.eq_false_iff.mpr fun similar => ?_
    -- Inside the part there would be another one like it, and so on for ever.
    obtain ⟨other, deeper, like⟩ := exists_inside_of_alike similar inside
    rw [ih part inside deeper] at like
    cases like

section

variable {left right : Scope Ty}

theorem checkParts_congr {parts : List (TemplatePart Expr)}
    (same : ∀ child ∈ parts.filterMap TemplatePart.hole?, child.check left = child.check right) :
    checkParts left parts = checkParts right parts := by
  induction parts with
  | nil => rfl
  | cons part rest ih =>
    cases part with
    | text text =>
      rw [checkParts, checkParts]
      exact ih same
    | hole expr =>
      obtain ⟨here, others⟩ := List.forall_mem_cons.mp same
      rw [checkParts, checkParts, here, ih others]

theorem checkItems_congr {first : Option Ty} {items : List Expr}
    (same : ∀ child ∈ items, child.check left = child.check right) :
    checkItems left first items = checkItems right first items := by
  induction items generalizing first with
  | nil => rfl
  | cons item rest ih =>
    obtain ⟨here, others⟩ := List.forall_mem_cons.mp same
    simp only [checkItems, here, ih others]

theorem checkFields_congr {fields : List (String × Expr)}
    (same : ∀ child ∈ fields.map Prod.snd, child.check left = child.check right) :
    checkFields left fields = checkFields right fields := by
  induction fields with
  | nil => rfl
  | cons field rest ih =>
    obtain ⟨here, others⟩ := List.forall_mem_cons.mp same
    simp only [checkFields, here, ih others]

theorem checkArguments_congr {position : Nat} {expected : List Ty} {arguments : List Expr}
    (same : ∀ child ∈ arguments, child.check left = child.check right) :
    checkArguments left position expected arguments =
      checkArguments right position expected arguments := by
  induction arguments generalizing position expected with
  | nil => rw [checkArguments, checkArguments]
  | cons argument rest ih =>
    obtain ⟨here, others⟩ := List.forall_mem_cons.mp same
    cases expected with
    | nil => rw [checkArguments, checkArguments]
    | cons ty more => rw [checkArguments, checkArguments, here, ih others]

theorem checkFilter_congr {function : Function} {arguments : List Expr}
    (same : ∀ child ∈ arguments, child.check left = child.check right) :
    checkFilter left function arguments = checkFilter right function arguments := by
  match arguments with
  | [] => rfl
  | [argument] => rw [checkFilter, checkFilter, same argument List.mem_cons_self]
  | _ :: _ :: _ => rfl

theorem checkAttribute_congr {arguments : List Expr}
    (same : ∀ child ∈ arguments, child.check left = child.check right) :
    checkAttribute left arguments = checkAttribute right arguments := by
  match arguments with
  | [] => rfl
  | [_] => rfl
  | [target, path] => rw [checkAttribute, checkAttribute, same target List.mem_cons_self]
  | _ :: _ :: _ :: _ => rfl

/-- The type without its wrapper, if it is known to be that of a value other than the empty one. -/
def releasedIf (known : Bool) (ty : Ty) : Ty :=
  if known then ty.required else ty

theorem settle_eq_map (scope : Scope Ty) (expr : Expr) (result : Except TypingError Ty) :
    settle scope expr result =
      (result.mapError (·.locate expr.location)).map (releasedIf (scope.knows expr)) := by
  cases result <;> rfl

theorem exists_plain_of_settle {expr : Expr} {result other : Except TypingError Ty}
    (same : result = other) : ∃ plain : Except TypingError Ty,
      settle left expr result = plain.map (releasedIf (left.knows expr)) ∧
      settle right expr other = plain.map (releasedIf (right.knows expr)) :=
  ⟨_, settle_eq_map left expr result, same ▸ settle_eq_map right expr result⟩

/-- Two scopes that agree on the names and on the expressions directly inside an expression give it
the same type, but for the wrapper. -/
theorem exists_plain_of_same_children (expr : Expr)
    (bound : ∀ name, left.resolve name = right.resolve name)
    (same : ∀ child ∈ expr.children, child.check left = child.check right) :
    ∃ plain : Except TypingError Ty,
      expr.check left = plain.map (releasedIf (left.knows expr)) ∧
      expr.check right = plain.map (releasedIf (right.knows expr)) := by
  match expr with
  | .literal value location =>
    rw [check, check]
    exact exists_plain_of_settle rfl
  | .template parts location =>
    rw [check, check]
    exact exists_plain_of_settle (by rw [checkParts_congr same])
  | .tuple items location =>
    have inside : ∀ child ∈ items, child.check left = child.check right := same
    rw [check, check]
    exact exists_plain_of_settle (by rw [checkItems_congr inside])
  | .record fields location =>
    rw [check, check]
    exact exists_plain_of_settle (by rw [checkFields_congr same])
  | .reference name location =>
    rw [check, check]
    exact exists_plain_of_settle (by rw [referenceTy, referenceTy, bound name])
  | .attribute target path location =>
    rw [check, check, same target List.mem_cons_self]
    cases target.check right with
    | error report => exact ⟨.error report, rfl, rfl⟩
    | ok ty => exact exists_plain_of_settle rfl
  | .call function arguments location =>
    have inside : ∀ child ∈ arguments, child.check left = child.check right := same
    rw [check, check]
    exact exists_plain_of_settle (by
      rw [checkArguments_congr inside, checkFilter_congr inside, checkAttribute_congr inside])
  | .mapped function source arguments location =>
    obtain ⟨here, others⟩ := List.forall_mem_cons.mp same
    rw [check, check]
    exact exists_plain_of_settle (by simp only [here, checkArguments_congr others])

end

/-- To know an expression to be set changes the type of no expression inside it. -/
theorem check_know_of_inside {part whole : Expr} (inside : part.Inside whole) (scope : Scope Ty) :
    part.check (scope.know whole) = part.check scope := by
  induction part using induction with
  | step part ih =>
    have same : ∀ child ∈ part.children, child.check (scope.know whole) = child.check scope :=
      fun child among => ih child among (.head among inside)
    obtain ⟨plain, known, before⟩ := exists_plain_of_same_children part
      (fun name => Scope.resolve_know name whole scope) same
    rw [known, before, Scope.knows_know, not_alike_of_inside inside, Bool.false_or]

/-- An expression that is known to be set has its type without the wrapper. -/
theorem check_know_self (expr : Expr) (scope : Scope Ty) :
    expr.check (scope.know expr) = if scope.knows expr then expr.check scope
      else (expr.check scope).map Ty.required := by
  have same : ∀ child ∈ expr.children, child.check (scope.know expr) = child.check scope :=
    fun child among => check_know_of_inside (.single among) scope
  obtain ⟨plain, known, before⟩ := exists_plain_of_same_children expr
    (fun name => Scope.resolve_know name expr scope) same
  rw [known, before, Scope.knows_know, alike_refl, Bool.true_or]
  cases scope.knows expr <;> cases plain <;> rfl

end Expr
end EndpointResolution
