import EndpointResolution.Proofs.Acceptance
import EndpointResolution.Proofs.ExprNarrowing
import EndpointResolution.Proofs.Frames
import Mathlib.Data.List.Forall2

/-!
Changes that a checked rule-set survives. Required parameters, defaults and further conditions
`isSet(e)` in front of the others make scopes narrower, so that what was accepted before still is, as
long as no tuple has several items.
-/
namespace EndpointResolution

/-- The expression is built from standard functions, and none of its tuples has two or more
items. -/
structure Expr.Simple (expr : Expr) : Prop where
  built : expr.Over Registry.standard
  small : expr.SmallTuples

section

variable {wide narrow : Scope Ty} (narrows : wide.Narrows narrow)
include narrows

namespace Expr

theorem Simple.check_narrows {expr : Expr} (simple : expr.Simple) :
    ResultNarrows (expr.check wide) (expr.check narrow) :=
  Expr.check_narrows narrows expr
    (Calls.mono Registry.standard_returnsCollapsed expr simple.built.calls) simple.small

theorem Simple.expect {expr : Expr} (simple : expr.Simple) {place : Place} {expected : Ty}
    (accepted : expr.expect wide place expected = .ok ()) :
    expr.expect narrow place expected = .ok () := by
  rw [Expr.expect] at accepted ⊢
  split at accepted
  · cases accepted
  next found known =>
    obtain ⟨other, there, narrower⟩ := simple.check_narrows narrows found known
    rw [there]
    exact accept_of_narrowsTo narrower accepted

end Expr

theorem EndpointTemplate.check_of_narrows {endpoint : EndpointTemplate}
    (simple : endpoint.Each Expr.Simple) (accepted : endpoint.check wide = .ok ()) :
    endpoint.check narrow = .ok () := by
  obtain ⟨url, headers, properties⟩ := check_eq_ok_iff.mp accepted
  refine check_eq_ok_iff.mpr ⟨simple.url.expect narrows url, ?_, ?_⟩
  · intro header member value inside
    exact (simple.headers header member value inside).expect narrows
      (headers header member value inside)
  · intro entry member
    obtain ⟨ty, known⟩ := properties entry member
    obtain ⟨other, there, -⟩ := (simple.properties entry member).check_narrows narrows ty known
    exact ⟨other, there⟩

namespace Condition

/-- Once it is accepted, a condition leaves narrower scopes narrower. -/
theorem learn_narrows (condition : Condition) {ty other : Ty}
    (narrower : ty.narrowsTo other = true) :
    (condition.learnResult ty (condition.learnProven wide)).Narrows
      (condition.learnResult other (condition.learnProven narrow)) := by
  have proven : (condition.learnProven wide).Narrows (condition.learnProven narrow) := by
    unfold learnProven
    split
    · exact narrows.know _
    · exact narrows
  unfold learnResult
  simp only [Ty.required_eq_any_iff narrower]
  split
  · split
    · exact proven
    · exact proven.insert _ (Ty.required_narrowsTo narrower).2
  · exact proven

theorem checkAll_narrows {conditions : List Condition}
    (simple : ∀ condition ∈ conditions, condition.test.Simple)
    (accepted : (checkAll conditions wide).1 = .ok ()) :
    (checkAll conditions narrow).1 = .ok () ∧
      (checkAll conditions wide).2.Narrows (checkAll conditions narrow).2 := by
  induction conditions generalizing wide narrow with
  | nil => exact ⟨rfl, narrows⟩
  | cons condition rest ih =>
    obtain ⟨here, later⟩ := List.forall_mem_cons.mp simple
    cases known : condition.test.check wide with
    | error report => simp [checkAll, check, known] at accepted
    | ok ty =>
      obtain ⟨other, there, narrower⟩ := here.check_narrows narrows ty known
      simp only [checkAll, check, known, there] at accepted ⊢
      exact ih (condition.learn_narrows narrows narrower) later accepted

end Condition

end

/-- The expression has a type where it stands in the changed rules. For a simple expression it is
enough to have one where it stands in the unchanged ones. -/
def Expr.TypedIn (wide narrow : Scope Ty) (expr : Expr) : Prop :=
  (∃ ty, expr.check narrow = .ok ty) ∨ (expr.Simple ∧ ∃ ty, expr.check wide = .ok ty)

namespace Condition

/-- The conditions all are `isSet(e)` without a result, for an expression that has a type there. -/
inductive Guards (wide : Scope Ty) : Scope Ty → List Condition → Prop where
  | nil (narrow : Scope Ty) : Guards wide narrow []
  | cons {argument : Expr} {location : Location} {narrow : Scope Ty} {rest : List Condition}
      (typed : argument.TypedIn wide narrow) (others : Guards wide (narrow.know argument) rest) :
      Guards wide narrow (⟨.call .isSet [argument] location, none⟩ :: rest)

theorem check_isSet {argument : Expr} {location : Location} {scope : Scope Ty} {ty : Ty}
    (typed : argument.check scope = .ok ty) :
    check ⟨.call .isSet [argument] location, none⟩ scope = (.ok .boolean, scope.know argument) := by
  have arguments : Expr.checkArguments scope 1 Function.isSet.arguments [argument] = .ok () := by
    simp only [Function.isSet, Function.unary, Expr.checkArguments, typed, Expr.accept, Ty.accepts,
      if_true]
  have accepted : (Expr.call .isSet [argument] location).check scope = .ok .boolean := by
    rw [Expr.check, arguments]
    change Except.ok (if _ then Ty.boolean else Ty.boolean) = _
    rw [ite_self]
  rw [check, accepted]
  rfl

/-- Guards are accepted and make the scope narrower. -/
theorem Guards.narrows_right {wide narrow : Scope Ty} {guards : List Condition}
    (guarded : Guards wide narrow guards) (narrows : wide.Narrows narrow) :
    (checkAll guards narrow).1 = .ok () ∧ wide.Narrows (checkAll guards narrow).2 := by
  induction guarded with
  | nil narrow => exact ⟨rfl, narrows⟩
  | cons typed others ih =>
    obtain ⟨ty, known⟩ : ∃ ty, Expr.check _ _ = .ok ty := by
      rcases typed with here | ⟨simple, ty, before⟩
      · exact here
      · obtain ⟨other, there, -⟩ := simple.check_narrows narrows ty before
        exact ⟨other, there⟩
    rw [checkAll, check_isSet known]
    exact ih (narrows.know_right _)

theorem checkAll_append {first : List Condition} {scope : Scope Ty}
    (accepted : (checkAll first scope).1 = .ok ()) (rest : List Condition) :
    checkAll (first ++ rest) scope = checkAll rest (checkAll first scope).2 := by
  induction first generalizing scope with
  | nil => rfl
  | cons condition others ih =>
    rw [List.cons_append, checkAll, checkAll]
    rw [checkAll] at accepted
    split at accepted
    · cases accepted
    · exact ih accepted

/-- Conditions are accepted after guards, and leave the narrower scopes narrower. -/
theorem Guards.append_narrows {wide narrow : Scope Ty} {guards conditions : List Condition}
    (guarded : Guards wide narrow guards) (narrows : wide.Narrows narrow)
    (simple : ∀ condition ∈ conditions, condition.test.Simple)
    (accepted : (checkAll conditions wide).1 = .ok ()) :
    (checkAll (guards ++ conditions) narrow).1 = .ok () ∧
      (checkAll conditions wide).2.Narrows (checkAll (guards ++ conditions) narrow).2 := by
  obtain ⟨first, further⟩ := guarded.narrows_right narrows
  rw [checkAll_append first]
  exact checkAll_narrows further simple accepted

end Condition

namespace Rule

mutual

/-- The second rule is the first with guards in front of its conditions, and so are the rules in
it. The scopes are those in which the two rules are checked. -/
inductive Guarded : Scope Ty → Scope Ty → Rule → Rule → Prop where
  | tree {wide narrow : Scope Ty} {guards conditions : List Condition} {children others : List Rule}
      {notes : RuleNotes} (guarded : Condition.Guards wide narrow guards)
      (inside : AllGuarded (Condition.checkAll conditions wide).2
        (Condition.checkAll (guards ++ conditions) narrow).2 children others) :
      Guarded wide narrow (.tree conditions children notes)
        (.tree (guards ++ conditions) others notes)
  | error {wide narrow : Scope Ty} {guards conditions : List Condition} {message : Expr}
      {notes : RuleNotes} (guarded : Condition.Guards wide narrow guards) :
      Guarded wide narrow (.error conditions message notes)
        (.error (guards ++ conditions) message notes)
  | endpoint {wide narrow : Scope Ty} {guards conditions : List Condition}
      {target : EndpointTemplate} {notes : RuleNotes}
      (guarded : Condition.Guards wide narrow guards) :
      Guarded wide narrow (.endpoint conditions target notes)
        (.endpoint (guards ++ conditions) target notes)

/-- Each rule of the second list is the one of the first with guards. -/
inductive AllGuarded : Scope Ty → Scope Ty → List Rule → List Rule → Prop where
  | nil (wide narrow : Scope Ty) : AllGuarded wide narrow [] []
  | cons {wide narrow : Scope Ty} {rule other : Rule} {rest others : List Rule}
      (first : Guarded wide.push narrow.push rule other)
      (later : AllGuarded wide narrow rest others) :
      AllGuarded wide narrow (rule :: rest) (other :: others)

end

mutual

theorem check_of_guarded : (rule : Rule) → {wide narrow : Scope Ty} → {other : Rule} →
    rule.Each Expr.Simple → wide.Narrows narrow → Guarded wide narrow rule other →
    (rule.check wide).1 = .ok () → (other.check narrow).1 = .ok ()
  | .tree conditions children notes, _, _, _, each, narrows, .tree guarded inside, checked => by
    obtain ⟨tests, body⟩ := (check_eq_ok_iff _ _).mp checked
    obtain ⟨accepted, further⟩ := guarded.append_narrows narrows each.1 tests
    exact (check_eq_ok_iff _ _).mpr
      ⟨accepted, checkAll_of_guarded children each.2 further inside body⟩
  | .error conditions message notes, _, _, _, each, narrows, .error guarded, checked => by
    obtain ⟨tests, body⟩ := (check_eq_ok_iff _ _).mp checked
    obtain ⟨accepted, further⟩ := guarded.append_narrows narrows each.1 tests
    have expected := each.2.expect further (checkMessage_eq_ok_iff.mp body)
    exact (check_eq_ok_iff _ _).mpr ⟨accepted, checkMessage_eq_ok_iff.mpr expected⟩
  | .endpoint conditions target notes, _, _, _, each, narrows, .endpoint guarded, checked => by
    obtain ⟨tests, body⟩ := (check_eq_ok_iff _ _).mp checked
    obtain ⟨accepted, further⟩ := guarded.append_narrows narrows each.1 tests
    exact (check_eq_ok_iff _ _).mpr
      ⟨accepted, EndpointTemplate.check_of_narrows further each.2 body⟩

theorem checkAll_of_guarded : (rules : List Rule) → {wide narrow : Scope Ty} →
    {others : List Rule} → AllEach Expr.Simple rules → wide.Narrows narrow →
    AllGuarded wide narrow rules others → (checkAll rules wide).1 = .ok () →
    (checkAll others narrow).1 = .ok ()
  | [], _, _, _, _, _, .nil _ _, _ => rfl
  | rule :: rest, _, _, _, each, narrows, .cons first later, checked => by
    rw [checkAll_eq_ok_iff, List.forall_mem_cons, ← checkAll_eq_ok_iff] at checked ⊢
    exact ⟨check_of_guarded rule each.1 narrows.push first checked.1,
      checkAll_of_guarded rest each.2 narrows later checked.2⟩

end

end Rule

/-- The second parameter may be required, or have a default, where the first is not or has none. -/
structure Parameter.Tightens (parameter other : Parameter) : Prop where
  sameName : other.name = parameter.name
  sameKind : other.kind = parameter.kind
  required : parameter.required = true → other.required = true
  default : parameter.default.isSome = true → other.default.isSome = true

theorem Parameter.Tightens.scopeTy {parameter other : Parameter}
    (tightens : parameter.Tightens other) :
    parameter.scopeTy.narrowsTo other.scopeTy = true := by
  have declared : other.declaredTy = parameter.declaredTy := by
    rw [declaredTy, declaredTy, tightens.sameKind]
  have same : parameter.declaredTy.narrowsTo parameter.declaredTy = true := by
    unfold declaredTy
    cases parameter.kind <;> rfl
  unfold Parameter.scopeTy
  rw [declared]
  by_cases set : (parameter.required || parameter.default.isSome) = true
  · have still : (other.required || other.default.isSome) = true := by
      rw [Bool.or_eq_true] at set ⊢
      exact set.imp tightens.required tightens.default
    rw [if_pos set, if_pos still]
    exact same
  · rw [if_neg set]
    split
    · exact Ty.narrowsTo_of_orEmpty same
    · exact Ty.orEmpty_narrowsTo same

namespace RuleSet

theorem typeScope_narrows {parameters others : List Parameter}
    (tightened : List.Forall₂ Parameter.Tightens parameters others) {wide narrow : Scope Ty}
    (narrows : wide.Narrows narrow) :
    (parameters.foldl (fun scope parameter => scope.insert parameter.name parameter.scopeTy)
      wide).Narrows
    (others.foldl (fun scope parameter => scope.insert parameter.name parameter.scopeTy)
      narrow) := by
  induction tightened generalizing wide narrow with
  | nil => exact narrows
  | cons first later ih =>
    rw [List.foldl_cons, List.foldl_cons, first.sameName]
    exact ih (narrows.insert _ first.scopeTy)

/-- Narrowing does not break a checked rule-set over the standard functions in which no tuple has
two or more items. It is still accepted if parameters become required or have a default, and if in
front of the conditions of any rules there are conditions `isSet(e)` whose expression has a type
there. -/
theorem check_of_narrowed (set other : RuleSet) (simple : Rule.AllEach Expr.Simple set.rules)
    (checked : set.check = .ok ())
    (tightened : List.Forall₂ Parameter.Tightens set.parameters other.parameters)
    (guarded : Rule.AllGuarded set.typeScope other.typeScope set.rules other.rules) :
    other.check = .ok () := by
  have narrows : set.typeScope.Narrows other.typeScope :=
    typeScope_narrows tightened ⟨nofun, nofun⟩
  exact Rule.checkAll_of_guarded set.rules simple narrows guarded checked

/-- A rule-set whose error names the bucket if it is set. -/
def namesBucket : RuleSet where
  version := "1.0"
  parameters := [Parameter.ofName "Bucket" .string]
  rules := [.tree [⟨.reference "Bucket" .unknown, some "Name"⟩]
    [.error [] (.reference "Name" .unknown) .none] .none]
  distinct := by decide

/-- The same with a required bucket, and with a guard in the tree, which depends on that, and one in
the rule inside. -/
def requiresBucket : RuleSet where
  version := "1.0"
  parameters := [{ Parameter.ofName "Bucket" .string with required := true }]
  rules := [.tree
    [⟨.call .isSet [.template [.hole (.reference "Bucket" .unknown)] .unknown] .unknown, none⟩,
      ⟨.reference "Bucket" .unknown, some "Name"⟩]
    [.error [⟨.call .isSet [.reference "Name" .unknown] .unknown, none⟩]
      (.reference "Name" .unknown) .none] .none]
  distinct := by decide

theorem check_of_narrowed_of_requiresBucket : requiresBucket.check = .ok () := by
  have simple (name : String) : (Expr.reference name .unknown).Simple :=
    ⟨⟨trivial, trivial⟩, trivial⟩
  refine check_of_narrowed namesBucket requiresBucket ?_ (by rfl) ?_ ?_
  · refine ⟨⟨?_, ⟨?_, simple "Name"⟩, trivial⟩, trivial⟩
    · rintro condition (_ | ⟨_, ⟨⟩⟩)
      exact simple "Bucket"
    · rintro condition ⟨⟩
  · refine .cons ⟨rfl, rfl, fun required => ?_, fun defaulted => ?_⟩ .nil
    · cases required
    · cases defaulted
  · refine .cons (@Rule.Guarded.tree _ _ [_] _ _ _ _ ?_
      (.cons (@Rule.Guarded.error _ _ [_] _ _ _ ?_) (.nil _ _))) (.nil _ _)
    · exact .cons (.inl ⟨.string, by rfl⟩) (.nil _)
    · exact .cons (.inr ⟨simple "Name", .string, by rfl⟩) (.nil _)

end RuleSet
end EndpointResolution
