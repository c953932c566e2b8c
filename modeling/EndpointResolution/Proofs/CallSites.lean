import EndpointResolution.Proofs.RuleSetSoundness

/-!
What the check says about calls. It visits every expression that can be evaluated, and accepts a
call only with as many arguments as the function takes, and a read of an attribute only by a text
that is a path. So checked rules never stumble over either, whatever the values are and whether or
not they are of the types that the check gives them.
-/
namespace EndpointResolution

namespace EvaluationError

/-- The failure is about the form of a call: it has a wrong number of arguments, or a text for a
path that is none. -/
def AboutForm : EvaluationError → Prop
  | .argumentCount _ _ _ => True
  | .invalidPath _ _ => True
  | .unexpectedValue _ _ => False
  | .missingParameter _ => False
  | .invalidParameter _ _ _ => False
  | .exhaustedTree _ => False
  | .noRuleMatched => False

/-- The failure is about something else than the form of a call. -/
def AboutContent (failure : EvaluationError) : Prop :=
  ¬ failure.AboutForm

theorem aboutContent_of_foreseen (failure : EvaluationError) (foreseen : failure.Foreseen) :
    failure.AboutContent := by
  cases failure with
  | argumentCount => cases foreseen
  | invalidPath => cases foreseen
  | _ => exact id

theorem aboutContent_unexpected (expected found : String) :
    AboutContent (.unexpectedValue expected found) := id

end EvaluationError

/-- The functions that are typed by their signatures do not fail with failures about calls
themselves, on as many arguments as they declare. -/
def Registry.Quiet (registry : Registry) : Prop :=
  ∀ function, registry.Has function → function.typing = .signature →
    function.Keeps EvaluationError.AboutContent

namespace Registry

theorem standard_quiet : standard.Quiet := by
  intro function has signed
  refine Function.standard_keeps EvaluationError.aboutContent_unexpected function has ?_
  intro follows
  rw [signed] at follows
  cases follows

theorem Quiet.register {registry : Registry} (quiet : registry.Quiet) {declared : Function}
    (keeps : declared.Keeps EvaluationError.AboutContent) : (registry.register declared).Quiet := by
  intro function has signed
  rcases eq_or_get?_of_register has with rfl | before
  · exact keeps
  · exact quiet function before signed

end Registry

namespace Function

/-- The call has as many arguments as the function declares, and where it reads an attribute the
second one is a literal path. -/
def Fits (function : Function) (arguments : List Expr) : Prop :=
  arguments.length = function.arguments.length ∧
    (function.typing = .attribute → ∃ target text location path,
      arguments = [target, .literal (.string text) location] ∧ Path.parse text = .ok path)

/-- The function is typed by its signature, and takes one argument more, for the elements of the
array that it is mapped over. -/
def FitsMapped (function : Function) (arguments : List Expr) : Prop :=
  function.typing = .signature ∧ function.arguments.length = arguments.length + 1

section

variable {registry : Registry} (reserved : registry.Reserved) (quiet : registry.Quiet)
  {function : Function} (has : registry.Has function) {arguments : List Expr}
include reserved quiet has

/-- A call that fits fails for its values only. -/
theorem Fits.failsOnlyOn (fits : function.Fits arguments) :
    function.FailsOnlyOn EvaluationError.AboutContent arguments := by
  intro scope values evaluated
  have sameLength : values.length = function.arguments.length :=
    (Expr.length_of_evalAll evaluated).trans fits.1
  match typing : function.typing with
  | .signature => exact (quiet function has typing).apply sameLength
  | .arrayFilter =>
    cases reserved.filter function has typing
    exact (selectSet_keeps EvaluationError.aboutContent_unexpected).apply sameLength
  | .attribute =>
    cases reserved.follow function has typing
    obtain ⟨target, text, location, path, rfl, parsed⟩ := fits.2 typing
    rw [Expr.evalAll_cons] at evaluated
    cases found : target.eval scope with
    | error failure =>
      rw [found] at evaluated
      cases evaluated
    | ok whole =>
      rw [found] at evaluated
      cases evaluated
      rw [getAttr_apply parsed]
      exact Value.follow_failsOnly EvaluationError.aboutContent_unexpected path whole

omit reserved in
/-- So does a mapped call that fits. -/
theorem FitsMapped.failsOnlyOver (fits : function.FitsMapped arguments) :
    function.FailsOnlyOver EvaluationError.AboutContent arguments := by
  intro scope values evaluated element
  refine (quiet function has fits.1).apply ?_
  rw [List.length_cons, Expr.length_of_evalAll evaluated, fits.2]

end

end Function

/-! ## What the check visits -/

namespace Expr

section

-- In a mutual block the linter does not see that a theorem needs these for those it calls.
set_option linter.unusedSectionVars false

variable {registry : Registry} (reserved : registry.Reserved)
  {plain mapped : Function → List Expr → Prop}
  (here : ∀ function arguments, registry.Has function → function.Fits arguments →
    plain function arguments)
  (each : ∀ function arguments, registry.Has function → function.FitsMapped arguments →
    mapped function arguments)
  {types : Scope Ty}
include reserved here each

mutual

/-- Every call in an expression that has a type fits. -/
theorem sites_of_check : (expr : Expr) → expr.Calls registry.Has → {ty : Ty} →
    expr.check types = .ok ty → expr.Sites plain mapped
  | .literal _ _, _, _, _ => trivial
  | .template parts _, calls, _, checked => by
    rw [check] at checked
    obtain ⟨_, typed, -⟩ := eq_ok_of_settle checked
    obtain ⟨⟨⟩, filled, -⟩ := exists_of_map_eq_ok typed
    exact sites_of_checkParts parts calls filled
  | .tuple items _, calls, _, checked => by
    rw [check] at checked
    obtain ⟨_, typed, -⟩ := eq_ok_of_settle checked
    obtain ⟨_, listed, -⟩ := exists_of_map_eq_ok typed
    exact sites_of_checkItems items calls none listed
  | .record fields _, calls, _, checked => by
    rw [check] at checked
    obtain ⟨_, typed, -⟩ := eq_ok_of_settle checked
    obtain ⟨_, listed, -⟩ := exists_of_map_eq_ok typed
    exact sites_of_checkFields fields calls listed
  | .reference _ _, _, _, _ => trivial
  | .attribute target _ _, calls, _, checked => by
    rw [check] at checked
    split at checked
    · cases checked
    next whole known => exact sites_of_check target calls known
  | .call function arguments _, calls, _, checked => by
    rw [check] at checked
    obtain ⟨_, invoked, -⟩ := eq_ok_of_settle checked
    have typed := eq_ok_of_inInvocation invoked
    split at typed
    next signed =>
      split at typed
      next sameLength =>
        obtain ⟨⟨⟩, given, -⟩ := exists_of_map_eq_ok typed
        refine ⟨here function arguments calls.1 ⟨sameLength.symm, ?_⟩,
          sites_of_checkArguments arguments calls.2 sameLength given⟩
        intro follows
        rw [signed] at follows
        cases follows
      · cases typed
    next filters =>
      cases reserved.filter function calls.1 filters
      obtain ⟨argument, _, rfl, known, -⟩ := eq_of_checkFilter typed
      exact ⟨here _ _ calls.1 ⟨rfl, nofun⟩, sites_of_check argument calls.2.1 known, trivial⟩
    next follows =>
      cases reserved.follow function calls.1 follows
      obtain ⟨target, text, place, path, _, rfl, parsed, known, -⟩ := eq_of_checkAttribute typed
      refine ⟨here _ _ calls.1 ⟨rfl, fun _ => ⟨target, text, place, path, rfl, parsed⟩⟩,
        sites_of_check target calls.2.1 known, trivial, trivial⟩
  | .mapped function source arguments _, calls, _, checked => by
    obtain ⟨element, others, _, signed, declared, sameRest, known, -, given, -⟩ :=
      check_mapped_iff.mp checked
    refine ⟨each function arguments calls.1 ⟨signed, ?_⟩, sites_of_check source calls.2.1 known,
      sites_of_checkArguments arguments calls.2.2 sameRest given⟩
    rw [declared, List.length_cons, sameRest]

theorem sites_of_checkParts : (parts : List (TemplatePart Expr)) →
    PartsCall registry.Has parts → checkParts types parts = .ok () →
    PartsSites plain mapped parts
  | [], _, _ => trivial
  | .text _ :: rest, calls, checked => by
    rw [checkParts] at checked
    exact sites_of_checkParts rest calls checked
  | .hole expr :: rest, calls, checked => by
    rw [checkParts] at checked
    split at checked
    · cases checked
    next found known =>
    split at checked
    · cases checked
    exact ⟨sites_of_check expr calls.1 known, sites_of_checkParts rest calls.2 checked⟩

theorem sites_of_checkItems : (items : List Expr) → AllCall registry.Has items →
    (first : Option Ty) → {ty : Ty} → checkItems types first items = .ok ty →
    AllSites plain mapped items
  | [], _, _, _, _ => trivial
  | item :: rest, calls, first, _, checked => by
    rw [checkItems] at checked
    split at checked
    · cases checked
    next found known =>
    refine ⟨sites_of_check item calls.1 known, ?_⟩
    split at checked
    · exact sites_of_checkItems rest calls.2 _ checked
    · split at checked
      · exact sites_of_checkItems rest calls.2 _ checked
      · cases checked

theorem sites_of_checkFields : (fields : List (String × Expr)) → FieldsCall registry.Has fields →
    {tys : List (String × Ty)} → checkFields types fields = .ok tys →
    FieldsSites plain mapped fields
  | [], _, _, _ => trivial
  | (_, expr) :: rest, calls, _, checked => by
    rw [checkFields] at checked
    split at checked
    · cases checked
    next found known =>
    obtain ⟨_, listed, -⟩ := exists_of_map_eq_ok checked
    exact ⟨sites_of_check expr calls.1 known, sites_of_checkFields rest calls.2 listed⟩

/-- No argument is left out, as there are as many as are expected. -/
theorem sites_of_checkArguments : (arguments : List Expr) → AllCall registry.Has arguments →
    {position : Nat} → {expected : List Ty} → expected.length = arguments.length →
    checkArguments types position expected arguments = .ok () → AllSites plain mapped arguments
  | [], _, _, _, _, _ => trivial
  | argument :: rest, calls, _, [], sameLength, _ => by simp at sameLength
  | argument :: rest, calls, _, ty :: others, sameLength, checked => by
    rw [checkArguments] at checked
    split at checked
    · cases checked
    next found known =>
    split at checked
    · cases checked
    exact ⟨sites_of_check argument calls.1 known,
      sites_of_checkArguments rest calls.2 (Nat.succ.inj sameLength) checked⟩

end

end

end Expr

section

-- As above.
set_option linter.unusedSectionVars false

variable {built typed : Expr → Prop}
  (carries : ∀ expr types ty, built expr → expr.check types = .ok ty → typed expr)
include carries

theorem Condition.each_of_checkAll {conditions : List Condition} {types : Scope Ty}
    (each : ∀ condition ∈ conditions, built condition.test)
    (checked : (checkAll conditions types).1 = .ok ()) :
    ∀ condition ∈ conditions, typed condition.test := by
  induction conditions generalizing types with
  | nil => simp
  | cons condition rest ih =>
    rw [List.forall_mem_cons] at each ⊢
    rw [checkAll] at checked
    split at checked
    · cases checked
    next ty after accepted =>
      exact ⟨carries _ _ _ each.1 (eq_of_check accepted).1, ih each.2 checked⟩

theorem EndpointTemplate.each_of_check {endpoint : EndpointTemplate} {types : Scope Ty}
    (each : endpoint.Each built) (checked : endpoint.check types = .ok ()) :
    endpoint.Each typed := by
  obtain ⟨url, headers, properties⟩ := check_eq_ok_iff.mp checked
  refine ⟨?_, fun header member value inside => ?_, fun entry member => ?_⟩
  · obtain ⟨ty, known⟩ := Expr.exists_check_of_expect url
    exact carries _ _ ty each.url known
  · obtain ⟨ty, known⟩ := Expr.exists_check_of_expect (headers header member value inside)
    exact carries _ _ ty (each.headers header member value inside) known
  · obtain ⟨ty, known⟩ := properties entry member
    exact carries _ _ ty (each.properties entry member) known

namespace Rule

mutual

/-- The check of a rule gives every expression in it a type, in some scope. -/
theorem each_of_check : (rule : Rule) → {types : Scope Ty} → rule.Each built →
    (rule.check types).1 = .ok () → rule.Each typed
  | .tree _ children _, _, each, checked => by
    obtain ⟨tests, body⟩ := (check_eq_ok_iff _ _).mp checked
    exact ⟨Condition.each_of_checkAll carries each.1 tests, allEach_of_checkAll children each.2 body⟩
  | .error _ message _, _, each, checked => by
    obtain ⟨tests, body⟩ := (check_eq_ok_iff _ _).mp checked
    obtain ⟨ty, known⟩ := Expr.exists_check_of_expect (checkMessage_eq_ok_iff.mp body)
    exact ⟨Condition.each_of_checkAll carries each.1 tests, carries _ _ ty each.2 known⟩
  | .endpoint _ target _, _, each, checked => by
    obtain ⟨tests, body⟩ := (check_eq_ok_iff _ _).mp checked
    exact ⟨Condition.each_of_checkAll carries each.1 tests, target.each_of_check carries each.2 body⟩

theorem allEach_of_checkAll : (rules : List Rule) → {types : Scope Ty} → AllEach built rules →
    (checkAll rules types).1 = .ok () → AllEach typed rules
  | [], _, _, _ => trivial
  | rule :: rest, types, each, checked => by
    rw [checkAll_eq_ok_iff, List.forall_mem_cons, ← checkAll_eq_ok_iff] at checked
    exact ⟨each_of_check rule each.1 checked.1, allEach_of_checkAll rest each.2 checked.2⟩

end

end Rule

end

namespace RuleSet

variable {registry : Registry} {set : RuleSet}

/-- Every call in a checked rule-set fits. -/
theorem sites_of_check (reserved : registry.Reserved)
    (built : Rule.AllEach (Expr.Calls registry.Has) set.rules) (checked : set.check = .ok ()) :
    Rule.AllEach (Expr.Sites Function.Fits Function.FitsMapped) set.rules :=
  Rule.allEach_of_checkAll (fun expr _ _ calls known =>
    expr.sites_of_check reserved (fun _ _ _ fits => fits) (fun _ _ _ fits => fits) calls known)
    set.rules built checked

/-- The evaluation of a checked rule-set does not fail about calls. -/
theorem aboutContent_of_check (reserved : registry.Reserved) (quiet : registry.Quiet)
    (built : Rule.AllEach (Expr.Calls registry.Has) set.rules) (checked : set.check = .ok ())
    (arguments : Fields Value) :
    FailsOnly EvaluationError.AboutContent (set.evaluate arguments) := by
  refine evaluate_failsOnly EvaluationError.aboutContent_of_foreseen
    EvaluationError.aboutContent_unexpected ?_ arguments
  refine Rule.allEach_of_checkAll ?_ set.rules built checked
  intro expr types ty calls known scope
  refine expr.eval_failsOnly_of_sites EvaluationError.aboutContent_unexpected scope ?_
  exact expr.sites_of_check reserved (fun _ _ has fits => fits.failsOnlyOn reserved quiet has)
    (fun _ _ has fits => fits.failsOnlyOver quiet has) calls known

/-- In a checked rule-set over any registry every call has the arguments that its function takes,
and no evaluation fails with a wrong number of arguments or a path that is none. -/
theorem evaluate_ne_callFault (registry : Registry) (reserved : registry.Reserved)
    (quiet : registry.Quiet) (set : RuleSet)
    (built : Rule.AllEach (Expr.Calls registry.Has) set.rules) (checked : set.check = .ok ()) :
    Rule.AllEach (Expr.Sites Function.Fits Function.FitsMapped) set.rules ∧
      ∀ arguments : Fields Value,
        (∀ function expected found,
          set.evaluate arguments ≠ .error (.argumentCount function expected found)) ∧
        ∀ path fault, set.evaluate arguments ≠ .error (.invalidPath path fault) := by
  refine ⟨sites_of_check reserved built checked, fun arguments => ?_⟩
  have content := aboutContent_of_check reserved quiet built checked arguments
  constructor
  · intro function expected found failed
    rw [failed] at content
    exact content trivial
  · intro path fault failed
    rw [failed] at content
    exact content trivial

/-- The length of a text, declared as a string although it is a number. -/
def lengthText : Function :=
  .unary "length" .string .string fun value =>
    value.expectString.map fun text => .integer (.ofNat text.length)

/-- The standard functions and this one. -/
def withLength : Registry :=
  Registry.standard.register lengthText

/-- The error "x" if the first of the lengths of some texts is "1". -/
def firstLengthRule : Rule :=
  .error [⟨.mapped lengthText (.tuple [.string "a", .string "b"] .unknown) [] .unknown,
      some "Lengths"⟩,
    ⟨.call .getAttr [.reference "Lengths" .unknown, .string "[0]"] .unknown, some "First"⟩,
    ⟨.call .stringEquals [.reference "First" .unknown, .string "1"] .unknown, none⟩]
    (.string "x") .none

/-- The rule-set with this rule. -/
def firstLength : RuleSet where
  version := "1.0"
  parameters := []
  rules := [firstLengthRule]
  distinct := by decide

theorem lengthText_keeps : lengthText.Keeps EvaluationError.AboutContent :=
  Function.unary_keeps fun value =>
    (value.expectString_failsOnly EvaluationError.aboutContent_unexpected).map _

/-- The evaluation fails at the comparison of a number with a text, after all calls before it. -/
theorem evaluate_ne_callFault_of_firstLength :
    firstLength.evaluate [] = .error (.unexpectedValue "String" "Integer") ∧
    Rule.AllEach (Expr.Sites Function.Fits Function.FitsMapped) firstLength.rules := by
  refine ⟨rfl, (evaluate_ne_callFault withLength
    (Registry.standard_reserved.register rfl) (Registry.standard_quiet.register lengthText_keeps)
    firstLength ⟨⟨?_, trivial⟩, trivial⟩ rfl).1⟩
  rintro condition (_ | ⟨_, _ | ⟨_, _ | ⟨_, ⟨⟩⟩⟩⟩)
  · exact ⟨rfl, ⟨trivial, trivial, trivial⟩, trivial⟩
  · exact ⟨rfl, trivial, trivial, trivial⟩
  · exact ⟨rfl, trivial, trivial, trivial⟩

end RuleSet
end EndpointResolution
