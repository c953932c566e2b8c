import EndpointResolution.Proofs.Results
import EndpointResolution.Proofs.Sequence
import EndpointResolution.Proofs.Signature

/-!
What the evaluation of an expression can fail with: values of an unexpected kind, wrong numbers of
arguments, and what the functions that it calls fail with.
-/
namespace EndpointResolution

/-- A kind of failures that has all those which expressions themselves can give rise to. -/
structure EvaluationError.Common (kind : EvaluationError → Prop) : Prop where
  unexpected : ∀ expected found, kind (.unexpectedValue expected found)
  counted : ∀ function expected found, kind (.argumentCount function expected found)

/-- The function fails with failures of a kind only. -/
def Function.FailsOnly (kind : EvaluationError → Prop) (function : Function) : Prop :=
  ∀ values, EndpointResolution.FailsOnly kind (function.rule values)

variable {kind : EvaluationError → Prop}

/-- On as many arguments as are declared the function fails with failures of a kind only. -/
def Function.Keeps (kind : EvaluationError → Prop) (function : Function) : Prop :=
  ∀ values, values.length = function.arguments.length →
    EndpointResolution.FailsOnly kind (function.rule values)

/-- On any other number of arguments the function reports this number. -/
def Function.Counts (function : Function) : Prop :=
  ∀ values, values.length ≠ function.arguments.length →
    function.rule values = .error (function.wrongCount values)

theorem Function.Keeps.withTyping {function : Function} (keeps : function.Keeps kind)
    (typing : TypingRule) : (function.withTyping typing).Keeps kind := keeps

theorem Function.Counts.withTyping {function : Function} (counts : function.Counts)
    (typing : TypingRule) : (function.withTyping typing).Counts := counts

/-- In every scope the expression fails with failures of a kind only. -/
def Expr.FailsOnly (kind : EvaluationError → Prop) (expr : Expr) : Prop :=
  ∀ scope, EndpointResolution.FailsOnly kind (expr.eval scope)

section

variable (unexpected : ∀ expected found, kind (.unexpectedValue expected found))
include unexpected

theorem Value.expectString_failsOnly (value : Value) : FailsOnly kind value.expectString := by
  cases value with
  | string text => trivial
  | _ => exact unexpected _ _

theorem Value.expectBoolean_failsOnly (value : Value) : FailsOnly kind value.expectBoolean := by
  cases value with
  | boolean truth => trivial
  | _ => exact unexpected _ _

theorem Value.expectInteger_failsOnly (value : Value) : FailsOnly kind value.expectInteger := by
  cases value with
  | integer number => trivial
  | _ => exact unexpected _ _

theorem Value.expectArray_failsOnly (value : Value) : FailsOnly kind value.expectArray := by
  cases value with
  | array items => trivial
  | _ => exact unexpected _ _

theorem Value.follow_failsOnly (path : Path) (value : Value) :
    FailsOnly kind (value.follow path) := by
  induction path generalizing value with
  | nil => trivial
  | cons step rest ih =>
    unfold follow
    split
    · trivial
    · split
      · exact ih _
      · trivial
    · split
      · exact ih _
      · trivial
    · exact unexpected _ _
    · exact unexpected _ _

namespace Function

theorem truths_failsOnly (value : Value) : EndpointResolution.FailsOnly kind (truths value) := by
  refine (value.expectArray_failsOnly unexpected).bind fun items => ?_
  induction items with
  | nil => trivial
  | cons item rest ih =>
    rw [mapM_cons_eq_bind]
    exact (item.expectBoolean_failsOnly unexpected).bind fun _ => ih.map _

omit unexpected in
theorem unary_keeps {id : String} {argument returns : Ty}
    {rule : Value → Except EvaluationError Value}
    (only : ∀ value, EndpointResolution.FailsOnly kind (rule value)) :
    (unary id argument returns rule).Keeps kind := by
  intro values sameLength
  obtain ⟨value, rfl⟩ := List.length_eq_one_iff.mp sameLength
  exact only value

omit unexpected in
theorem binary_keeps {id : String} {first second returns : Ty}
    {rule : Value → Value → Except EvaluationError Value}
    (only : ∀ a b, EndpointResolution.FailsOnly kind (rule a b)) :
    (binary id first second returns rule).Keeps kind := by
  intro values sameLength
  obtain ⟨a, b, rfl⟩ := List.length_eq_two.mp sameLength
  exact only a b

theorem substring_keeps : substring.Keeps kind := by
  rintro (_ | ⟨text, _ | ⟨start, _ | ⟨stop, _ | ⟨backward, _ | ⟨_, _⟩⟩⟩⟩⟩) sameLength
  case cons.cons.cons.cons.nil =>
    exact (text.expectString_failsOnly unexpected).bind fun _ =>
      (start.expectInteger_failsOnly unexpected).bind fun _ =>
      (stop.expectInteger_failsOnly unexpected).bind fun _ =>
      (backward.expectBoolean_failsOnly unexpected).bind fun _ => trivial
  all_goals simp [substring] at sameLength

/-- A path that is none is what `getAttr` fails with beside values of an unexpected kind. -/
theorem getAttr_keeps (paths : ∀ path fault, kind (.invalidPath path fault)) :
    getAttr.Keeps kind := by
  refine Keeps.withTyping (binary_keeps fun target path => ?_) .attribute
  refine (path.expectString_failsOnly unexpected).bind fun text => ?_
  split
  · exact paths _ _
  · exact Value.follow_failsOnly unexpected _ target

theorem selectSet_keeps : selectSet.Keeps kind := by
  refine Keeps.withTyping (unary_keeps fun value => ?_) .arrayFilter
  exact (value.expectArray_failsOnly unexpected).bind fun _ => trivial

/-- On as many arguments as they declare, the functions of the standard registry fail with values of
an unexpected kind only, but for the one that reads paths. -/
theorem standard_keeps : ∀ function, Registry.standard.Has function →
    (function.typing = .attribute → ∀ path fault, kind (.invalidPath path fault)) →
    function.Keeps kind := by
  refine Registry.forall_standard ?_
  simp only [standard, onTexts, List.cons_append, List.nil_append, List.forall_mem_cons,
    List.not_mem_nil, false_implies, implies_true, and_true]
  have texts := fun value => Value.expectString_failsOnly unexpected value
  have booleans := fun value => Value.expectBoolean_failsOnly unexpected value
  refine ⟨fun _ => unary_keeps fun _ => trivial, ?_, ?_, ?_,
    fun paths => getAttr_keeps unexpected (paths rfl), ?_, ?_,
    fun _ => selectSet_keeps unexpected, fun _ => substring_keeps unexpected, ?_, ?_, ?_⟩
  · exact fun _ => unary_keeps fun value => (booleans value).bind fun _ => trivial
  · exact fun _ => binary_keeps fun a b =>
      (booleans a).bind fun _ => (booleans b).bind fun _ => trivial
  · exact fun _ => binary_keeps fun a b =>
      (texts a).bind fun _ => (texts b).bind fun _ => trivial
  · exact fun _ => binary_keeps fun items expected =>
      (truths_failsOnly unexpected items).bind fun _ => (booleans expected).bind fun _ => trivial
  · exact fun _ => binary_keeps fun items expected =>
      (truths_failsOnly unexpected items).bind fun _ => (booleans expected).bind fun _ => trivial
  · exact fun _ => unary_keeps fun value => (texts value).bind fun _ => trivial
  · exact fun _ => binary_keeps fun value dotted =>
      (texts value).bind fun _ => (booleans dotted).bind fun _ => trivial
  · exact fun _ => unary_keeps fun value => (texts value).bind fun _ => trivial

end Function

end

namespace Function

theorem unary_counts {id : String} {argument returns : Ty}
    {rule : Value → Except EvaluationError Value} : (unary id argument returns rule).Counts := by
  rintro (_ | ⟨value, _ | ⟨_, _⟩⟩) other
  case cons.nil => exact absurd rfl other
  all_goals rfl

theorem binary_counts {id : String} {first second returns : Ty}
    {rule : Value → Value → Except EvaluationError Value} :
    (binary id first second returns rule).Counts := by
  rintro (_ | ⟨a, _ | ⟨b, _ | ⟨_, _⟩⟩⟩) other
  case cons.cons.nil => exact absurd rfl other
  all_goals rfl

theorem substring_counts : substring.Counts := by
  rintro (_ | ⟨text, _ | ⟨start, _ | ⟨stop, _ | ⟨backward, _ | ⟨_, _⟩⟩⟩⟩⟩) other
  case cons.cons.cons.cons.nil => exact absurd rfl other
  all_goals rfl

theorem standard_counts : ∀ function, Registry.standard.Has function → function.Counts := by
  refine Registry.forall_standard ?_
  simp only [standard, onTexts, List.cons_append, List.nil_append, List.forall_mem_cons,
    List.not_mem_nil, false_implies, implies_true, and_true]
  exact ⟨unary_counts, unary_counts, binary_counts, binary_counts,
    binary_counts.withTyping .attribute, binary_counts, binary_counts,
    unary_counts.withTyping .arrayFilter, substring_counts, unary_counts, binary_counts,
    unary_counts⟩

/-- The functions of the standard registry fail with the common failures and invalid paths only. -/
theorem standard_failsOnly (common : EvaluationError.Common kind)
    (paths : ∀ path fault, kind (.invalidPath path fault)) :
    ∀ function, Registry.standard.Has function → function.FailsOnly kind := by
  intro function has values
  by_cases sameLength : values.length = function.arguments.length
  · exact standard_keeps common.unexpected function has (fun _ => paths) values sameLength
  · rw [standard_counts function has values sameLength]
    exact common.counted _ _ _

theorem Keeps.apply {function : Function} (keeps : function.Keeps kind) {values : List Value}
    (sameLength : values.length = function.arguments.length) :
    EndpointResolution.FailsOnly kind (function.apply values) := by
  rw [Function.apply, if_pos sameLength]
  exact keeps values sameLength

theorem apply_failsOnly (common : EvaluationError.Common kind) {function : Function}
    (only : function.FailsOnly kind) (values : List Value) :
    EndpointResolution.FailsOnly kind (function.apply values) := by
  rw [apply]
  split
  · exact only values
  · exact common.counted _ _ _

/-- Applied to what arguments have as values, the function fails with failures of a kind only. -/
def FailsOnlyOn (kind : EvaluationError → Prop) (function : Function) (arguments : List Expr) :
    Prop :=
  ∀ scope values, Expr.evalAll scope arguments = .ok values →
    EndpointResolution.FailsOnly kind (function.apply values)

/-- The same, if the arguments follow an element of an array. -/
def FailsOnlyOver (kind : EvaluationError → Prop) (function : Function) (arguments : List Expr) :
    Prop :=
  ∀ scope values, Expr.evalAll scope arguments = .ok values →
    ∀ element, EndpointResolution.FailsOnly kind (function.apply (element :: values))

theorem applyEach_failsOnly {function : Function} {others : List Value}
    (only : ∀ element, EndpointResolution.FailsOnly kind (function.apply (element :: others)))
    (elements : List Value) :
    EndpointResolution.FailsOnly kind (function.applyEach others elements) := by
  induction elements with
  | nil => trivial
  | cons element rest ih =>
    rw [applyEach_cons]
    exact (only element).bind fun _ => ih.map _

end Function

section

-- In a mutual block the linter does not see that a theorem needs it for those it calls.
set_option linter.unusedSectionVars false

variable (unexpected : ∀ expected found, kind (.unexpectedValue expected found))
include unexpected

theorem Function.applyOver_failsOnly {function : Function} {others : List Value}
    (only : ∀ element, EndpointResolution.FailsOnly kind (function.apply (element :: others)))
    (whole : Value) : EndpointResolution.FailsOnly kind (function.applyOver others whole) := by
  cases whole with
  | empty => trivial
  | array elements => exact (applyEach_failsOnly only elements).map _
  | _ => exact unexpected _ _

/-! ## Expressions -/

namespace Expr

variable (scope : Scope Value)

mutual

/-- An expression fails with failures of a kind only, if the functions that it calls do where it
calls them. -/
theorem eval_failsOnly_of_sites : (expr : Expr) →
    expr.Sites (Function.FailsOnlyOn kind) (Function.FailsOnlyOver kind) →
    EndpointResolution.FailsOnly kind (expr.eval scope)
  | .literal _ _, _ => trivial
  | .template parts _, sites => by
    rw [eval]
    exact (evalParts_failsOnly parts sites).map _
  | .tuple items _, sites => by
    rw [eval]
    exact (evalAll_failsOnly items sites).map _
  | .record fields _, sites => by
    rw [eval]
    exact (evalFields_failsOnly fields sites).map _
  | .reference _ _, _ => trivial
  | .attribute target path _, sites => by
    rw [eval_attribute]
    exact (eval_failsOnly_of_sites target sites).bind fun value =>
      Value.follow_failsOnly unexpected path value
  | .call function arguments _, sites => by
    rw [eval_call]
    have parts := evalAll_failsOnly arguments sites.2
    cases given : evalAll scope arguments with
    | error failure =>
      rw [given] at parts
      exact parts
    | ok values => exact sites.1 scope values given
  | .mapped function source arguments _, sites => by
    rw [eval_mapped]
    have parts := evalAll_failsOnly arguments sites.2.2
    cases given : evalAll scope arguments with
    | error failure =>
      rw [given] at parts
      exact parts
    | ok others =>
      exact (eval_failsOnly_of_sites source sites.2.1).bind fun whole =>
        Function.applyOver_failsOnly unexpected (sites.1 scope others given) whole

theorem evalParts_failsOnly : (parts : List (TemplatePart Expr)) →
    PartsSites (Function.FailsOnlyOn kind) (Function.FailsOnlyOver kind) parts →
    EndpointResolution.FailsOnly kind (evalParts scope parts)
  | [], _ => trivial
  | .text _ :: rest, sites => by
    rw [evalParts]
    exact (evalParts_failsOnly rest sites).map _
  | .hole expr :: rest, sites => by
    rw [evalParts_hole, evalString_eq_bind]
    exact ((eval_failsOnly_of_sites expr sites.1).bind
      (Value.expectString_failsOnly unexpected)).bind
        fun _ => (evalParts_failsOnly rest sites.2).map _

theorem evalAll_failsOnly : (exprs : List Expr) →
    AllSites (Function.FailsOnlyOn kind) (Function.FailsOnlyOver kind) exprs →
    EndpointResolution.FailsOnly kind (evalAll scope exprs)
  | [], _ => trivial
  | expr :: rest, sites => by
    rw [evalAll_cons]
    exact (eval_failsOnly_of_sites expr sites.1).bind fun _ =>
      (evalAll_failsOnly rest sites.2).map _

theorem evalFields_failsOnly : (fields : List (String × Expr)) →
    FieldsSites (Function.FailsOnlyOn kind) (Function.FailsOnlyOver kind) fields →
    EndpointResolution.FailsOnly kind (evalFields scope fields)
  | [], _ => trivial
  | (_, expr) :: rest, sites => by
    rw [evalFields_cons]
    exact (eval_failsOnly_of_sites expr sites.1).bind fun _ =>
      (evalFields_failsOnly rest sites.2).map _

end

theorem FailsOnly.evalString {expr : Expr} (only : expr.FailsOnly kind) :
    EndpointResolution.FailsOnly kind (expr.evalString scope) := by
  rw [evalString_eq_bind]
  exact (only scope).bind (Value.expectString_failsOnly unexpected)

end Expr

namespace EndpointTemplate

variable (scope : Scope Value)

theorem evalHeader_failsOnly (values : List Expr)
    (only : ∀ value ∈ values, value.FailsOnly kind) :
    FailsOnly kind (evalHeader scope values) := by
  induction values with
  | nil => trivial
  | cons value rest ih =>
    obtain ⟨here, later⟩ := List.forall_mem_cons.mp only
    rw [evalHeader_cons]
    exact (here.evalString unexpected scope).bind fun _ => (ih later).map _

theorem evalHeaders_failsOnly (headers : Fields (List Expr))
    (only : ∀ header ∈ headers, ∀ value ∈ header.2, value.FailsOnly kind) :
    FailsOnly kind (evalHeaders scope headers) := by
  induction headers with
  | nil => trivial
  | cons header rest ih =>
    obtain ⟨here, later⟩ := List.forall_mem_cons.mp only
    rw [evalHeaders_cons]
    exact (evalHeader_failsOnly unexpected scope header.2 here).bind fun _ => (ih later).map _

omit unexpected in
theorem evalProperties_failsOnly (properties : Fields Expr)
    (only : ∀ entry ∈ properties, entry.2.FailsOnly kind) :
    FailsOnly kind (evalProperties scope properties) := by
  induction properties with
  | nil => trivial
  | cons entry rest ih =>
    obtain ⟨here, later⟩ := List.forall_mem_cons.mp only
    rw [evalProperties_cons]
    exact (here scope).bind fun _ => (ih later).map _

theorem eval_failsOnly (endpoint : EndpointTemplate)
    (each : endpoint.Each (Expr.FailsOnly kind)) : FailsOnly kind (endpoint.eval scope) := by
  rw [eval_eq_bind]
  exact (each.url.evalString unexpected scope).bind fun _ =>
    (evalHeaders_failsOnly unexpected scope endpoint.headers each.headers).bind fun _ =>
      (evalProperties_failsOnly scope endpoint.properties each.properties).map _

end EndpointTemplate

end

/-- An expression fails with failures of a kind only, if the functions that it calls do. -/
theorem Expr.failsOnly_of_calls (common : EvaluationError.Common kind) (expr : Expr)
    (calls : expr.Calls (Function.FailsOnly kind)) : expr.FailsOnly kind := by
  intro scope
  refine eval_failsOnly_of_sites common.unexpected scope expr (Calls.sites ?_ ?_ expr calls)
  · intro function arguments only reached values given
    exact Function.apply_failsOnly common only values
  · intro function arguments only reached values given element
    exact Function.apply_failsOnly common only (element :: values)

end EndpointResolution
