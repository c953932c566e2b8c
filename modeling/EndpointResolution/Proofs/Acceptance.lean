import EndpointResolution.Typing.Rules

/-!
What it takes to be accepted. Endpoints, messages and rules are checked up to the first error, so
that they are accepted exactly if each of their parts is where its turn comes.
-/
namespace EndpointResolution

variable {scope : Scope Ty}

theorem Expr.exists_check_of_expect {expr : Expr} {place : Place} {expected : Ty}
    (accepted : expr.expect scope place expected = .ok ()) : ∃ ty, expr.check scope = .ok ty := by
  rw [expect] at accepted
  split at accepted
  · cases accepted
  next found known => exact ⟨found, known⟩

namespace EndpointTemplate

theorem checkHeader_eq_ok_iff {name : String} {values : List Expr} :
    checkHeader scope name values = .ok () ↔
      ∀ value ∈ values, value.expect scope (.header name) .string = .ok () := by
  induction values with
  | nil => simp [checkHeader]
  | cons value rest ih =>
    rw [checkHeader, List.forall_mem_cons, ← ih]
    rcases value.expect scope (.header name) .string with report | accepted <;> simp

theorem checkHeaders_eq_ok_iff {headers : Fields (List Expr)} :
    checkHeaders scope headers = .ok () ↔ ∀ header ∈ headers, ∀ value ∈ header.2,
      value.expect scope (.header header.1) .string = .ok () := by
  induction headers with
  | nil => simp [checkHeaders]
  | cons header rest ih =>
    rw [checkHeaders, List.forall_mem_cons, ← ih, ← checkHeader_eq_ok_iff]
    rcases checkHeader scope header.1 header.2 with report | accepted <;> simp

theorem checkProperties_eq_ok_iff {properties : Fields Expr} :
    checkProperties scope properties = .ok () ↔
      ∀ entry ∈ properties, ∃ ty, entry.2.check scope = .ok ty := by
  induction properties with
  | nil => simp [checkProperties]
  | cons entry rest ih =>
    rw [checkProperties, List.forall_mem_cons, ← ih]
    rcases entry.2.check scope with report | ty <;> simp

/-- An endpoint is accepted if its address and the values of its headers are strings and its
properties have types. -/
theorem check_eq_ok_iff {endpoint : EndpointTemplate} :
    endpoint.check scope = .ok () ↔
      endpoint.url.expect scope .endpointUrl .string = .ok () ∧
      (∀ header ∈ endpoint.headers, ∀ value ∈ header.2,
        value.expect scope (.header header.1) .string = .ok ()) ∧
      ∀ entry ∈ endpoint.properties, ∃ ty, entry.2.check scope = .ok ty := by
  rw [check, checkParts, ← checkHeaders_eq_ok_iff, ← checkProperties_eq_ok_iff]
  rcases endpoint.url.expect scope .endpointUrl .string with report | url
  · simp
  · rcases checkHeaders scope endpoint.headers with report | headers
    · simp
    · rcases checkProperties scope endpoint.properties with report | properties <;> simp

end EndpointTemplate

namespace Rule

theorem checkMessage_eq_ok_iff {message : Expr} {location : Location} :
    checkMessage message location scope = .ok () ↔
      message.expect scope .errorMessage .string = .ok () := by
  rw [checkMessage]
  rcases message.expect scope .errorMessage .string with report | accepted <;> simp

/-- What follows the conditions of the rule is accepted in a scope. -/
def BodyAccepted (rule : Rule) (scope : Scope Ty) : Prop :=
  match rule with
  | .tree _ children _ => (checkAll children scope).1 = .ok ()
  | .error _ message notes => checkMessage message notes.location scope = .ok ()
  | .endpoint _ target _ => target.check scope = .ok ()

/-- A rule is accepted if its conditions are, and then what follows them. -/
theorem check_eq_ok_iff (rule : Rule) (scope : Scope Ty) :
    (rule.check scope).1 = .ok () ↔ (Condition.checkAll rule.conditions scope).1 = .ok () ∧
      rule.BodyAccepted (Condition.checkAll rule.conditions scope).2 := by
  cases rule with
  | tree tests children notes =>
    simp only [check, conditions, BodyAccepted]
    rcases Condition.checkAll tests scope with ⟨report | accepted, after⟩ <;> simp
  | error tests message notes =>
    simp only [check, conditions, BodyAccepted]
    rcases Condition.checkAll tests scope with ⟨report | accepted, after⟩ <;> simp
  | endpoint tests target notes =>
    simp only [check, conditions, BodyAccepted]
    rcases Condition.checkAll tests scope with ⟨report | accepted, after⟩ <;> simp

theorem bodyAccepted_of_check {rule : Rule} (checked : (rule.check scope).1 = .ok ()) :
    ∃ after, Condition.checkAll rule.conditions scope = (.ok (), after) ∧
      rule.BodyAccepted after := by
  obtain ⟨accepted, body⟩ := (rule.check_eq_ok_iff scope).mp checked
  exact ⟨_, Prod.ext accepted rfl, body⟩

end Rule
end EndpointResolution
