import EndpointResolution.Function.Registry
import EndpointResolution.RuleSet

/-!
What types, values, expressions and rules are made of: the functions that are called, and with which
arguments, the names that are mentioned, and records in which each name occurs once.
-/
namespace EndpointResolution

/-- Induction on a type, with a hypothesis for the type of every field of a record. -/
@[elab_as_elim, induction_eliminator]
theorem Ty.induction {motive : Ty → Prop} (string : motive .string) (boolean : motive .boolean)
    (integer : motive .integer) (array : ∀ element, motive element → motive (.array element))
    (record : ∀ fields, (∀ entry ∈ fields, motive entry.2) → motive (.record fields))
    (endpoint : motive .endpoint) (any : motive .any)
    (optional : ∀ inner, motive inner → motive (.optional inner)) (ty : Ty) : motive ty :=
  @Ty.rec motive (fun fields => ∀ entry ∈ fields, motive entry.2) (fun entry => motive entry.2)
    string boolean integer array record endpoint any optional nofun
    (fun _ _ here others => List.forall_mem_cons.mpr ⟨here, others⟩) (fun _ _ inside => inside) ty

namespace Value

mutual

/-- The names in every record ascend, and so do those of the headers and properties of every
endpoint. -/
def WellFormed : Value → Prop
  | .string _ => True
  | .boolean _ => True
  | .integer _ => True
  | .array items => ItemsWellFormed items
  | .record fields => Fields.Ascending fields ∧ FieldsWellFormed fields
  | .endpoint _ headers properties =>
    Fields.Ascending headers ∧ Fields.Ascending properties ∧ FieldsWellFormed properties
  | .empty => True

/-- Every value is well formed. -/
def ItemsWellFormed : List Value → Prop
  | [] => True
  | item :: rest => WellFormed item ∧ ItemsWellFormed rest

/-- The value of every field is well formed. -/
def FieldsWellFormed : List (String × Value) → Prop
  | [] => True
  | (_, value) :: rest => WellFormed value ∧ FieldsWellFormed rest

end

theorem itemsWellFormed_iff (items : List Value) :
    ItemsWellFormed items ↔ ∀ item ∈ items, item.WellFormed := by
  induction items with
  | nil => simp [ItemsWellFormed]
  | cons item rest ih => simp [ItemsWellFormed, ih]

theorem fieldsWellFormed_iff (fields : Fields Value) :
    FieldsWellFormed fields ↔ ∀ field ∈ fields, field.2.WellFormed := by
  induction fields with
  | nil => simp [FieldsWellFormed]
  | cons field rest ih => simp [FieldsWellFormed, ih]

end Value

namespace Expr

mutual

/-- The names in every record ascend, in literal values too. -/
def WellFormed : Expr → Prop
  | .literal value _ => value.WellFormed
  | .template parts _ => PartsWellFormed parts
  | .tuple items _ => AllWellFormed items
  | .record fields _ => Fields.Ascending fields ∧ FieldsWellFormed fields
  | .reference _ _ => True
  | .attribute target _ _ => WellFormed target
  | .call _ arguments _ => AllWellFormed arguments
  | .mapped _ source arguments _ => WellFormed source ∧ AllWellFormed arguments

/-- The expression in every placeholder is well formed. -/
def PartsWellFormed : List (TemplatePart Expr) → Prop
  | [] => True
  | .text _ :: rest => PartsWellFormed rest
  | .hole expr :: rest => WellFormed expr ∧ PartsWellFormed rest

/-- Every expression is well formed. -/
def AllWellFormed : List Expr → Prop
  | [] => True
  | expr :: rest => WellFormed expr ∧ AllWellFormed rest

/-- The expression of every field is well formed. -/
def FieldsWellFormed : List (String × Expr) → Prop
  | [] => True
  | (_, expr) :: rest => WellFormed expr ∧ FieldsWellFormed rest

end

mutual

/-- Every function that the expression calls has a property. -/
def Calls (property : Function → Prop) : Expr → Prop
  | .literal _ _ => True
  | .template parts _ => PartsCall property parts
  | .tuple items _ => AllCall property items
  | .record fields _ => FieldsCall property fields
  | .reference _ _ => True
  | .attribute target _ _ => Calls property target
  | .call function arguments _ => property function ∧ AllCall property arguments
  | .mapped function source arguments _ =>
    property function ∧ Calls property source ∧ AllCall property arguments

/-- Every function called in a placeholder has the property. -/
def PartsCall (property : Function → Prop) : List (TemplatePart Expr) → Prop
  | [] => True
  | .text _ :: rest => PartsCall property rest
  | .hole expr :: rest => Calls property expr ∧ PartsCall property rest

/-- Every function that one of the expressions calls has the property. -/
def AllCall (property : Function → Prop) : List Expr → Prop
  | [] => True
  | expr :: rest => Calls property expr ∧ AllCall property rest

/-- Every function that the expression of a field calls has the property. -/
def FieldsCall (property : Function → Prop) : List (String × Expr) → Prop
  | [] => True
  | (_, expr) :: rest => Calls property expr ∧ FieldsCall property rest

end

section

-- In a mutual block the linter does not see that a theorem needs this for those it calls.
set_option linter.unusedSectionVars false

variable {property other : Function → Prop} (implies : ∀ function, property function → other function)
include implies

mutual

theorem Calls.mono : (expr : Expr) → expr.Calls property → expr.Calls other
  | .literal _ _, _ => trivial
  | .template parts _, calls => PartsCall.mono parts calls
  | .tuple items _, calls => AllCall.mono items calls
  | .record fields _, calls => FieldsCall.mono fields calls
  | .reference _ _, _ => trivial
  | .attribute target _ _, calls => Calls.mono target calls
  | .call function arguments _, calls => ⟨implies function calls.1, AllCall.mono arguments calls.2⟩
  | .mapped function source arguments _, calls =>
    ⟨implies function calls.1, Calls.mono source calls.2.1, AllCall.mono arguments calls.2.2⟩

theorem PartsCall.mono : (parts : List (TemplatePart Expr)) → PartsCall property parts →
    PartsCall other parts
  | [], _ => trivial
  | .text _ :: rest, calls => PartsCall.mono rest calls
  | .hole expr :: rest, calls => ⟨Calls.mono expr calls.1, PartsCall.mono rest calls.2⟩

theorem AllCall.mono : (exprs : List Expr) → AllCall property exprs → AllCall other exprs
  | [], _ => trivial
  | expr :: rest, calls => ⟨Calls.mono expr calls.1, AllCall.mono rest calls.2⟩

theorem FieldsCall.mono : (fields : List (String × Expr)) → FieldsCall property fields →
    FieldsCall other fields
  | [], _ => trivial
  | (_, expr) :: rest, calls => ⟨Calls.mono expr calls.1, FieldsCall.mono rest calls.2⟩

end

end

mutual

/-- Every call in the expression has a property of its function and its arguments: one for plain
calls, one for calls that are mapped over an array. -/
def Sites (plain mapped : Function → List Expr → Prop) : Expr → Prop
  | .literal _ _ => True
  | .template parts _ => PartsSites plain mapped parts
  | .tuple items _ => AllSites plain mapped items
  | .record fields _ => FieldsSites plain mapped fields
  | .reference _ _ => True
  | .attribute target _ _ => Sites plain mapped target
  | .call function arguments _ => plain function arguments ∧ AllSites plain mapped arguments
  | .mapped function source arguments _ =>
    mapped function arguments ∧ Sites plain mapped source ∧ AllSites plain mapped arguments

/-- Every call in a placeholder has the property. -/
def PartsSites (plain mapped : Function → List Expr → Prop) : List (TemplatePart Expr) → Prop
  | [] => True
  | .text _ :: rest => PartsSites plain mapped rest
  | .hole expr :: rest => Sites plain mapped expr ∧ PartsSites plain mapped rest

/-- Every call in one of the expressions has the property. -/
def AllSites (plain mapped : Function → List Expr → Prop) : List Expr → Prop
  | [] => True
  | expr :: rest => Sites plain mapped expr ∧ AllSites plain mapped rest

/-- Every call in the expression of a field has the property. -/
def FieldsSites (plain mapped : Function → List Expr → Prop) : List (String × Expr) → Prop
  | [] => True
  | (_, expr) :: rest => Sites plain mapped expr ∧ FieldsSites plain mapped rest

end

section

-- As above.
set_option linter.unusedSectionVars false

variable {property : Function → Prop} {plain mapped : Function → List Expr → Prop}
  (here : ∀ function arguments, property function → plain function arguments)
  (each : ∀ function arguments, property function → mapped function arguments)
include here each

mutual

theorem Calls.sites : (expr : Expr) → expr.Calls property → expr.Sites plain mapped
  | .literal _ _, _ => trivial
  | .template parts _, calls => PartsCall.sites parts calls
  | .tuple items _, calls => AllCall.sites items calls
  | .record fields _, calls => FieldsCall.sites fields calls
  | .reference _ _, _ => trivial
  | .attribute target _ _, calls => Calls.sites target calls
  | .call function arguments _, calls =>
    ⟨here function arguments calls.1, AllCall.sites arguments calls.2⟩
  | .mapped function source arguments _, calls =>
    ⟨each function arguments calls.1, Calls.sites source calls.2.1,
      AllCall.sites arguments calls.2.2⟩

theorem PartsCall.sites : (parts : List (TemplatePart Expr)) → PartsCall property parts →
    PartsSites plain mapped parts
  | [], _ => trivial
  | .text _ :: rest, calls => PartsCall.sites rest calls
  | .hole expr :: rest, calls => ⟨Calls.sites expr calls.1, PartsCall.sites rest calls.2⟩

theorem AllCall.sites : (exprs : List Expr) → AllCall property exprs →
    AllSites plain mapped exprs
  | [], _ => trivial
  | expr :: rest, calls => ⟨Calls.sites expr calls.1, AllCall.sites rest calls.2⟩

theorem FieldsCall.sites : (fields : List (String × Expr)) → FieldsCall property fields →
    FieldsSites plain mapped fields
  | [], _ => trivial
  | (_, expr) :: rest, calls => ⟨Calls.sites expr calls.1, FieldsCall.sites rest calls.2⟩

end

end

mutual

/-- The expression refers to a name. -/
def mentions (name : String) : Expr → Bool
  | .literal _ _ => false
  | .template parts _ => partsMention name parts
  | .tuple items _ => allMention name items
  | .record fields _ => fieldsMention name fields
  | .reference other _ => other == name
  | .attribute target _ _ => mentions name target
  | .call _ arguments _ => allMention name arguments
  | .mapped _ source arguments _ => mentions name source || allMention name arguments

/-- Some placeholder refers to the name. -/
def partsMention (name : String) : List (TemplatePart Expr) → Bool
  | [] => false
  | .text _ :: rest => partsMention name rest
  | .hole expr :: rest => mentions name expr || partsMention name rest

/-- One of the expressions refers to the name. -/
def allMention (name : String) : List Expr → Bool
  | [] => false
  | expr :: rest => mentions name expr || allMention name rest

/-- The expression of some field refers to the name. -/
def fieldsMention (name : String) : List (String × Expr) → Bool
  | [] => false
  | (_, expr) :: rest => mentions name expr || fieldsMention name rest

end

end Expr

/-- The function is the one that the registry has under its name. -/
def Registry.Has (registry : Registry) (function : Function) : Prop :=
  registry.get? function.id = some function

/-- The expression is built from functions of the registry, and each name occurs once in its
records. -/
structure Expr.Over (registry : Registry) (expr : Expr) : Prop where
  calls : expr.Calls registry.Has
  wellFormed : expr.WellFormed

/-- Every expression of the endpoint has a property. -/
structure EndpointTemplate.Each (property : Expr → Prop) (endpoint : EndpointTemplate) : Prop where
  url : property endpoint.url
  headers : ∀ header ∈ endpoint.headers, ∀ value ∈ header.2, property value
  properties : ∀ entry ∈ endpoint.properties, property entry.2

namespace Rule

mutual

/-- Every expression of the rule has a property, also in the rules inside it. -/
def Each (property : Expr → Prop) : Rule → Prop
  | .tree conditions rules _ =>
    (∀ condition ∈ conditions, property condition.test) ∧ AllEach property rules
  | .error conditions message _ =>
    (∀ condition ∈ conditions, property condition.test) ∧ property message
  | .endpoint conditions target _ =>
    (∀ condition ∈ conditions, property condition.test) ∧ target.Each property

/-- Every expression of the rules has the property. -/
def AllEach (property : Expr → Prop) : List Rule → Prop
  | [] => True
  | rule :: rest => Each property rule ∧ AllEach property rest

end

theorem allEach_iff (property : Expr → Prop) (rules : List Rule) :
    AllEach property rules ↔ ∀ rule ∈ rules, rule.Each property := by
  induction rules with
  | nil => simp [AllEach]
  | cons rule rest ih => simp [AllEach, ih]

theorem Each.conditions {property : Expr → Prop} {rule : Rule} (each : rule.Each property) :
    ∀ condition ∈ rule.conditions, property condition.test := by
  cases rule with
  | tree conditions rules notes => exact each.1
  | error conditions message notes => exact each.1
  | endpoint conditions target notes => exact each.1

section

-- As above.
set_option linter.unusedSectionVars false

variable {property other : Expr → Prop} (implies : ∀ expr, property expr → other expr)
include implies

mutual

theorem Each.mono : (rule : Rule) → rule.Each property → rule.Each other
  | .tree _ rules _, each =>
    ⟨fun condition member => implies _ (each.1 condition member), AllEach.mono rules each.2⟩
  | .error _ _ _, each =>
    ⟨fun condition member => implies _ (each.1 condition member), implies _ each.2⟩
  | .endpoint _ _ _, each =>
    ⟨fun condition member => implies _ (each.1 condition member), {
      url := implies _ each.2.url
      headers := fun header member value inside =>
        implies _ (each.2.headers header member value inside)
      properties := fun entry member => implies _ (each.2.properties entry member) }⟩

theorem AllEach.mono : (rules : List Rule) → AllEach property rules → AllEach other rules
  | [], _ => trivial
  | rule :: rest, each => ⟨Each.mono rule each.1, AllEach.mono rest each.2⟩

end

end

end Rule

/-- The rules of the rule-set are built from functions of the registry. -/
def RuleSet.Over (registry : Registry) (set : RuleSet) : Prop :=
  Rule.AllEach (Expr.Over registry) set.rules

end EndpointResolution
