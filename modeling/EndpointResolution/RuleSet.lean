import EndpointResolution.Parameter
import EndpointResolution.Rule.Basic

/-!
Rule-sets: parameters with distinct names, and rules.
-/
namespace EndpointResolution

/-- The parameters and the ordered rules of one service. -/
structure RuleSet where
  version : String
  parameters : List Parameter
  rules : List Rule
  distinct : (parameters.map Parameter.name).Nodup

namespace RuleSet

/-- The first name in a list that is among those before it or among the ones seen already. -/
def firstRepeated (seen : List String) : List String → Option String
  | [] => none
  | name :: rest => if name ∈ seen then some name else firstRepeated (name :: seen) rest

theorem firstRepeated_eq_none_iff (seen names : List String) :
    firstRepeated seen names = none ↔ names.Nodup ∧ ∀ name ∈ names, name ∉ seen := by
  induction names generalizing seen with
  | nil => simp [firstRepeated]
  | cons name rest ih =>
    by_cases repeated : name ∈ seen
    · simp [firstRepeated, repeated]
    · rw [firstRepeated, if_neg repeated, ih, List.nodup_cons]
      simp only [List.mem_cons, not_or]
      constructor
      · rintro ⟨nodup, fresh⟩
        refine ⟨⟨fun member => (fresh name member).1 rfl, nodup⟩, ?_⟩
        rintro other (found | found)
        · exact found ▸ repeated
        · exact (fresh other found).2
      · rintro ⟨⟨absent, nodup⟩, fresh⟩
        refine ⟨nodup, fun other found => ⟨?_, fresh other (Or.inr found)⟩⟩
        intro equal
        exact absent (equal ▸ found)

/-- The rule-set of parameters, whose names have to be distinct, and rules. -/
def build (version : String) (parameters : List Parameter) (rules : List Rule) :
    Except ConstructionError RuleSet :=
  match clear : firstRepeated [] (parameters.map Parameter.name) with
  | some name => .error (.duplicateParameter name)
  | none => .ok ⟨version, parameters, rules, ((firstRepeated_eq_none_iff _ _).mp clear).1⟩

/-- The parameter of a name. -/
def parameter? (set : RuleSet) (name : String) : Option Parameter :=
  set.parameters.find? fun parameter => parameter.name == name

end RuleSet
end EndpointResolution
