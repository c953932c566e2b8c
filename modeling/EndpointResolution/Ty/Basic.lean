import EndpointResolution.Fields

/-!
The static types of expressions, and when a value of one type may stand where another is expected.
-/
namespace EndpointResolution

/-- A type. The fields of a record type ascend by name. -/
inductive Ty where
  | string
  | boolean
  | integer
  | array (element : Ty)
  | record (fields : List (String × Ty))
  | endpoint
  | any
  | optional (inner : Ty)
  deriving Inhabited

namespace Ty

/-- The type that also admits the empty value. A type that does so already stays as it is. -/
def orEmpty : Ty → Ty
  | .optional inner => .optional inner
  | ty => .optional ty

/-- The type without its optional wrapper. -/
def required : Ty → Ty
  | .optional inner => inner
  | ty => ty

/-- The type has an optional wrapper. -/
def isOptional : Ty → Bool
  | .optional _ => true
  | _ => false

mutual

/-- The two types are the same. -/
def same : Ty → Ty → Bool
  | .string, .string => true
  | .boolean, .boolean => true
  | .integer, .integer => true
  | .array a, .array b => same a b
  | .record a, .record b => sameFields a b
  | .endpoint, .endpoint => true
  | .any, .any => true
  | .optional a, .optional b => same a b
  | _, _ => false

/-- The two lists have the same names and types in the same order. -/
def sameFields : List (String × Ty) → List (String × Ty) → Bool
  | [], [] => true
  | (name, a) :: as, (other, b) :: bs => name == other && same a b && sameFields as bs
  | _, _ => false

end

mutual

theorem same_iff (a b : Ty) : same a b = true ↔ a = b :=
  match a with
  | .string => by cases b <;> simp [same]
  | .boolean => by cases b <;> simp [same]
  | .integer => by cases b <;> simp [same]
  | .array x => by cases b <;> simp [same, same_iff x]
  | .record x => by cases b <;> simp [same, sameFields_iff x]
  | .endpoint => by cases b <;> simp [same]
  | .any => by cases b <;> simp [same]
  | .optional x => by cases b <;> simp [same, same_iff x]

theorem sameFields_iff (a b : List (String × Ty)) : sameFields a b = true ↔ a = b :=
  match a with
  | [] => by cases b <;> simp [sameFields]
  | (name, x) :: rest => by
    cases b with
    | nil => simp [sameFields]
    | cons head more =>
      obtain ⟨other, y⟩ := head
      simp [sameFields, same_iff x, sameFields_iff rest, and_assoc]

end

instance : DecidableEq Ty := fun a b => decidable_of_iff _ (same_iff a b)

mutual

/-- A value of the second type may be used where the first is expected. -/
def accepts : Ty → Ty → Bool
  | .any, _ => true
  | .optional expected, actual => accepts expected actual.required
  | .array expected, .array element => accepts expected element
  | .record expected, .record fields =>
    expected.length == fields.length && acceptsFields expected fields
  | expected, actual => same expected actual

/-- Every expected field is among the given ones, with a type that may stand for it. -/
def acceptsFields : List (String × Ty) → List (String × Ty) → Bool
  | [], _ => true
  | (name, expected) :: rest, fields =>
    (match Fields.get? name fields with
      | some actual => accepts expected actual
      | none => false) && acceptsFields rest fields

end

mutual

/-- The text of a type in messages. -/
def display : Ty → String
  | .string => "String"
  | .boolean => "Boolean"
  | .integer => "Integer"
  | .array element => "Array<" ++ element.display ++ ">"
  | .record fields => "Record\x7b" ++ ", ".intercalate (displayFields fields) ++ "\x7d"
  | .endpoint => "Endpoint"
  | .any => "Any"
  | .optional inner => "Option<" ++ inner.display ++ ">"

/-- The text of each field: its name, a colon and its type. -/
def displayFields : List (String × Ty) → List String
  | [] => []
  | (name, ty) :: rest => (name ++ ": " ++ ty.display) :: displayFields rest

end

end Ty
end EndpointResolution
