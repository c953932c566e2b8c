import EndpointResolution.EvaluationError
import EndpointResolution.Fields
import EndpointResolution.Text.Quoted

/-!
The values that expressions evaluate to.
-/
namespace EndpointResolution

/-- A value. The empty value stands for everything that is not set. The fields of a record and the
headers and properties of an endpoint ascend by name. -/
inductive Value where
  | string (text : String)
  | boolean (truth : Bool)
  | integer (number : Int64)
  | array (items : List Value)
  | record (fields : List (String × Value))
  | endpoint (url : String) (headers : List (String × List String))
      (properties : List (String × Value))
  | empty
  deriving Inhabited

namespace Value

/-- The kind of a value in messages. -/
def kind : Value → String
  | .string _ => "String"
  | .boolean _ => "Boolean"
  | .integer _ => "Integer"
  | .array _ => "Array"
  | .record _ => "Record"
  | .endpoint _ _ _ => "Endpoint"
  | .empty => "Empty"

/-- The value is the empty one. -/
def isEmpty : Value → Bool
  | .empty => true
  | _ => false

theorem isEmpty_iff (value : Value) : value.isEmpty = true ↔ value = .empty := by
  cases value <;> simp [isEmpty]

mutual

/-- The two values are the same. -/
def same : Value → Value → Bool
  | .string a, .string b => a == b
  | .boolean a, .boolean b => a == b
  | .integer a, .integer b => a == b
  | .array a, .array b => sameItems a b
  | .record a, .record b => sameFields a b
  | .endpoint u h p, .endpoint v i q => u == v && h == i && sameFields p q
  | .empty, .empty => true
  | _, _ => false

/-- The two lists have the same values in the same order. -/
def sameItems : List Value → List Value → Bool
  | [], [] => true
  | a :: as, b :: bs => same a b && sameItems as bs
  | _, _ => false

/-- The two lists have the same names and values in the same order. -/
def sameFields : List (String × Value) → List (String × Value) → Bool
  | [], [] => true
  | (name, a) :: as, (other, b) :: bs => name == other && same a b && sameFields as bs
  | _, _ => false

end

mutual

theorem same_iff (a b : Value) : same a b = true ↔ a = b :=
  match a with
  | .string _ => by cases b <;> simp [same]
  | .boolean _ => by cases b <;> simp [same]
  | .integer _ => by cases b <;> simp [same]
  | .array x => by cases b <;> simp [same, sameItems_iff x]
  | .record x => by cases b <;> simp [same, sameFields_iff x]
  | .endpoint _ _ x => by cases b <;> simp [same, sameFields_iff x, and_assoc]
  | .empty => by cases b <;> simp [same]

theorem sameItems_iff (a b : List Value) : sameItems a b = true ↔ a = b :=
  match a with
  | [] => by cases b <;> simp [sameItems]
  | x :: rest => by cases b <;> simp [sameItems, same_iff x, sameItems_iff rest]

theorem sameFields_iff (a b : List (String × Value)) : sameFields a b = true ↔ a = b :=
  match a with
  | [] => by cases b <;> simp [sameFields]
  | (name, x) :: rest => by
    cases b with
    | nil => simp [sameFields]
    | cons head more =>
      obtain ⟨other, y⟩ := head
      simp [sameFields, same_iff x, sameFields_iff rest, and_assoc]

end

instance : DecidableEq Value := fun a b => decidable_of_iff _ (same_iff a b)

/-- The failure of a value to be of the kind that its place asks for. -/
def unexpected (expected : String) (found : Value) : EvaluationError :=
  .unexpectedValue expected found.kind

/-- The text of a string. -/
def expectString : Value → Except EvaluationError String
  | .string text => .ok text
  | other => .error (unexpected "String" other)

/-- The truth value of a boolean. -/
def expectBoolean : Value → Except EvaluationError Bool
  | .boolean truth => .ok truth
  | other => .error (unexpected "Boolean" other)

/-- The number of an integer. -/
def expectInteger : Value → Except EvaluationError Int64
  | .integer number => .ok number
  | other => .error (unexpected "Integer" other)

/-- The items of an array. -/
def expectArray : Value → Except EvaluationError (List Value)
  | .array items => .ok items
  | other => .error (unexpected "Array" other)

/-- The fields of a record. -/
def expectRecord : Value → Except EvaluationError (Fields Value)
  | .record fields => .ok fields
  | other => .error (unexpected "Record" other)

/-- The part of a value that a path leads to. A missing field, an index past the end, and any step
from the empty value lead to the empty value. -/
def follow (value : Value) : Path → Except EvaluationError Value
  | [] => .ok value
  | step :: rest =>
    match value, step with
    | .empty, _ => .ok .empty
    | .record fields, .field name =>
      match Fields.get? name fields with
      | some part => follow part rest
      | none => .ok .empty
    | .array items, .index position =>
      match items[position.toNat]? with
      | some part => follow part rest
      | none => .ok .empty
    | other, .field _ => .error (unexpected "Record" other)
    | other, .index _ => .error (unexpected "Array" other)

mutual

/-- The text of a value in messages. -/
def display : Value → String
  | .string text => Text.quoted text
  | .boolean truth => if truth then "true" else "false"
  | .integer number => toString number.toInt
  | .array items => "[" ++ ", ".intercalate (displayItems items) ++ "]"
  | .record fields => "\x7b" ++ ", ".intercalate (displayFields fields) ++ "\x7d"
  | .endpoint url _ _ => "endpoint(" ++ Text.quoted url ++ ")"
  | .empty => "<empty>"

/-- The texts of values. -/
def displayItems : List Value → List String
  | [] => []
  | item :: rest => item.display :: displayItems rest

/-- The text of each field: its name, a colon and its value. -/
def displayFields : List (String × Value) → List String
  | [] => []
  | (name, value) :: rest => (name ++ ": " ++ value.display) :: displayFields rest

end

end Value
end EndpointResolution
