import EndpointResolution.Ty.Basic
import EndpointResolution.Value.Basic

/-!
The static types of values that stand in a rule-set as they are.
-/
namespace EndpointResolution.Value

/-- The one type in a list of types, if they are all the same. Without any it is `Any`. -/
def commonTy? : List Ty → Option Ty
  | [] => some .any
  | first :: rest => if rest.all (· == first) then some first else none

mutual

/-- The type of a value. An array has one if its items other than the empty value share one. -/
def literalTy? : Value → Option Ty
  | .string _ => some .string
  | .boolean _ => some .boolean
  | .integer _ => some .integer
  | .array items =>
    match setItemTys? items with
    | none => none
    | some tys =>
      (commonTy? tys).map fun element =>
        .array (if items.any isEmpty then element.orEmpty else element)
  | .record fields => (fieldTys? fields).map .record
  | .endpoint _ _ _ => some .endpoint
  | .empty => some (.optional .any)

/-- The types of the items other than the empty value, if each has one. -/
def setItemTys? : List Value → Option (List Ty)
  | [] => some []
  | .empty :: rest => setItemTys? rest
  | item :: rest =>
    match literalTy? item, setItemTys? rest with
    | some ty, some tys => some (ty :: tys)
    | _, _ => none

/-- The types of the fields, if each has one. -/
def fieldTys? : List (String × Value) → Option (List (String × Ty))
  | [] => some []
  | (name, value) :: rest =>
    match literalTy? value, fieldTys? rest with
    | some ty, some tys => some ((name, ty) :: tys)
    | _, _ => none

end

end EndpointResolution.Value
