import EndpointResolution.Ty.Basic
import EndpointResolution.Value.Basic

/-!
Which values inhabit a type. A record may have more fields than its type declares, and a field that
is absent counts as the empty value.
-/
namespace EndpointResolution.Ty

mutual

/-- The value inhabits the type. -/
def admits : Ty → Value → Bool
  | .any, _ => true
  | .optional inner, value => value.isEmpty || admits inner value
  | .string, .string _ => true
  | .boolean, .boolean _ => true
  | .integer, .integer _ => true
  | .endpoint, .endpoint _ _ _ => true
  | .array element, .array items => items.all (admits element)
  | .record declared, .record fields => admitsFields declared fields
  | _, _ => false

/-- Every declared field inhabits its type. -/
def admitsFields : List (String × Ty) → Fields Value → Bool
  | [], _ => true
  | (name, ty) :: rest, fields =>
    admits ty ((Fields.get? name fields).getD .empty) && admitsFields rest fields

end

end EndpointResolution.Ty
