import EndpointResolution.Function.Basic

/-!
The functions on values of any kind: presence, truth values, equality, attributes and arrays.
-/
namespace EndpointResolution.Function

/-- The argument is not empty. -/
def isSet : Function :=
  unary "isSet" (.optional .any) .boolean fun value => .ok (.boolean !value.isEmpty)

/-- The opposite truth value. -/
def negation : Function :=
  unary "not" .boolean .boolean fun value => do
    return .boolean !(← value.expectBoolean)

/-- The two truth values are the same. -/
def booleanEquals : Function :=
  binary "booleanEquals" .boolean .boolean .boolean fun a b => do
    let left ← a.expectBoolean
    let right ← b.expectBoolean
    return .boolean (left == right)

/-- The two texts are the same. -/
def stringEquals : Function :=
  binary "stringEquals" .string .string .boolean fun a b => do
    let left ← a.expectString
    let right ← b.expectString
    return .boolean (left == right)

/-- The part of the first argument that the path in the second one leads to. -/
def getAttr : Function :=
  (binary "getAttr" .any .string (.optional .any) fun target path => do
    let text ← path.expectString
    match Path.parse text with
    | .error fault => throw (.invalidPath text fault)
    | .ok steps => target.follow steps).withTyping .attribute

/-- The truth values in an array. -/
def truths (value : Value) : Except EvaluationError (List Bool) := do
  let items ← value.expectArray
  items.mapM Value.expectBoolean

/-- Every item of the array is the given truth value. -/
def all : Function :=
  binary "all" (.array .boolean) .boolean .boolean fun items expected => do
    let found ← truths items
    let wanted ← expected.expectBoolean
    return .boolean (found.all (· == wanted))

/-- Some item of the array is the given truth value. -/
def any : Function :=
  binary "any" (.array .boolean) .boolean .boolean fun items expected => do
    let found ← truths items
    let wanted ← expected.expectBoolean
    return .boolean (found.any (· == wanted))

/-- The items of the array that are not empty. -/
def selectSet : Function :=
  (unary "selectSet" (.array (.optional .any)) (.array .any) fun value => do
    let items ← value.expectArray
    return .array (items.filter fun item => !item.isEmpty)).withTyping .arrayFilter

/-- The functions of this module. -/
def standard : List Function :=
  [isSet, negation, booleanEquals, stringEquals, getAttr, all, any, selectSet]

end EndpointResolution.Function
