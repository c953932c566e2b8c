import EndpointResolution.Expr.Template
import EndpointResolution.Scope
import EndpointResolution.Typing.Fault
import EndpointResolution.Value.LiteralType

/-!
The static types of expressions in a scope. An expression that is known to be set has its type
without the optional wrapper.
-/
namespace EndpointResolution.Expr

/-- The type of an expression whose form alone gives a type or an error: an error is located at the
expression if it has no location yet, and the wrapper goes if the expression is known to be set. -/
def settle (scope : Scope Ty) (expr : Expr) (result : Except TypingError Ty) :
    Except TypingError Ty :=
  match result with
  | .error error => .error (error.locate expr.location)
  | .ok ty => .ok (if scope.knows expr then ty.required else ty)

/-- How to prove an expression set. -/
def assignHint (expr : Expr) : String :=
  "use `assign` in a condition or `isSet(" ++ expr.display
    ++ ")` to prove that this value is non-null"

/-- How to prove the elements of an array set. -/
def selectHint (expr : Expr) : String :=
  "use `selectSet(" ++ expr.display ++ ")` to prove all element values are non-null"

/-- The report that an expression does not have the type that its place asks for. -/
def mismatch (expr : Expr) (place : Place) (expected found : Ty) : TypingError :=
  (TypingFault.mismatch place expected found).error.locate expr.location

/-- What to do about an expression that is not of the expected type: if the type is the expected one
but for its wrapper, the expression can be proved set. -/
def hintFor (expr : Expr) (expected : Ty) : Ty → TypingError → TypingError
  | .optional inner, error =>
    if inner = expected then error.withHint expr.assignHint else error
  | _, error => error

/-- Accepts an expression of the expected type or of one that may stand for it. -/
def accept (expr : Expr) (place : Place) (expected found : Ty) : Except TypingError Unit :=
  if expected.accepts found then .ok ()
  else .error (hintFor expr expected found (mismatch expr place expected found))

/-- What to do about an array that a function cannot be mapped over. -/
def mapHintFor (expr : Expr) : Ty → TypingError → TypingError
  | .optional _, error => error.withHint expr.assignHint
  | .array (.optional _), error => error.withHint expr.selectHint
  | _, error => error

/-- Accepts the array that a function with this first argument is mapped over. -/
def acceptSource (expr : Expr) (element found : Ty) : Except TypingError Unit :=
  if (Ty.array element).accepts found then .ok ()
  else .error (mapHintFor expr found (mismatch expr .mapSource (.array element) found))

/-- The type of the array without its empty items. -/
def filteredTy (function : Function) (expr : Expr) : Ty → Except TypingError Ty
  | .array element => .ok (.array element.required)
  | other => .error (mismatch expr (.argument 1) (function.arguments.headD .any) other)

/-- The path that an expression has to spell out. -/
def literalPath (expr : Expr) : Except TypingError Path :=
  match expr.stringLiteral? with
  | none => .error (TypingFault.noLiteralPath.error.locate expr.location)
  | some text =>
    match Path.parse text with
    | .ok path => .ok path
    | .error fault => .error (TypingFault.invalidPath text fault).error

/-- The type of the part that a path leads to, as a report if there is none. -/
def partTy (ty : Ty) (path : Path) : Except TypingError Ty :=
  match ty.part path with
  | .ok part => .ok part
  | .error fault => .error fault.error

/-- Says in which invocation an error arose. -/
def inInvocation (function : Function) (location : Location) (result : Except TypingError Ty) :
    Except TypingError Ty :=
  match result with
  | .ok ty => .ok ty
  | .error error =>
    .error ((error.locate location).within
      ("while typechecking the invocation of " ++ function.id) location)

/-- The type under which a literal stands. -/
def literalTy (value : Value) : Except TypingError Ty :=
  match value.literalTy? with
  | some ty => .ok ty
  | none => .error (TypingFault.mixedArray value).error

/-- What is bound to a name. -/
def referenceTy (scope : Scope Ty) (name : String) : Except TypingError Ty :=
  match scope.resolve name with
  | some ty => .ok ty
  | none => .error (TypingFault.unbound name).error

mutual

/-- The static type of an expression. -/
def check (scope : Scope Ty) : Expr → Except TypingError Ty
  | .literal value location => settle scope (.literal value location) (literalTy value)
  | .template parts location =>
    settle scope (.template parts location) ((checkParts scope parts).map fun _ => .string)
  | .tuple items location =>
    settle scope (.tuple items location) ((checkItems scope none items).map .array)
  | .record fields location =>
    settle scope (.record fields location) ((checkFields scope fields).map .record)
  | .reference name location =>
    settle scope (.reference name location) (referenceTy scope name)
  | .attribute target path location =>
    match check scope target with
    | .error error => .error error
    | .ok ty => settle scope (.attribute target path location) (partTy ty path)
  | .call function arguments location =>
    settle scope (.call function arguments location) (inInvocation function location
      (match function.typing with
        | .signature =>
          if function.arguments.length = arguments.length then
            (checkArguments scope 1 function.arguments arguments).map fun _ => function.returns
          else
            .error (TypingFault.argumentCount function.arguments.length arguments.length).error
        | .arrayFilter => checkFilter scope function arguments
        | .attribute => checkAttribute scope arguments))
  | .mapped function source arguments location =>
    settle scope (.mapped function source arguments location) (inInvocation function location
      (if function.typing ≠ .signature then .error (TypingFault.unmappable function.id).error
      else if function.arguments.length ≠ arguments.length + 1 then
        .error (TypingFault.argumentCount function.arguments.length (arguments.length + 1)).error
      else match function.arguments with
        | [] => .error (TypingFault.nothingToMap function.id).error
        | element :: others =>
          match check scope source with
          | .error error => .error error
          | .ok found =>
            match acceptSource source element found with
            | .error error => .error error
            | .ok () =>
              (checkArguments scope 2 others arguments).map fun _ => .array function.returns))

/-- Every placeholder has to be a string. -/
def checkParts (scope : Scope Ty) : List (TemplatePart Expr) → Except TypingError Unit
  | [] => .ok ()
  | .text _ :: rest => checkParts scope rest
  | .hole expr :: rest =>
    match check scope expr with
    | .error error => .error error
    | .ok found =>
      match accept expr (.hole expr.display) .string found with
      | .error error => .error error
      | .ok () => checkParts scope rest

/-- The one type of the items of a tuple, given that of the items before. Without any it is
`Any`. -/
def checkItems (scope : Scope Ty) (first : Option Ty) : List Expr → Except TypingError Ty
  | [] => .ok (first.getD .any)
  | item :: rest =>
    match check scope item with
    | .error error => .error error
    | .ok found =>
      match first with
      | none => checkItems scope (some found) rest
      | some ty =>
        if ty = found then checkItems scope (some ty) rest
        else .error ((TypingFault.mixedTuple ty found).error.locate item.location)

/-- The types of the fields of a record. -/
def checkFields (scope : Scope Ty) : List (String × Expr) → Except TypingError (List (String × Ty))
  | [] => .ok []
  | (name, expr) :: rest =>
    match check scope expr with
    | .error error => .error error
    | .ok ty => (checkFields scope rest).map ((name, ty) :: ·)

/-- Every argument has to be of the type that its position asks for. The position of the first one
is given. -/
def checkArguments (scope : Scope Ty) (position : Nat) (expected : List Ty) :
    List Expr → Except TypingError Unit
  | [] => .ok ()
  | argument :: rest =>
    match expected with
    | [] => .ok ()
    | ty :: others =>
      match check scope argument with
      | .error error => .error error
      | .ok found =>
        match accept argument (.argument position) ty found with
        | .error error => .error error
        | .ok () => checkArguments scope (position + 1) others rest

/-- The type of an array without its empty items. -/
def checkFilter (scope : Scope Ty) (function : Function) : List Expr → Except TypingError Ty
  | [argument] =>
    match check scope argument with
    | .error error => .error error
    | .ok found => filteredTy function argument found
  | arguments => .error (TypingFault.argumentCount 1 arguments.length).error

/-- The type of a part of a value, by a literal path. -/
def checkAttribute (scope : Scope Ty) : List Expr → Except TypingError Ty
  | [target, path] =>
    match check scope target with
    | .error error => .error error
    | .ok found =>
      match literalPath path with
      | .error error => .error error
      | .ok steps => partTy found steps
  | arguments => .error (TypingFault.argumentCount 2 arguments.length).error

end

/-- Checks that an expression may stand in a place that asks for a type. -/
def expect (scope : Scope Ty) (place : Place) (expected : Ty) (expr : Expr) :
    Except TypingError Unit :=
  match expr.check scope with
  | .error error => .error error
  | .ok found => accept expr place expected found

end EndpointResolution.Expr
