import EndpointResolution.Ty.Basic
import EndpointResolution.Value.Basic

/-!
Functions that expressions call.
-/
namespace EndpointResolution

/-- How the type of a call follows from its arguments. -/
inductive TypingRule where
  /-- By the declared types of the arguments and of the result. -/
  | signature
  /-- An array of possibly empty items becomes the array of those that are set. -/
  | arrayFilter
  /-- A value and a literal path give the type of the part that the path leads to. -/
  | attribute
  deriving DecidableEq, Repr

/-- The name of a way of typing. -/
def TypingRule.display : TypingRule → String
  | .signature => "Signature"
  | .arrayFilter => "ArrayFilter"
  | .attribute => "Attribute"

/-- A function of the expression language. -/
structure Function where
  id : String
  arguments : List Ty
  returns : Ty
  typing : TypingRule
  /-- The result on as many arguments as are declared. -/
  rule : List Value → Except EvaluationError Value

namespace Function

/-- The failure of a call with a wrong number of arguments. -/
def wrongCount (function : Function) (arguments : List Value) : EvaluationError :=
  .argumentCount function.id function.arguments.length arguments.length

/-- The result on a list of arguments, which has to have the declared length. -/
def apply (function : Function) (arguments : List Value) : Except EvaluationError Value :=
  if arguments.length = function.arguments.length then function.rule arguments
  else .error (function.wrongCount arguments)

/-- The results of a mapped call: the function is applied to each element of the source, followed
by the other arguments. -/
def applyEach (function : Function) (others : List Value) :
    List Value → Except EvaluationError (List Value)
  | [] => .ok []
  | element :: rest =>
    match function.apply (element :: others) with
    | .error error => .error error
    | .ok result => (function.applyEach others rest).map (result :: ·)

/-- A function of one argument. -/
def unary (id : String) (argument returns : Ty)
    (rule : Value → Except EvaluationError Value) : Function where
  id := id
  arguments := [argument]
  returns := returns
  typing := .signature
  rule
    | [value] => rule value
    | other => .error (.argumentCount id 1 other.length)

/-- A function of two arguments. -/
def binary (id : String) (first second returns : Ty)
    (rule : Value → Value → Except EvaluationError Value) : Function where
  id := id
  arguments := [first, second]
  returns := returns
  typing := .signature
  rule
    | [a, b] => rule a b
    | other => .error (.argumentCount id 2 other.length)

/-- The function with a typing rule of its own. -/
def withTyping (function : Function) (typing : TypingRule) : Function :=
  { function with typing := typing }

end Function
end EndpointResolution
