import EndpointResolution.Function.Basic
import EndpointResolution.Location

/-!
Expressions of rule-sets. Two expressions are alike if they differ in source locations at most;
two calls of functions of one name count as calls of one function.
-/
namespace EndpointResolution

/-- A part of a template: a text, or a placeholder for an expression. -/
inductive TemplatePart (ε : Type) where
  | text (text : String)
  | hole (expr : ε)

/-- An expression. The fields of a record literal ascend by name. -/
inductive Expr where
  /-- A value as it is. -/
  | literal (value : Value) (location : Location)
  /-- A text with placeholders. -/
  | template (parts : List (TemplatePart Expr)) (location : Location)
  /-- An array of the values of expressions. -/
  | tuple (items : List Expr) (location : Location)
  /-- A record of the values of expressions. -/
  | record (fields : List (String × Expr)) (location : Location)
  /-- The value bound to a name. -/
  | reference (name : String) (location : Location)
  /-- A part of a value. -/
  | attribute (target : Expr) (path : Path) (location : Location)
  /-- A function applied to arguments. -/
  | call (function : Function) (arguments : List Expr) (location : Location)
  /-- A function applied to every element of an array, each followed by further arguments. -/
  | mapped (function : Function) (source : Expr) (arguments : List Expr) (location : Location)

namespace Expr

/-- Where the expression was declared. -/
def location : Expr → Location
  | .literal _ location => location
  | .template _ location => location
  | .tuple _ location => location
  | .record _ location => location
  | .reference _ location => location
  | .attribute _ _ location => location
  | .call _ _ location => location
  | .mapped _ _ _ location => location

/-- The expression at another location. The expressions inside it keep theirs. -/
def relocate (expr : Expr) (location : Location) : Expr :=
  match expr with
  | .literal value _ => .literal value location
  | .template parts _ => .template parts location
  | .tuple items _ => .tuple items location
  | .record fields _ => .record fields location
  | .reference name _ => .reference name location
  | .attribute target path _ => .attribute target path location
  | .call function arguments _ => .call function arguments location
  | .mapped function source arguments _ => .mapped function source arguments location

/-- A text as it is. -/
def string (text : String) : Expr :=
  .literal (.string text) .unknown

/-- The text of a plain string literal. -/
def stringLiteral? : Expr → Option String
  | .literal (.string text) _ => some text
  | _ => none

mutual

/-- The two expressions differ in source locations at most. -/
def alike : Expr → Expr → Bool
  | .literal v _, .literal w _ => v.same w
  | .template ps _, .template qs _ => alikeParts ps qs
  | .tuple as _, .tuple bs _ => alikeAll as bs
  | .record as _, .record bs _ => alikeFields as bs
  | .reference n _, .reference m _ => n == m
  | .attribute a p _, .attribute b q _ => alike a b && p == q
  | .call f as _, .call g bs _ => f.id == g.id && alikeAll as bs
  | .mapped f a as _, .mapped g b bs _ => f.id == g.id && alike a b && alikeAll as bs
  | _, _ => false

/-- The two templates differ in source locations at most. -/
def alikeParts : List (TemplatePart Expr) → List (TemplatePart Expr) → Bool
  | [], [] => true
  | .text s :: ps, .text t :: qs => s == t && alikeParts ps qs
  | .hole a :: ps, .hole b :: qs => alike a b && alikeParts ps qs
  | _, _ => false

/-- The two lists differ in source locations at most. -/
def alikeAll : List Expr → List Expr → Bool
  | [], [] => true
  | a :: as, b :: bs => alike a b && alikeAll as bs
  | _, _ => false

/-- The two lists of fields differ in source locations at most. -/
def alikeFields : List (String × Expr) → List (String × Expr) → Bool
  | [], [] => true
  | (n, a) :: as, (m, b) :: bs => n == m && alike a b && alikeFields as bs
  | _, _ => false

end

/-- The text of a call. -/
def callText (id : String) (arguments : List String) : String :=
  id ++ "(" ++ ", ".intercalate arguments ++ ")"

/-- A text inside a template: braces are doubled. -/
def doubleBraces (text : List Char) : List Char :=
  text.flatMap fun c => if c = '{' ∨ c = '}' then [c, c] else [c]

mutual

/-- The text of an expression in messages. -/
def display : Expr → String
  | .literal value _ => value.display
  | .template parts _ => "\"" ++ displayParts parts ++ "\""
  | .tuple items _ => "[" ++ ", ".intercalate (displayAll items) ++ "]"
  | .record fields _ => "\x7b" ++ ", ".intercalate (displayFields fields) ++ "\x7d"
  | .reference name _ => name
  | .attribute target path _ => target.display ++ "#" ++ path.display
  | .call function arguments _ => callText function.id (displayAll arguments)
  | .mapped function source arguments _ =>
    source.display ++ ".map((e)->" ++ callText function.id ("e" :: displayAll arguments) ++ ")"

/-- The text of a template between its quotes. -/
def displayParts : List (TemplatePart Expr) → String
  | [] => ""
  | .text text :: rest => String.ofList (doubleBraces text.toList) ++ displayParts rest
  | .hole expr :: rest => "\x7b" ++ expr.display ++ "\x7d" ++ displayParts rest

/-- The texts of expressions. -/
def displayAll : List Expr → List String
  | [] => []
  | expr :: rest => expr.display :: displayAll rest

/-- The text of each field: its name, a colon and its expression. -/
def displayFields : List (String × Expr) → List String
  | [] => []
  | (name, expr) :: rest => (name ++ ": " ++ expr.display) :: displayFields rest

end

end Expr
end EndpointResolution
