import EndpointResolution.ConstructionError
import EndpointResolution.Expr.Basic

/-!
Building expressions from their written forms: templates, attribute paths and mapped calls.

A template is a text in which `{name}` and `{name#path}` are placeholders for a reference and for
an attribute of one; a doubled brace stands for itself.
-/
namespace EndpointResolution

/-- The parts of a template. -/
abbrev Template := List (TemplatePart Expr)

namespace Template

/-- A template while it is read: texts and the expressions of placeholders. -/
abbrev Pieces := List (List Char ⊕ Expr)

/-- Puts a character before what follows it, joined to a text. -/
def consChar (c : Char) : Pieces → Pieces
  | .inl text :: rest => .inl (c :: text) :: rest
  | pieces => .inl [c] :: pieces

/-- The expression of a placeholder, from the text between its braces. -/
def readHole (text : List Char) : Except TemplateFault Expr :=
  let name := text.takeWhile (· != '#')
  if Path.isName name then
    let reference := Expr.reference (String.ofList name) .unknown
    match text.dropWhile (· != '#') with
    | [] => .ok reference
    | _ :: path =>
      match Path.parse (String.ofList path) with
      | .ok steps => .ok (.attribute reference steps .unknown)
      | .error fault => .error (.badPath fault)
  else .error (.badPlaceholder (String.ofList text))

/-- Reads a template. The first argument is what has been read of the placeholder that is open, if
one is. -/
def read : Option (List Char) → List Char → Except TemplateFault Pieces
  | none, [] => .ok []
  | none, '{' :: '{' :: rest => (read none rest).map (consChar '{')
  | none, '}' :: '}' :: rest => (read none rest).map (consChar '}')
  | none, '}' :: _ => .error .unmatchedBrace
  | none, '{' :: rest => read (some []) rest
  | none, c :: rest => (read none rest).map (consChar c)
  | some _, [] => .error .unclosedBrace
  | some text, '}' :: rest =>
    match readHole text with
    | .error fault => .error fault
    | .ok expr => (read none rest).map (.inr expr :: ·)
  | some text, c :: rest => read (some (text ++ [c])) rest

/-- The part of a template for what was read. -/
def ofPiece : List Char ⊕ Expr → TemplatePart Expr
  | .inl text => .text (String.ofList text)
  | .inr expr => .hole expr

/-- Reads the source of a template. -/
def parse (source : String) : Except ConstructionError Template :=
  match read none source.toList with
  | .ok pieces => .ok (pieces.map ofPiece)
  | .error fault => .error (.invalidTemplate source fault)

/-- The template has no placeholders. -/
def isStatic (template : Template) : Bool :=
  template.all fun
    | .text _ => true
    | .hole _ => false

/-- The texts of a template, one after the other. -/
def staticText (template : Template) : String :=
  String.join (template.map fun
    | .text text => text
    | .hole _ => "")

end Template

namespace Expr

/-- The expression for the source of a template. Without placeholders it is a plain string. -/
def ofTemplate (source : String) : Except ConstructionError Expr :=
  match Template.parse source with
  | .error error => .error error
  | .ok parts =>
    if Template.isStatic parts then .ok (string (Template.staticText parts))
    else .ok (.template parts .unknown)

/-- The part of a value that a written path leads to, declared where the value is. -/
def attributeOf (target : Expr) (path : String) : Except ConstructionError Expr :=
  match Path.parse path with
  | .ok steps => .ok (.attribute target steps target.location)
  | .error fault => .error (.invalidPath path fault)

/-- A call mapped over an array, declared where the array is. Functions with typing rules of their
own cannot be mapped. -/
def mappedOver (function : Function) (source : Expr) (arguments : List Expr) :
    Except ConstructionError Expr :=
  if function.typing = .signature then
    .ok (.mapped function source arguments source.location)
  else .error (.unmappableFunction function.id)

end Expr
end EndpointResolution
