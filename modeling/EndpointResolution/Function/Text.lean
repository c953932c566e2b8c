import EndpointResolution.Function.Basic
import EndpointResolution.Text.HostLabel
import EndpointResolution.Text.Percent
import EndpointResolution.Text.Slice

/-!
The functions on texts.
-/
namespace EndpointResolution.Function

/-- A part of an ASCII text, or the empty value if there is no such part. -/
def substring : Function where
  id := "substring"
  arguments := [.string, .integer, .integer, .boolean]
  returns := .optional .string
  typing := .signature
  rule
    | [text, start, stop, backward] => do
      let text ← text.expectString
      let start ← start.expectInteger
      let stop ← stop.expectInteger
      let backward ← backward.expectBoolean
      return match Text.slice? text start stop backward with
        | some part => .string part
        | none => .empty
    | other => .error (.argumentCount "substring" 4 other.length)

/-- A text with everything but unreserved characters percent-encoded. -/
def uriEncode : Function :=
  unary "uriEncode" .string .string fun value => do
    return .string (Text.Percent.encodeComponent (← value.expectString))

/-- The text is a host label or, if dots are allowed, host labels with dots between them. -/
def isValidHostLabel : Function :=
  binary "isValidHostLabel" .string .boolean .boolean fun value dotted => do
    let text ← value.expectString
    let dotted ← dotted.expectBoolean
    return .boolean (Text.isHostName text dotted)

/-- The functions of this module. -/
def onTexts : List Function :=
  [substring, uriEncode, isValidHostLabel]

end EndpointResolution.Function
