import EndpointResolution.Text.DecimalDigit
import EndpointResolution.Text.Pieces

/-!
Host labels: one to sixty-three letters, digits and hyphens, not starting with a hyphen. A digit
of any script counts.
-/
namespace EndpointResolution.Text

/-- An ASCII letter or a decimal digit of any script. -/
def isLabelStart (c : Char) : Bool :=
  c.isAlpha || isDecimalDigit c

/-- A character that may follow the first one of a label. -/
def isLabelPart (c : Char) : Bool :=
  isLabelStart c || c == '-'

/-- The text is one label. -/
def isHostLabel : List Char → Bool
  | [] => false
  | first :: rest => isLabelStart first && rest.all isLabelPart && rest.length ≤ 62

/-- The text is one label or, if dots are allowed, labels with dots between them. -/
def isHostName (text : String) (dotted : Bool) : Bool :=
  if dotted then (pieces '.' text.toList).all isHostLabel else isHostLabel text.toList

end EndpointResolution.Text
