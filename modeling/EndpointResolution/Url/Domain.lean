import EndpointResolution.Text.Pieces
import EndpointResolution.Url.Idna.Direction
import EndpointResolution.Url.Idna.Joining
import EndpointResolution.Url.Idna.Mapping
import EndpointResolution.Url.Punycode

/-!
Domain names. Every domain has one ASCII form: its characters are mapped and composed, and each
label with a character that is not ASCII is written in Punycode after `xn--`.
-/
namespace EndpointResolution.Url.Domain

/-- The ASCII characters that no domain holds. -/
def isForbidden (c : Char) : Bool :=
  c.toNat ≤ 0x20 || c.toNat == 0x7f || "%#/:<>?@[\\]^|".toList.contains c

/-- The start of a label that is written in Punycode. -/
def punycodeMark : List Char := ['x', 'n', '-', '-']

/-- The most characters after the mark that are read as Punycode. -/
def longestPunycode : Nat := 2000

/-- The most characters of a label that is not ASCII. -/
def longestLabel : Nat := 1000

/-- The label that a written label stands for. What is written in Punycode has to need it, and has
to be in the form that mapping and composition give. -/
def decodeLabel? (label : List Char) : Option (List Char) :=
  if label.take 4 = punycodeMark then do
    guard (label.length ≤ longestPunycode + punycodeMark.length)
    let decoded ← Punycode.decode? (label.drop 4)
    guard (decoded.any (!Text.isAscii ·) && decoded.all Idna.isMapped
      && Idna.normalize decoded == decoded)
    return decoded
  else some label

/-- The ASCII form of a label. -/
def encodeLabel (label : List Char) : List Char :=
  if label.all Text.isAscii then label else punycodeMark ++ Punycode.encode label

/-- The label may stand in a domain by itself. -/
def isAllowedLabel (label : List Char) : Bool :=
  !label.any isForbidden
    && (label.all Text.isAscii || (label.length ≤ longestLabel && Idna.isWellJoined label))

/-- The ASCII form of a domain. -/
def toAscii? (text : List Char) : Option (List Char) := do
  let mapped ← Idna.map? text
  let labels := Text.pieces '.' (Idna.normalize mapped)
  let decoded ← labels.mapM decodeLabel?
  guard (decoded.all isAllowedLabel)
  guard (!decoded.any Idna.hasRightToLeft || decoded.all Idna.keepsDirection)
  return Text.joinPieces '.' (labels.map encodeLabel)

end EndpointResolution.Url.Domain
