/-!
Cutting an ASCII text at signed positions, counted from either end.
-/
namespace EndpointResolution.Text

/-- The character is ASCII. -/
def isAscii (c : Char) : Bool :=
  c.toNat < 0x80

/-- The characters from position `start` up to but not including `stop`, with positions counted
from the end of the text backwards if `backward`. Only an ASCII text is cut, and only at
`0 ≤ start < stop ≤ length`. -/
def slice? (text : String) (start stop : Int64) (backward : Bool) : Option String :=
  let chars := text.toList
  let size : Int := chars.length
  let first := start.toInt
  let last := stop.toInt
  if chars.all isAscii && 0 ≤ first && first < last && last ≤ size then
    let lower := if backward then size - last else first
    some (String.ofList ((chars.drop lower.toNat).take (last - first).toNat))
  else none

end EndpointResolution.Text
