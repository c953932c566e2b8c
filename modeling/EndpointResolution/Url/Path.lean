import EndpointResolution.Text.Percent
import EndpointResolution.Text.Pieces

/-!
The path of an address: segments in percent-encoding, with the dot segments resolved.
-/
namespace EndpointResolution.Url.Path

/-- The printing ASCII characters that are encoded in a path. -/
def encodedInPath : List Char :=
  " \"#<>?`\x7b\x7d".toList

/-- The character stands in a path as it is. -/
def isPathChar (c : Char) : Bool :=
  0x20 ≤ c.toNat && c.toNat < 0x7f && !encodedInPath.contains c

/-- The segment names the place that it stands in. -/
def isSingleDot (segment : List Char) : Bool :=
  [".", "%2e"].any (·.toList == segment.map Char.toLower)

/-- The segment names the place above. -/
def isDoubleDot (segment : List Char) : Bool :=
  ["..", ".%2e", "%2e.", "%2e%2e"].any (·.toList == segment.map Char.toLower)

/-- The segment is an ASCII letter and a colon or a bar. It is never taken back. -/
def isDriveLetter : List Char → Bool
  | [letter, mark] => letter.isAlpha && (mark == ':' || mark == '|')
  | _ => false

/-- The segments, last one first, after a step up. -/
def stepUp : List (List Char) → List (List Char)
  | [] => []
  | segment :: outer => if isDriveLetter segment then segment :: outer else outer

/-- The segments of a path, given those before, last one first. The last segment has no slash after
it, so a dot segment there leaves an empty one. -/
def resolveDots (before : List (List Char)) : List (List Char) → List (List Char)
  | [] => before.reverse
  | [last] =>
    if isDoubleDot last then (stepUp before).reverse ++ [[]]
    else if isSingleDot last then before.reverse ++ [[]]
    else before.reverse ++ [last]
  | segment :: next :: rest =>
    if isDoubleDot segment then resolveDots (stepUp before) (next :: rest)
    else if isSingleDot segment then resolveDots before (next :: rest)
    else resolveDots (segment :: before) (next :: rest)

/-- The path for the text after the host. Backslashes count as slashes, and the path starts with a
slash whether the text does or not. -/
def normalize (text : List Char) : List Char :=
  let slashed := text.map fun c => if c = '\\' then '/' else c
  let relative := match slashed with
    | '/' :: rest => rest
    | rest => rest
  let segments := (Text.pieces '/' relative).map (Text.Percent.encode isPathChar)
  '/' :: Text.joinPieces '/' (resolveDots [] segments)

end EndpointResolution.Url.Path
