import EndpointResolution.Text.Numeral
import EndpointResolution.Text.Pieces

/-!
IPv6 addresses: eight groups of sixteen bits. In the written form one run of zero groups may be
left out at a double colon, and the last two groups may be four decimal bytes.
-/
namespace EndpointResolution.Url.Ipv6

/-- The groups of an address, eight of them. -/
abbrev Groups := List Nat

/-- Reads a group of one to four hexadecimal digits. -/
def readGroup (text : List Char) : Option Nat :=
  if text.isEmpty || 4 < text.length then none
  else (text.mapM Text.hexValue?).map fun digits => digits.foldl (fun n digit => 16 * n + digit) 0

/-- Reads a decimal byte without superfluous zeros. -/
def readByte (text : List Char) : Option Nat :=
  if text.head? = some '0' ∧ text.length ≠ 1 then none
  else (Text.readDigits text).filter (· < 256)

/-- Reads the last piece: a group, or two groups as four decimal bytes with dots between them. -/
def readLast (text : List Char) : Option Groups :=
  match (Text.pieces '.' text).mapM readByte with
  | some [a, b, c, d] => some [256 * a + b, 256 * c + d]
  | _ => (readGroup text).map fun group => [group]

/-- Reads pieces between colons, the last of which may be decimal bytes. -/
def readPieces : List (List Char) → Option Groups
  | [] => some []
  | [last] => readLast last
  | piece :: next :: rest => do
    let group ← readGroup piece
    let groups ← readPieces (next :: rest)
    return group :: groups

/-- The texts before and after the first double colon. -/
def splitDouble? : List Char → Option (List Char × List Char)
  | ':' :: ':' :: rest => some ([], rest)
  | c :: rest => (splitDouble? rest).map fun halves => (c :: halves.1, halves.2)
  | [] => none

/-- Reads the groups of a text that may be empty. -/
def readGroups (text : List Char) : Option Groups :=
  if text.isEmpty then some [] else readPieces (Text.pieces ':' text)

/-- Reads an address. A double colon stands for one zero group at least. -/
def parse (text : List Char) : Option Groups :=
  match splitDouble? text with
  | none => (readGroups text).filter (·.length == 8)
  | some (before, after) => do
    let leading ← (if before.isEmpty then some [] else (Text.pieces ':' before).mapM readGroup)
    let trailing ← readGroups after
    let count := leading.length + trailing.length
    guard (count ≤ 7)
    return leading ++ List.replicate (8 - count) 0 ++ trailing

/-- Groups in hexadecimal with colons between them. -/
def writeGroups (groups : Groups) : List Char :=
  Text.joinPieces ':' (groups.map Text.writeHex)

/-- The number of zero groups from a position on. -/
def zerosFrom (groups : Groups) (start : Nat) : Nat :=
  ((groups.drop start).takeWhile (· == 0)).length

/-- The longest run of zero groups. -/
def longestRun (groups : Groups) : Nat :=
  ((List.range groups.length).map (zerosFrom groups)).foldl max 0

/-- The shortest form: the first of the longest runs of two or more zero groups is left out. -/
def display (groups : Groups) : List Char :=
  let longest := longestRun groups
  let start := ((List.range groups.length).takeWhile fun i => zerosFrom groups i != longest).length
  if longest < 2 then writeGroups groups
  else writeGroups (groups.take start) ++ [':', ':'] ++ writeGroups (groups.drop (start + longest))

end EndpointResolution.Url.Ipv6
