import EndpointResolution.Text.Numeral
import EndpointResolution.Text.Pieces

/-!
IPv4 addresses in the written forms that hosts admit: up to four numbers, each decimal, octal or
hexadecimal, of which the last one fills all the bytes that are left.
-/
namespace EndpointResolution.Url.Ipv4

/-- The number for digits of a base, the most significant one first. -/
def ofDigits (base : Nat) (digits : List Nat) : Nat :=
  digits.foldl (fun n digit => base * n + digit) 0

/-- The digits below a base that a text consists of. -/
def digitsBelow? (base : Nat) (text : List Char) : Option (List Nat) :=
  text.mapM fun c => (Text.hexValue? c).filter (· < base)

/-- Reads a number: hexadecimal after `0x`, octal after another `0`, else decimal. A bare `0x` is
zero. -/
def readNumber (text : List Char) : Option Nat :=
  match text with
  | [] => none
  | '0' :: 'x' :: digits | '0' :: 'X' :: digits => (digitsBelow? 16 digits).map (ofDigits 16)
  | '0' :: c :: digits => (digitsBelow? 8 (c :: digits)).map (ofDigits 8)
  | digits => (digitsBelow? 10 digits).map (ofDigits 10)

/-- The pieces between dots, without an empty one at the end. -/
def dotted (text : List Char) : List (List Char) :=
  let parts := Text.pieces '.' text
  if parts.getLast? = some [] then parts.dropLast else parts

/-- The last of the pieces is a number, so that the host has to be an address. -/
def endsInNumber (text : List Char) : Bool :=
  match (dotted text).getLast? with
  | none => false
  | some last => (!last.isEmpty && last.all Char.isDigit) || (readNumber last).isSome

/-- Reads an address as a 32-bit number. -/
def parse (text : List Char) : Option Nat := do
  let parts := dotted text
  guard (parts.length ≤ 4)
  let numbers ← parts.mapM readNumber
  let last ← numbers.getLast?
  let leading := numbers.dropLast
  let room := Nat.pow 256 (4 - leading.length)
  guard (leading.all (· < 256) && last < room)
  return ofDigits 256 leading * room + last

/-- The four bytes in decimal with dots between them. -/
def display (address : Nat) : List Char :=
  let bytes := [address / 16777216, address / 65536 % 256, address / 256 % 256, address % 256]
  Text.joinPieces '.' (bytes.map Text.writeDigits)

end EndpointResolution.Url.Ipv4
