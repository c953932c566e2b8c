/-!
Decimal and hexadecimal numerals.
-/
namespace EndpointResolution.Text

/-- The number that a non-empty run of ASCII decimal digits stands for. -/
def readDigits (text : List Char) : Option Nat :=
  if text.isEmpty || !text.all Char.isDigit then none else some (Nat.ofDigitChars 10 text 0)

/-- The digits of a number, without superfluous zeros. -/
def writeDigits (n : Nat) : List Char :=
  Nat.toDigits 10 n

/-- A 64-bit number: digits of a value below 2^64, after an optional plus sign. -/
def readWord (text : List Char) : Option UInt64 :=
  let digits := match text with
    | '+' :: rest => rest
    | _ => text
  match readDigits digits with
  | none => none
  | some n => if n < UInt64.size then some (UInt64.ofNat n) else none

/-- The value of a hexadecimal digit of either case. -/
def hexValue? (c : Char) : Option Nat :=
  if c.isDigit then some (c.toNat - '0'.toNat)
  else if 'a' ≤ c ∧ c ≤ 'f' then some (c.toNat - 'a'.toNat + 10)
  else if 'A' ≤ c ∧ c ≤ 'F' then some (c.toNat - 'A'.toNat + 10)
  else none

/-- The lowercase hexadecimal digits of a number, without superfluous zeros. -/
def writeHex (n : Nat) : List Char :=
  Nat.toDigits 16 n

/-- The uppercase hexadecimal digit of a value below sixteen. -/
def upperHexDigit (n : Nat) : Char :=
  if n < 10 then Char.ofNat ('0'.toNat + n) else Char.ofNat ('A'.toNat + (n - 10))

/-- The lowercase hexadecimal digit of a value below sixteen. -/
def lowerHexDigit (n : Nat) : Char :=
  if n < 10 then Char.ofNat ('0'.toNat + n) else Char.ofNat ('a'.toNat + (n - 10))

end EndpointResolution.Text
