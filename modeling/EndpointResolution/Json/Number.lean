import EndpointResolution.Decimal.Shortest

/-!
Numbers of a JSON document. A literal without fraction and exponent is a 64-bit integer if it fits;
every other literal is a double. A double is made from the leading digits of the literal, as many
as fit into 64 bits, scaled by a power of ten, with the result of each step rounded.
-/
namespace EndpointResolution

open Decimal (Double)

/-- A number: a signed 64-bit integer, a greater integer of 64 bits, or a double and its sign. -/
inductive JsonNumber where
  | integer (n : Int64)
  | natural (n : UInt64)
  | real (negative : Bool) (size : Double)
  deriving DecidableEq, Repr

namespace JsonNumber

/-- The text of a number. -/
def display : JsonNumber → String
  | .integer n => toString n.toInt
  | .natural n => String.ofList (Text.writeDigits n.toNat)
  | .real negative size => String.ofList ((if negative then ['-'] else []) ++ size.display)

/-- The least natural number that is no signed 64-bit integer. -/
def signedLimit : Nat :=
  UInt64.size / 2

/-- Appends digits to a significand as long as it fits into 64 bits, and returns the others. -/
def appendDigits : Nat → List Char → Nat × List Char
  | significand, [] => (significand, [])
  | significand, c :: rest =>
    let longer := 10 * significand + (c.toNat - '0'.toNat)
    if longer < UInt64.size then appendDigits longer rest else (significand, c :: rest)

/-- Divides by a power of ten, by at most `10 ^ 308` at a time. -/
def divideByPower (x : Double) (power : Nat) : Option Double :=
  if power ≤ 308 then (Double.powerOfTen? power).bind x.div?
  else if x.mantissa = 0 then some x
  else ((Double.powerOfTen? 308).bind x.div?).bind fun smaller =>
    divideByPower smaller (power - 308)
termination_by power

/-- The double for a significand times a power of ten, unless that is out of range. -/
def scale (significand : Nat) (power : Int) : Option Double :=
  (Double.ofNat? significand).bind fun x =>
    if power < 0 then divideByPower x (-power).toNat
    else if x.mantissa = 0 then some x
    else if power ≤ 308 then (Double.powerOfTen? power.toNat).bind x.mul?
    else none

/-- The number of a literal, from its sign, the digits before and after the point, and its
exponent. A zero or an integer below the signed range with a minus sign becomes a double. -/
def ofParts (negative : Bool) (whole fraction : List Char) (exponent : Option Int) :
    Option JsonNumber :=
  let (high, dropped) := appendDigits 0 whole
  if dropped.isEmpty && fraction.isEmpty && exponent.isNone then
    if !negative then
      some (if high < signedLimit then .integer (Int64.ofNat high)
        else .natural (UInt64.ofNat high))
    else if 0 < high ∧ high ≤ signedLimit then some (.integer (Int64.ofInt (-high)))
    else (Double.ofNat? high).map (.real true)
  else
    let (significand, unread) := appendDigits high fraction
    let power : Int := dropped.length - (fraction.length - unread.length) + exponent.getD 0
    (scale significand power).map (.real negative)

/-- Reads an exponent after its letter: an optional sign and at least one digit. -/
def readExponent (text : List Char) : Option Int :=
  match text with
  | '+' :: digits => (Text.readDigits digits).map fun n => (n : Int)
  | '-' :: digits => (Text.readDigits digits).map fun n => -(n : Int)
  | digits => (Text.readDigits digits).map fun n => (n : Int)

/-- Reads a literal without its sign: digits without a superfluous zero, an optional fraction, and
an optional exponent. -/
def readUnsigned (negative : Bool) (text : List Char) : Option JsonNumber :=
  let whole := text.takeWhile Char.isDigit
  let afterWhole := text.dropWhile Char.isDigit
  if whole.isEmpty || (whole.head? == some '0' && whole.length != 1) then none
  else
    let fraction := match afterWhole with
      | '.' :: rest => some (rest.takeWhile Char.isDigit)
      | _ => none
    let afterFraction := match afterWhole with
      | '.' :: rest => rest.dropWhile Char.isDigit
      | rest => rest
    if fraction = some [] then none
    else match afterFraction with
      | [] => ofParts negative whole (fraction.getD []) none
      | mark :: rest =>
        if mark = 'e' ∨ mark = 'E' then
          (readExponent rest).bind fun exponent =>
            ofParts negative whole (fraction.getD []) (some exponent)
        else none

/-- Reads a literal. -/
def read (text : List Char) : Option JsonNumber :=
  match text with
  | '-' :: rest => readUnsigned true rest
  | _ => readUnsigned false text

end JsonNumber
end EndpointResolution
