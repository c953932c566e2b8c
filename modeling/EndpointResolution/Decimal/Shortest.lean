import EndpointResolution.Decimal.Double
import EndpointResolution.Text.Numeral

/-!
The shortest decimal that reads back as a double: the fewest digits such that the double is the
nearest one to the decimal, and with that many digits the decimal nearest to the double.
-/
namespace EndpointResolution.Decimal

/-- The number `digits * 10 ^ exponent`. -/
structure Scientific where
  digits : Nat
  exponent : Int
  deriving DecidableEq, Repr, Inhabited

namespace Double

/-- The exponent of the leading decimal digit of a positive fraction. -/
def leadingExponent (num den : Nat) : Int :=
  if den ≤ num then ((Nat.toDigits 10 (num / den)).length : Int) - 1
  else -((Nat.toDigits 10 ((den + num - 1) / num - 1)).length : Int)

/-- How far below a double, in quarters of its last bit, numbers still round to it. -/
def quartersBelow (x : Double) : Nat :=
  if x.mantissa = leastFull ∧ leastExponent < x.exponent then 1 else 2

/-- Of the two multiples of `10 ^ exponent` next to a double, the nearest that rounds to it. -/
def onGrid? (x : Double) (exponent : Int) : Option Scientific :=
  -- A quarter of the last bit of `x` is `num / den` steps of the grid.
  let quarter := scaled 1 (x.exponent - 2)
  let num := quarter.1 * Nat.pow 10 (-exponent).toNat
  let den := quarter.2 * Nat.pow 10 exponent.toNat
  let value := 4 * x.mantissa * num
  let least := (4 * x.mantissa - x.quartersBelow) * num
  let greatest := (4 * x.mantissa + 2) * num
  let reads (n : Nat) : Bool :=
    if x.mantissa % 2 = 0 then least ≤ n * den && n * den ≤ greatest
    else least < n * den && n * den < greatest
  let below := value / den
  let above := below + 1
  let toBelow := value - below * den
  let toAbove := above * den - value
  let preferAbove := toAbove < toBelow || (toAbove == toBelow && below % 2 == 1)
  let pick (n : Nat) : Option Scientific := some ⟨n, exponent⟩
  if reads below && reads above then if preferAbove then pick above else pick below
  else if reads below then pick below
  else if reads above then pick above
  else none

/-- The first hit on grids of ever more digits, `count` of them left to try. -/
def searchGrids (x : Double) (exponent : Int) : Nat → Scientific
  | 0 => ⟨0, 0⟩
  | count + 1 =>
    match x.onGrid? exponent with
    | some decimal => decimal
    | none => searchGrids x (exponent - 1) count

/-- The shortest decimal of a positive double. Seventeen digits are always enough. -/
def shortest (x : Double) : Scientific :=
  x.searchGrids (leadingExponent x.fraction.1 x.fraction.2) 17

end Double

/-- The text of a positive decimal: positional with at least one digit on each side of the point
while the leading digit stands for a power of ten from -5 to 15, else with an exponent that shows
its sign and no point after a single digit. -/
def Scientific.display (decimal : Scientific) : List Char :=
  let written := Text.writeDigits decimal.digits
  let zeros := (written.reverse.takeWhile (· == '0')).length
  let digits := written.take (written.length - zeros)
  let exponent := decimal.exponent + zeros
  let point : Int := digits.length + exponent
  if 0 ≤ exponent ∧ point ≤ 16 then
    digits ++ List.replicate exponent.toNat '0' ++ ['.', '0']
  else if 0 < point ∧ point ≤ 16 then
    digits.take point.toNat ++ '.' :: digits.drop point.toNat
  else if -5 < point ∧ point ≤ 0 then
    ['0', '.'] ++ List.replicate (-point).toNat '0' ++ digits
  else
    let power := point - 1
    let sign := if power < 0 then '-' else '+'
    let tail := digits.drop 1
    digits.take 1 ++ (if tail.isEmpty then [] else '.' :: tail)
      ++ ['e', sign] ++ Text.writeDigits power.natAbs

/-- The text of a double, `0.0` for zero. -/
def Double.display (x : Double) : List Char :=
  if x.mantissa = 0 then ['0', '.', '0'] else x.shortest.display

end EndpointResolution.Decimal
