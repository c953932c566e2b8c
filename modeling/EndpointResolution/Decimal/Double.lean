/-!
Double precision: the non-negative binary numbers of 53 significant bits, and the nearest one to a
fraction.
-/
namespace EndpointResolution.Decimal

/-- The number `mantissa * 2 ^ exponent`. Values come with `mantissa < 2 ^ 53` and, unless the
exponent is the least one, -1074, with `2 ^ 52 ≤ mantissa`. -/
structure Double where
  mantissa : Nat
  exponent : Int
  deriving DecidableEq, Repr, Inhabited

namespace Double

/-- The least mantissa of 53 bits. -/
def leastFull : Nat := 4503599627370496

/-- The least exponent. -/
def leastExponent : Int := -1074

/-- The greatest exponent. -/
def greatestExponent : Int := 971

/-- Zero. -/
def zero : Double := ⟨0, leastExponent⟩

/-- The numerator and denominator of `n * 2 ^ exponent`. -/
def scaled (n : Nat) (exponent : Int) : Nat × Nat :=
  (n * Nat.pow 2 exponent.toNat, Nat.pow 2 (-exponent).toNat)

/-- The value as a fraction. -/
def fraction (x : Double) : Nat × Nat :=
  scaled x.mantissa x.exponent

/-- The nearest whole number to a fraction, and of two the even one. -/
def nearest (num den : Nat) : Nat :=
  let whole := num / den
  let twice := 2 * (num % den)
  if twice < den then whole
  else if den < twice then whole + 1
  else whole + whole % 2

/-- The double at a given exponent that is nearest to a fraction. -/
def roundAt (num den : Nat) (exponent : Int) : Double :=
  let mantissa := nearest (num * Nat.pow 2 (-exponent).toNat) (den * Nat.pow 2 exponent.toNat)
  if mantissa = 2 * leastFull then ⟨leastFull, exponent + 1⟩ else ⟨mantissa, exponent⟩

/-- The exponent at which a positive fraction has 53 bits before the point, or the least one. -/
def exponentOf (num den : Nat) : Int :=
  let guess : Int := (Nat.log2 num : Int) - (Nat.log2 den : Int) - 52
  let full := den * Nat.pow 2 guess.toNat * leastFull ≤ num * Nat.pow 2 (-guess).toNat
  max leastExponent (if full then guess else guess - 1)

/-- The double nearest to a fraction, unless that is out of range. -/
def ofFraction? (num den : Nat) : Option Double :=
  if num = 0 then some zero
  else
    let x := roundAt num den (exponentOf num den)
    if x.exponent ≤ greatestExponent then some x else none

/-- The double nearest to a natural number, unless that is out of range. -/
def ofNat? (n : Nat) : Option Double :=
  ofFraction? n 1

/-- The double nearest to a power of ten, unless that is out of range. -/
def powerOfTen? (exponent : Nat) : Option Double :=
  ofNat? (Nat.pow 10 exponent)

/-- The double nearest to the product. -/
def mul? (x y : Double) : Option Double :=
  ofFraction? (x.fraction.1 * y.fraction.1) (x.fraction.2 * y.fraction.2)

/-- The double nearest to the quotient by a number other than zero. -/
def div? (x y : Double) : Option Double :=
  ofFraction? (x.fraction.1 * y.fraction.2) (x.fraction.2 * y.fraction.1)

end Double
end EndpointResolution.Decimal
