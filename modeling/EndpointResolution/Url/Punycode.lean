/-!
Labels with characters other than ASCII written in ASCII: the ASCII characters of a label, and after
a hyphen where each of the others goes, as differences in a notation of base 36.
-/
namespace EndpointResolution.Url.Punycode

/-- The character of a digit below 36: letters and then decimal digits. -/
def digitChar (digit : Nat) : Char :=
  if digit < 26 then Char.ofNat ('a'.toNat + digit) else Char.ofNat ('0'.toNat + (digit - 26))

/-- The value of a digit of either case. -/
def digitValue? (c : Char) : Option Nat :=
  if 'a' ≤ c ∧ c ≤ 'z' then some (c.toNat - 'a'.toNat)
  else if 'A' ≤ c ∧ c ≤ 'Z' then some (c.toNat - 'A'.toNat)
  else if c.isDigit then some (c.toNat - '0'.toNat + 26)
  else none

/-- The least digit that does not end a number, at a position counted in steps of 36. -/
def threshold (position bias : Nat) : Nat :=
  max 1 (min 26 (position - bias))

theorem one_le_threshold (position bias : Nat) : 1 ≤ threshold position bias := by
  unfold threshold
  omega

theorem threshold_le (position bias : Nat) : threshold position bias ≤ 26 := by
  unfold threshold
  omega

/-- Scales a difference down, and counts the steps by 36. -/
def scaleDown (delta steps : Nat) : Nat × Nat :=
  if 455 < delta then scaleDown (delta / 35) (steps + 36) else (delta, steps)
termination_by delta

/-- The bias for the difference after one that was written with `count` characters in place. -/
def adapt (delta count : Nat) (isFirst : Bool) : Nat :=
  let start := if isFirst then delta / 700 else delta / 2
  let (rest, steps) := scaleDown (start + start / count) 0
  steps + 36 * rest / (rest + 38)

/-- The digits of a difference, from a position on. -/
def writeDelta (delta position bias : Nat) : List Char :=
  let least := threshold position bias
  if delta < least then [digitChar delta]
  else
    digitChar (least + (delta - least) % (36 - least))
      :: writeDelta ((delta - least) / (36 - least)) (position + 36) bias
termination_by delta
decreasing_by
  have positive := one_le_threshold position bias
  have bound := threshold_le position bias
  have smaller := Nat.div_le_self (delta - threshold position bias) (36 - threshold position bias)
  omega

/-- How far writing has come: the characters in place, the difference since the last one written,
and the bias. -/
structure Progress where
  placed : Nat
  delta : Nat
  bias : Nat

/-- Writes every occurrence of a code point in a label, going through the label once. -/
def writePass (code base : Nat) (progress : Progress) : List Nat → List Char × Progress
  | [] => ([], progress)
  | n :: rest =>
    if n < code then
      writePass code base { progress with delta := progress.delta + 1 } rest
    else if n = code then
      let digits := writeDelta progress.delta 36 progress.bias
      let bias := adapt progress.delta (progress.placed + 1) (progress.placed == base)
      let (more, last) := writePass code base ⟨progress.placed + 1, 0, bias⟩ rest
      (digits ++ more, last)
    else writePass code base progress rest

/-- Writes the occurrences of ascending code points, the least of which is at least `next`. -/
def writeCodes (label : List Nat) (base next : Nat) (progress : Progress) : List Nat → List Char
  | [] => []
  | code :: rest =>
    let delta := progress.delta + (code - next) * (progress.placed + 1)
    let (digits, after) := writePass code base { progress with delta := delta } label
    digits ++ writeCodes label base (code + 1) { after with delta := after.delta + 1 } rest

/-- A list of numbers without repetitions, in ascending order. -/
def ascending (numbers : List Nat) : List Nat :=
  (numbers.mergeSort (· ≤ ·)).eraseDups

/-- The written form of a label. -/
def encode (label : List Char) : List Char :=
  let basic := label.filter fun c => decide (c.toNat < 0x80)
  let codes := ascending ((label.map Char.toNat).filter fun n => decide (0x80 ≤ n))
  let start := ⟨basic.length, 0, 72⟩
  basic ++ (if basic.isEmpty then [] else ['-'])
    ++ writeCodes (label.map Char.toNat) basic.length 0x80 start codes

/-- How far reading has come: the label so far, the code point and the position at which it was
placed last, and of the current difference the value so far, the weight of its next digit and that
digit's position. -/
structure Reading where
  label : List Nat
  code : Nat
  place : Nat
  delta : Nat
  weight : Nat
  position : Nat
  bias : Nat
  isFirst : Bool

/-- Places the code point of a complete difference. -/
def Reading.finish (reading : Reading) (delta : Nat) : Reading :=
  let count := reading.label.length + 1
  let total := reading.place + delta
  let code := reading.code + total / count
  let place := total % count
  { label := reading.label.take place ++ code :: reading.label.drop place
    code := code
    place := place + 1
    delta := 0
    weight := 1
    position := 36
    bias := adapt delta count reading.isFirst
    isFirst := false }

/-- Reads one digit. -/
def Reading.step (reading : Reading) (c : Char) : Option Reading :=
  (digitValue? c).map fun digit =>
    let delta := reading.delta + digit * reading.weight
    let least := threshold reading.position reading.bias
    if digit < least then reading.finish delta
    else { reading with
      delta := delta
      weight := reading.weight * (36 - least)
      position := reading.position + 36 }

/-- The label of a written form: the last hyphen ends the characters that stand as they are, which
are ASCII. Without such characters there is no hyphen. -/
def decode? (text : List Char) : Option (List Char) :=
  let digits := (text.reverse.takeWhile (· != '-')).reverse
  let basic := text.take (text.length - digits.length)
  let start : Reading := ⟨basic.dropLast.map Char.toNat, 0x80, 0, 0, 1, 36, 72, true⟩
  if basic.length = 1 || basic.any (0x80 ≤ ·.toNat) then none
  else match digits.foldlM Reading.step start with
    | none => none
    | some reading =>
      if reading.position ≠ 36 then none
      else if reading.label.all fun n => decide n.isValidChar then
        some (reading.label.map Char.ofNat)
      else none

end EndpointResolution.Url.Punycode
