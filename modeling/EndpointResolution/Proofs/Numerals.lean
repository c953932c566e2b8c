import EndpointResolution.Text.Numeral
import Mathlib.Data.List.Basic

/-!
Decimal numerals. A 64-bit number has several numerals, with a plus sign and with zeros in front,
and is written as the shortest of them.
-/
namespace EndpointResolution.Text

/-- The text is a numeral of a 64-bit number: decimal digits after an optional plus sign. -/
def WordText (text : List Char) (word : UInt64) : Prop :=
  ∃ digits, (text = digits ∨ text = '+' :: digits) ∧ digits ≠ [] ∧
    (∀ c ∈ digits, c.isDigit = true) ∧ Nat.ofDigitChars 10 digits 0 = word.toNat

theorem readDigits_eq_some_iff {text : List Char} {n : Nat} :
    readDigits text = some n ↔
      text ≠ [] ∧ (∀ c ∈ text, c.isDigit = true) ∧ Nat.ofDigitChars 10 text 0 = n := by
  unfold readDigits
  split
  next refused =>
    simp only [Bool.or_eq_true, List.isEmpty_iff, Bool.not_eq_true', List.all_eq_false] at refused
    simp only [reduceCtorEq, false_iff, not_and]
    intro nonempty digits
    obtain empty | ⟨c, member, other⟩ := refused
    · exact absurd empty nonempty
    · exact absurd (digits c member) other
  next accepted =>
    simp only [Bool.or_eq_true, not_or, List.isEmpty_iff, Bool.not_eq_true', Bool.not_eq_false,
      List.all_eq_true] at accepted
    simp only [Option.some.injEq]
    exact ⟨fun same => ⟨accepted.1, accepted.2, same⟩, fun numeral => numeral.2.2⟩

theorem WordText.not_mem {text : List Char} {word : UInt64} (numeral : WordText text word)
    {c : Char} (plus : c ≠ '+') (other : c.isDigit = false) : c ∉ text := by
  obtain ⟨digits, rfl | rfl, -, each, -⟩ := numeral
  · intro member
    simp [each c member] at other
  · intro member
    rcases List.mem_cons.mp member with same | member
    · exact plus same
    · simp [each c member] at other

/-- What follows the sign, if there is one. -/
def unsigned (text : List Char) : List Char :=
  match text with
  | '+' :: rest => rest
  | _ => text

theorem readWord_eq (text : List Char) : readWord text = match readDigits (unsigned text) with
    | none => none
    | some n => if n < UInt64.size then some (UInt64.ofNat n) else none := rfl

/-- A sign is no digit, so that a text has one reading at most. -/
theorem unsigned_eq_iff {text digits : List Char} (each : ∀ c ∈ digits, c.isDigit = true) :
    unsigned text = digits ↔ text = digits ∨ text = '+' :: digits := by
  unfold unsigned
  split
  next rest =>
    constructor
    · exact fun same => .inr (by rw [same])
    · rintro (rfl | same)
      · exact absurd (each '+' List.mem_cons_self) (by decide)
      · exact (List.cons.inj same).2
  next other =>
    constructor
    · exact fun same => .inl same
    · rintro (same | same)
      · exact same
      · exact absurd same (other digits)

theorem readWord_eq_some_iff {text : List Char} {word : UInt64} :
    readWord text = some word ↔ WordText text word := by
  rw [readWord_eq]
  constructor
  · intro accepted
    split at accepted
    · cases accepted
    next n found =>
      obtain ⟨nonempty, each, value⟩ := readDigits_eq_some_iff.mp found
      split at accepted
      next small =>
        refine ⟨_, (unsigned_eq_iff each).mp rfl, nonempty, each, ?_⟩
        rw [value, ← Option.some.inj accepted, UInt64.toNat_ofNat_of_lt' small]
      · cases accepted
  · rintro ⟨digits, spelled, nonempty, each, value⟩
    rw [(unsigned_eq_iff each).mpr spelled, readDigits_eq_some_iff.mpr ⟨nonempty, each, value⟩]
    simp [word.toNat_lt_size]

theorem isDigit_iff {c : Char} : c.isDigit = true ↔ 48 ≤ c.toNat ∧ c.toNat ≤ 57 := by
  simp [Char.isDigit, UInt32.le_iff_toNat_le]

theorem bounds_of_isDigit {c : Char} (digit : c.isDigit = true) : 48 ≤ c.toNat ∧ c.toNat ≤ 57 :=
  isDigit_iff.mp digit

theorem toDigits_of_isDigit {c : Char} (digit : c.isDigit = true) :
    Nat.toDigits 10 (c.toNat - '0'.toNat) = [c] := by
  change Nat.toDigits 10 (c.toNat - 48) = [c]
  have bounds := bounds_of_isDigit digit
  have same : (c.toNat - 48).digitChar = c := by
    apply Char.toNat_inj.mp
    rw [Nat.toNat_digitChar_of_lt_ten (by omega)]
    omega
  rw [Nat.toDigits_of_lt_base (by omega), same]

/-- Further digits are appended to those of a number other than zero. -/
theorem toDigits_ofDigitChars {digits : List Char} (each : ∀ c ∈ digits, c.isDigit = true)
    {n : Nat} (positive : 0 < n) :
    Nat.toDigits 10 (Nat.ofDigitChars 10 digits n) = Nat.toDigits 10 n ++ digits := by
  induction digits generalizing n with
  | nil => simp [Nat.ofDigitChars]
  | cons c rest ih =>
    obtain ⟨digit, others⟩ := List.forall_mem_cons.mp each
    have small : c.toNat - '0'.toNat < 10 := by
      have bounds := bounds_of_isDigit digit
      change c.toNat - 48 < 10
      omega
    rw [Nat.ofDigitChars_cons, ih others (by omega),
      ← Nat.toDigits_append_toDigits (by omega) positive small, toDigits_of_isDigit digit,
      List.append_assoc, List.singleton_append]

/-- Digits are written as they are read, unless there is a zero in front of others. -/
theorem writeDigits_ofDigitChars {digits : List Char} (nonempty : digits ≠ [])
    (each : ∀ c ∈ digits, c.isDigit = true) (short : ∀ c rest, digits ≠ '0' :: c :: rest) :
    writeDigits (Nat.ofDigitChars 10 digits 0) = digits := by
  obtain ⟨first, rest, rfl⟩ := List.exists_cons_of_ne_nil nonempty
  obtain ⟨digit, others⟩ := List.forall_mem_cons.mp each
  rw [writeDigits, Nat.ofDigitChars_cons, Nat.mul_zero, Nat.zero_add]
  cases rest with
  | nil => exact toDigits_of_isDigit digit
  | cons next more =>
    have positive : 0 < first.toNat - '0'.toNat := by
      by_contra zero
      have written := toDigits_of_isDigit digit
      rw [Nat.eq_zero_of_not_pos zero] at written
      exact short next more (by rw [← (List.cons.inj written).1]; rfl)
    rw [toDigits_ofDigitChars others positive, toDigits_of_isDigit digit, List.singleton_append]

theorem toDigits_ne_zero_cons {n : Nat} (positive : 0 < n) (rest : List Char) :
    Nat.toDigits 10 n ≠ '0' :: rest := by
  induction n using Nat.strongRecOn generalizing rest with
  | _ n ih =>
    rw [Nat.toDigits_eq_if (by omega)]
    split
    next small =>
      intro same
      have value := congrArg Char.toNat (List.cons.inj same).1
      rw [Nat.toNat_digitChar_of_lt_ten small] at value
      change 48 + n = 48 at value
      omega
    next large =>
      obtain ⟨first, others, split⟩ := List.exists_cons_of_ne_nil
        (Nat.toDigits_ne_nil (b := 10) (n := n / 10))
      rw [split, List.cons_append]
      intro same
      obtain ⟨rfl, -⟩ := List.cons.inj same
      exact ih (n / 10) (by omega) (by omega) others split

/-- There is no zero in front of other digits. -/
theorem writeDigits_ne_padded (n : Nat) (c : Char) (rest : List Char) :
    writeDigits n ≠ '0' :: c :: rest := by
  intro padded
  cases n with
  | zero => cases padded
  | succ n => exact toDigits_ne_zero_cons n.succ_pos _ padded

theorem readDigits_writeDigits (n : Nat) : readDigits (writeDigits n) = some n :=
  readDigits_eq_some_iff.mpr ⟨Nat.toDigits_ne_nil,
    fun _ member => Nat.isDigit_of_mem_toDigits (by decide) (by decide) member,
    Nat.ofDigitChars_ten_toDigits⟩

theorem wordText_writeDigits (word : UInt64) : WordText (writeDigits word.toNat) word :=
  ⟨_, .inl rfl, Nat.toDigits_ne_nil, fun _ member =>
    Nat.isDigit_of_mem_toDigits (by decide) (by decide) member, Nat.ofDigitChars_ten_toDigits⟩

/-- A numeral without a sign and without a zero in front of other digits is what is written. -/
theorem WordText.eq_writeDigits {text : List Char} {word : UInt64} (numeral : WordText text word)
    (unsigned : '+' ∉ text) (short : ∀ c rest, c.isDigit = true → text ≠ '0' :: c :: rest) :
    text = writeDigits word.toNat := by
  obtain ⟨digits, rfl | rfl, nonempty, each, value⟩ := numeral
  · rw [← value, writeDigits_ofDigitChars nonempty each]
    rintro c rest rfl
    exact short c rest (each c (by simp)) rfl
  · simp at unsigned

theorem bounds_of_hexValue? {c : Char} {digit : Nat} (value : hexValue? c = some digit) :
    digit < 16 ∧ c.toNat < 128 := by
  unfold hexValue? at value
  split at value
  next decimal =>
    have bounds := bounds_of_isDigit decimal
    have same : c.toNat - 48 = digit := Option.some.inj value
    omega
  next =>
    split at value
    next lower =>
      have bounds : 97 ≤ c.toNat ∧ c.toNat ≤ 102 := lower
      have same : c.toNat - 97 + 10 = digit := Option.some.inj value
      omega
    next =>
      split at value
      next upper =>
        have bounds : 65 ≤ c.toNat ∧ c.toNat ≤ 70 := upper
        have same : c.toNat - 65 + 10 = digit := Option.some.inj value
        omega
      next => cases value

theorem hexValue?_digitChar {digit : Nat} (small : digit < 16) :
    hexValue? digit.digitChar = some digit := by
  have each : ∀ digit < 16, hexValue? digit.digitChar = some digit := by decide
  exact each digit small

end EndpointResolution.Text
