import EndpointResolution.Proofs.Numerals
import EndpointResolution.Proofs.Results
import EndpointResolution.Proofs.Texts
import EndpointResolution.Url.Ipv4
import Mathlib.Algebra.Group.Nat.Defs
import Mathlib.Data.List.Induction

/-!
IPv4 addresses. Whatever the written form, what is read is a number of 32 bits, and the form with
four decimal bytes is read as the number that it is written for.
-/
namespace EndpointResolution.Url.Ipv4

theorem ofDigits_concat (base : Nat) (digits : List Nat) (digit : Nat) :
    ofDigits base (digits ++ [digit]) = base * ofDigits base digits + digit := by
  simp [ofDigits]

theorem ofDigits_lt {base : Nat} {digits : List Nat} (each : ∀ digit ∈ digits, digit < base) :
    ofDigits base digits < base ^ digits.length := by
  induction digits using List.reverseRecOn with
  | nil => simp [ofDigits]
  | append_singleton digits digit ih =>
    obtain ⟨earlier, last⟩ := List.forall_mem_append.mp each
    have below : digit < base := last digit (List.mem_singleton.mpr rfl)
    have bound : ofDigits base digits + 1 ≤ base ^ digits.length := ih earlier
    rw [ofDigits_concat, List.length_append, List.length_singleton, Nat.pow_succ, Nat.mul_comm _ base]
    calc base * ofDigits base digits + digit
        < base * (ofDigits base digits + 1) := by rw [Nat.mul_succ]; omega
      _ ≤ base * base ^ digits.length := Nat.mul_le_mul_left base bound

/-- The digits of a number in a base have its value. -/
theorem exists_digitsBelow? {base : Nat} (least : 1 < base) (most : base ≤ 16) (n : Nat) :
    ∃ digits, digitsBelow? base (Nat.toDigits base n) = some digits ∧ ofDigits base digits = n := by
  have digit {n : Nat} (small : n < base) :
      (Text.hexValue? n.digitChar).filter (· < base) = some n := by
    simp [Text.hexValue?_digitChar (by omega : n < 16), small]
  induction n using Nat.strongRecOn with
  | _ n ih =>
    rw [Nat.toDigits_eq_if least]
    split
    next small => exact ⟨[n], mapM_eq_some_iff.mpr (.cons (digit small) .nil), by simp [ofDigits]⟩
    next large =>
      have smaller : n / base < n := Nat.div_lt_self (by omega) least
      obtain ⟨digits, values, value⟩ := ih (n / base) smaller
      have last : n % base < base := Nat.mod_lt n (by omega)
      refine ⟨digits ++ [n % base], mapM_eq_some_iff.mpr ?_, ?_⟩
      · exact List.rel_append (mapM_eq_some_iff.mp values) (.cons (digit last) .nil)
      · rw [ofDigits_concat, value, Nat.div_add_mod]

/-- An address is read exactly from up to four numbers of which the last one fits in the bytes that
the others leave, and the others in a byte each. -/
theorem parse_eq_some_iff {text : List Char} {address : Nat} :
    parse text = some address ↔ ∃ leading last,
      (dotted text).mapM readNumber = some (leading ++ [last]) ∧ leading.length ≤ 3 ∧
        (∀ number ∈ leading, number < 256) ∧ last < 256 ^ (4 - leading.length) ∧
        address = ofDigits 256 leading * 256 ^ (4 - leading.length) + last := by
  simp only [parse, Option.bind_eq_bind, Option.bind_eq_some_iff, Option.pure_def,
    Option.some.injEq, guard_eq_some_iff, exists_const, Nat.pow_eq]
  constructor
  · rintro ⟨few, numbers, read, last, ending, small, value⟩
    obtain ⟨leading, rfl⟩ := List.getLast?_eq_some_iff.mp ending
    have count := (mapM_eq_some_iff.mp read).length_eq
    simp only [List.dropLast_concat, Bool.and_eq_true, List.all_eq_true, decide_eq_true_eq,
      List.length_append, List.length_singleton] at small value count
    exact ⟨leading, last, read, by omega, small.1, small.2, value.symm⟩
  · rintro ⟨leading, last, read, few, each, fits, value⟩
    have count := (mapM_eq_some_iff.mp read).length_eq
    rw [List.length_append, List.length_singleton] at count
    refine ⟨by omega, _, read, last, by simp, ?_, ?_⟩
    · simpa using ⟨each, fits⟩
    · rw [List.dropLast_concat, value]

/-- What is read is a number of 32 bits. -/
theorem lt_of_parse {text : List Char} {address : Nat} (accepted : parse text = some address) :
    address < 256 ^ 4 := by
  obtain ⟨leading, last, -, few, each, fits, rfl⟩ := parse_eq_some_iff.mp accepted
  have below : ofDigits 256 leading + 1 ≤ 256 ^ leading.length := ofDigits_lt each
  have room : 256 ^ leading.length * 256 ^ (4 - leading.length) = 256 ^ 4 := by
    rw [← Nat.pow_add, Nat.add_sub_of_le (by omega)]
  calc ofDigits 256 leading * 256 ^ (4 - leading.length) + last
      < (ofDigits 256 leading + 1) * 256 ^ (4 - leading.length) := by rw [Nat.succ_mul]; omega
    _ ≤ 256 ^ leading.length * 256 ^ (4 - leading.length) := Nat.mul_le_mul_right _ below
    _ = 256 ^ 4 := room

theorem readNumber_writeDigits (n : Nat) : readNumber (Text.writeDigits n) = some n := by
  obtain ⟨digits, values, value⟩ := exists_digitsBelow? (by decide) (by decide : 10 ≤ 16) n
  unfold readNumber
  split
  next empty => exact absurd empty Nat.toDigits_ne_nil
  next rest padded => exact absurd padded (Text.writeDigits_ne_padded n 'x' rest)
  next rest padded => exact absurd padded (Text.writeDigits_ne_padded n 'X' rest)
  next c rest _ _ padded => exact absurd padded (Text.writeDigits_ne_padded n c rest)
  next =>
    rw [Text.writeDigits, values, Option.map_some, value]

theorem isDigit_of_mem_writeDigits {n : Nat} {c : Char} (member : c ∈ Text.writeDigits n) :
    c.isDigit = true :=
  Nat.isDigit_of_mem_toDigits (by decide) (by decide) member

/-- The bytes of an address, the most significant one first. -/
def bytes (address : Nat) : List Nat :=
  [address / 16777216, address / 65536 % 256, address / 256 % 256, address % 256]

theorem display_eq (address : Nat) :
    display address = Text.joinPieces '.' ((bytes address).map Text.writeDigits) := rfl

theorem dotted_display (address : Nat) :
    dotted (display address) = (bytes address).map Text.writeDigits := by
  have cut : Text.pieces '.' (display address) = (bytes address).map Text.writeDigits := by
    rw [display_eq]
    refine Text.pieces_joinPieces (by simp [bytes]) ?_
    intro part among member
    obtain ⟨byte, -, rfl⟩ := List.mem_map.mp among
    have digit := isDigit_of_mem_writeDigits member
    cases digit
  have last : ((bytes address).map Text.writeDigits).getLast? ≠ some [] := by
    simp [bytes, Text.writeDigits, Nat.toDigits_ne_nil]
  rw [dotted, cut, if_neg last]

/-- The form with four decimal bytes is read as the address. -/
theorem parse_display {address : Nat} (small : address < 256 ^ 4) :
    parse (display address) = some address := by
  have each : ∀ byte ∈ bytes address, byte < 256 := by
    simp only [bytes, List.forall_mem_cons, List.not_mem_nil, false_implies, implies_true, and_true]
    omega
  have read : ((bytes address).map Text.writeDigits).mapM readNumber = some (bytes address) := by
    rw [mapM_eq_some_iff, List.forall₂_map_left_iff, List.forall₂_same]
    exact fun byte _ => readNumber_writeDigits byte
  rw [parse_eq_some_iff, dotted_display]
  refine ⟨(bytes address).dropLast, address % 256, read, ?_, ?_, ?_, ?_⟩
  · simp [bytes]
  · exact fun byte member => each byte (List.dropLast_subset _ member)
  · simp only [bytes, List.dropLast, List.length_cons, List.length_nil]
    omega
  · simp only [bytes, List.dropLast, List.length_cons, List.length_nil, ofDigits, List.foldl]
    omega

/-- The text of an address is made of digits and dots. -/
theorem isDigit_of_mem_display {address : Nat} {c : Char} (member : c ∈ display address) :
    c.isDigit = true ∨ c = '.' := by
  have each : ∀ part ∈ (bytes address).map Text.writeDigits,
      ∀ c ∈ part, c.isDigit = true ∨ c = '.' := by
    intro part among c inside
    obtain ⟨byte, -, rfl⟩ := List.mem_map.mp among
    exact .inl (isDigit_of_mem_writeDigits inside)
  exact Text.forall_mem_joinPieces (Or.inr rfl) each c member

/-- The text of an address ends in a number, so that it is read as an address. -/
theorem endsInNumber_display (address : Nat) : endsInNumber (display address) = true := by
  have last : ((bytes address).map Text.writeDigits).getLast? =
      some (Text.writeDigits (address % 256)) := rfl
  have digits : (Text.writeDigits (address % 256)).all Char.isDigit = true :=
    List.all_eq_true.mpr fun c member => isDigit_of_mem_writeDigits member
  have nonempty : (Text.writeDigits (address % 256)).isEmpty = false := by
    simp [Text.writeDigits, Nat.toDigits_ne_nil]
  simp [endsInNumber, dotted_display, last, digits, nonempty]

theorem display_ne_nil (address : Nat) : display address ≠ [] := by
  intro empty
  have number := endsInNumber_display address
  rw [empty] at number
  exact absurd number (by decide)

end EndpointResolution.Url.Ipv4
