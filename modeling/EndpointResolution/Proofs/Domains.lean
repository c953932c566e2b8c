import EndpointResolution.Proofs.Numerals
import EndpointResolution.Proofs.Results
import EndpointResolution.Proofs.Texts
import EndpointResolution.Url.Domain

/-!
Domain names in their ASCII form: which characters they hold, and why the form of a text that is
ASCII already is its own form. A label in Punycode holds letters, digits and hyphens besides
characters of the label that it stands for.
-/
namespace EndpointResolution.Url

open Text (isAscii)

namespace Punycode

theorem digitValue?_digitChar {digit : Nat} (small : digit < 36) :
    digitValue? (digitChar digit) = some digit := by
  have each : ∀ digit < 36, digitValue? (digitChar digit) = some digit := by decide
  exact each digit small

theorem isAscii_of_digit {c : Char} (digit : (digitValue? c).isSome = true) :
    isAscii c = true := by
  rw [Text.isAscii_iff]
  unfold digitValue? at digit
  split at digit
  next lower =>
    have bound : c.toNat ≤ 122 := lower.2
    omega
  next =>
    split at digit
    next upper =>
      have bound : c.toNat ≤ 90 := upper.2
      omega
    next =>
      split at digit
      next decimal =>
        have bounds := Text.bounds_of_isDigit decimal
        omega
      next => cases digit

theorem mem_finish {reading : Reading} {n : Nat} (member : n ∈ reading.label) (delta : Nat) :
    n ∈ (reading.finish delta).label := by
  have among : n ∈ reading.label.take ((reading.place + delta) % (reading.label.length + 1)) ++
      reading.label.drop ((reading.place + delta) % (reading.label.length + 1)) := by
    rwa [List.take_append_drop]
  rcases List.mem_append.mp among with before | after
  · exact List.mem_append_left _ before
  · exact List.mem_append_right _ (List.mem_cons_of_mem _ after)

/-- One step reads a digit and keeps the characters that are in place. -/
theorem mem_of_step {reading next : Reading} {c : Char} (read : reading.step c = some next) :
    (digitValue? c).isSome = true ∧ ∀ n ∈ reading.label, n ∈ next.label := by
  obtain ⟨digit, value, rfl⟩ := Option.map_eq_some_iff.mp read
  refine ⟨value ▸ rfl, fun n member => ?_⟩
  simp only
  split
  · exact mem_finish member _
  · exact member

theorem mem_of_foldlM {digits : List Char} {start last : Reading}
    (read : digits.foldlM Reading.step start = some last) :
    (∀ c ∈ digits, (digitValue? c).isSome = true) ∧ ∀ n ∈ start.label, n ∈ last.label := by
  induction digits generalizing start with
  | nil =>
    obtain rfl := Option.some.inj read
    simp
  | cons c rest ih =>
    rw [List.foldlM_cons, Option.bind_eq_bind, Option.bind_eq_some_iff] at read
    obtain ⟨next, first, later⟩ := read
    obtain ⟨digit, kept⟩ := mem_of_step first
    obtain ⟨others, keptLater⟩ := ih later
    exact ⟨List.forall_mem_cons.mpr ⟨digit, others⟩, fun n member => keptLater n (kept n member)⟩

/-- The last hyphen ends the characters that stand as they are. -/
theorem mem_or_hyphen {text : List Char} {c : Char} (member : c ∈ text) :
    c ∈ (text.reverse.takeWhile (· != '-')).reverse ∨ c = '-' ∨
      c ∈ (text.take
        (text.length - (text.reverse.takeWhile (· != '-')).reverse.length)).dropLast := by
  have split : text =
      (text.reverse.dropWhile (· != '-')).reverse ++ (text.reverse.takeWhile (· != '-')).reverse := by
    rw [← List.reverse_append, List.takeWhile_append_dropWhile, List.reverse_reverse]
  have hyphen (first : Char) (rest : List Char)
      (start : text.reverse.dropWhile (· != '-') = first :: rest) : first = '-' := by
    have head := List.head_dropWhile_not (p := (· != '-')) (l := text.reverse) (by simp [start])
    simpa [start] using head
  generalize (text.reverse.takeWhile (· != '-')).reverse = digits at split ⊢
  generalize text.reverse.dropWhile (· != '-') = basic at split hyphen
  rw [split] at member ⊢
  rcases List.mem_append.mp member with before | after
  · right
    cases basic with
    | nil => simp at before
    | cons first rest =>
      obtain rfl := hyphen first rest rfl
      rw [List.length_append, Nat.add_sub_cancel, List.take_left, List.reverse_cons,
        List.dropLast_concat]
      rw [List.reverse_cons, List.mem_append, List.mem_singleton] at before
      exact before.symm
  · exact .inl after

/-- A label that is read has letters, digits and hyphens besides characters of what is read. -/
theorem mem_of_decode? {text decoded : List Char} (read : decode? text = some decoded) {c : Char}
    (member : c ∈ text) : c ∈ decoded ∨ c = '-' ∨ (digitValue? c).isSome = true := by
  have place := mem_or_hyphen member
  unfold decode? at read
  simp only at read
  split at read
  · cases read
  split at read
  · cases read
  next last each =>
    obtain ⟨digits, kept⟩ := mem_of_foldlM each
    split at read
    · cases read
    split at read
    · obtain rfl := Option.some.inj read
      rcases place with digit | hyphen | basic
      · exact .inr (.inr (digits c digit))
      · exact .inr (.inl hyphen)
      · have among := kept c.toNat (List.mem_map_of_mem basic)
        exact .inl (List.mem_map.mpr ⟨c.toNat, among, Char.ofNat_toNat c⟩)
    · cases read

theorem digit_of_mem_writeDelta {delta position bias : Nat} {c : Char}
    (member : c ∈ writeDelta delta position bias) : (digitValue? c).isSome = true := by
  have digit {n : Nat} (small : n < 36) : (digitValue? (digitChar n)).isSome = true := by
    rw [digitValue?_digitChar small]
    rfl
  fun_induction writeDelta delta position bias with
  | case1 delta position least small =>
    have bound : least ≤ 26 := threshold_le position bias
    rw [List.mem_singleton] at member
    exact member ▸ digit (by omega)
  | case2 delta position least large ih =>
    rcases List.mem_cons.mp member with rfl | later
    · have bound : least ≤ 26 := threshold_le position bias
      have below := Nat.mod_lt (delta - least) (show 36 - least > 0 by omega)
      exact digit (by omega)
    · exact ih later

theorem digit_of_mem_writePass {code base : Nat} {progress : Progress} {label : List Nat}
    {c : Char} (member : c ∈ (writePass code base progress label).1) :
    (digitValue? c).isSome = true := by
  fun_induction writePass code base progress label with
  | case1 => simp at member
  | case2 _ _ _ _ ih => exact ih member
  | case3 progress rest _ _ _ _ passed _ ih =>
    rw [passed] at ih
    rcases List.mem_append.mp member with here | later
    · exact digit_of_mem_writeDelta here
    · exact ih later
  | case4 _ _ _ _ _ ih => exact ih member

theorem digit_of_mem_writeCodes {label : List Nat} {base next : Nat} {progress : Progress}
    {codes : List Nat} {c : Char} (member : c ∈ writeCodes label base next progress codes) :
    (digitValue? c).isSome = true := by
  induction codes generalizing next progress with
  | nil => simp [writeCodes] at member
  | cons code rest ih =>
    rcases List.mem_append.mp member with here | later
    · exact digit_of_mem_writePass here
    · exact ih later

/-- What is written has letters, digits and hyphens besides characters of the label. -/
theorem mem_encode {label : List Char} {c : Char} (member : c ∈ encode label) :
    c ∈ label ∨ c = '-' ∨ (digitValue? c).isSome = true := by
  rcases List.mem_append.mp member with before | digits
  · rcases List.mem_append.mp before with basic | hyphen
    · exact .inl (List.mem_of_mem_filter basic)
    · split at hyphen
      · simp at hyphen
      · exact .inr (.inl (List.mem_singleton.mp hyphen))
  · exact .inr (.inr (digit_of_mem_writeCodes digits))

end Punycode

namespace Idna

open Text (HexTable)

theorem mapChar?_of_shifted {c : Char} {target : Nat} (beyond : isAscii c = false)
    (shift : shifted? c.toNat = some target) : mapChar? c = some [Char.ofNat target] := by
  unfold mapChar?
  simp only [beyond, shift, Bool.false_eq_true, if_false]

theorem map?_cons {c : Char} {rest start mapped : List Char} (first : mapChar? c = some start)
    (others : map? rest = some mapped) : map? (c :: rest) = some (start ++ mapped) := by
  obtain ⟨parts, each, rfl⟩ := Option.map_eq_some_iff.mp others
  simp [map?, List.mapM_cons, first, each]

theorem map?_of_ascii {text : List Char} (ascii : ∀ c ∈ text, isAscii c = true) :
    map? text = some (text.map Char.toLower) := by
  have each : text.mapM mapChar? = some (text.map fun c => [c.toLower]) := by
    rw [mapM_eq_some_iff, List.forall₂_map_right_iff, List.forall₂_same]
    exact fun c member => if_pos (ascii c member)
  rw [map?, each, Option.map_some, ← List.flatMap_def]
  exact congrArg some (List.flatMap_pure_eq_map Char.toLower text)

theorem normalize_of_ascii {text : List Char} (ascii : ∀ c ∈ text, isAscii c = true) :
    normalize text = text :=
  if_pos (List.all_eq_true.mpr ascii)

/-- The row is not about ASCII characters, or they are not written from right to left. -/
def isLeftInAscii : List Nat → Bool
  | first :: _ :: facts => 0x80 ≤ first || !([[1], [2], [3]].contains facts)
  | _ => true

-- The table is a literal, which only computes once it is spelled out in characters.
set_option maxRecDepth 100000 in
theorem exists_directions : ∃ characters, directions = HexTable.readRows none characters ∧
    (HexTable.readRows none characters).all isLeftInAscii = true :=
  ⟨_, congrArg (HexTable.readRows none)
    (String.toList_ofList : String.toList (String.ofList _) = _), by decide +kernel⟩

theorem isLeftInAscii_of_mem {row : List Nat} (among : row ∈ directions) :
    isLeftInAscii row = true := by
  obtain ⟨characters, same, each⟩ := exists_directions
  exact List.all_eq_true.mp each row (same ▸ among)

theorem facts_of_inRange? {table : HexTable} (left : ∀ row ∈ table, isLeftInAscii row = true)
    {n : Nat} (ascii : n < 0x80) {facts : List Nat} (found : table.inRange? n = some facts) :
    [[1], [2], [3]].contains facts = false := by
  obtain ⟨row, among, here⟩ := List.exists_of_findSome?_eq_some found
  have inAscii := left row among
  split at here
  next first last others =>
    obtain ⟨inside, same⟩ := Option.ite_none_right_eq_some.mp here
    rw [isLeftInAscii, Bool.or_eq_true, decide_eq_true_eq, Bool.not_eq_true'] at inAscii
    rcases inAscii with above | other
    · omega
    · rwa [Option.some.inj same] at other
  next => cases here

/-- No ASCII character is written from right to left. -/
theorem hasRightToLeft_of_ascii {label : List Char} (ascii : ∀ c ∈ label, isAscii c = true) :
    hasRightToLeft label = false := by
  refine List.any_eq_false.mpr fun c member => ?_
  have below := Text.isAscii_iff.mp (ascii c member)
  have other : ∀ facts, directions.inRange? c.toNat = some facts →
      [[1], [2], [3]].contains facts = false :=
    fun facts => facts_of_inRange? (fun row among => isLeftInAscii_of_mem among) below
  rw [direction]
  generalize directions.inRange? c.toNat = found at other
  cases found with
  | none => decide
  | some facts =>
    have here := other facts rfl
    rw [Option.map_some, Option.getD_some]
    unfold Direction.ofClass
    split
    next => cases here
    next => cases here
    next => cases here
    all_goals decide

end Idna

/-! ## The ASCII form -/

namespace Domain

open Punycode (digitValue?)
open Text (pieces joinPieces)

theorem isForbidden_of_digit {c : Char} (digit : (digitValue? c).isSome = true) :
    isForbidden c = false := by
  have each : ∀ n < 128, (digitValue? (Char.ofNat n)).isSome = true →
      isForbidden (Char.ofNat n) = false := by decide
  exact Text.of_isAscii (fun c => (digitValue? c).isSome = true → isForbidden c = false) each
    (Punycode.isAscii_of_digit digit) digit

theorem mem_of_decodeLabel? {label decoded : List Char} (read : decodeLabel? label = some decoded)
    {c : Char} (member : c ∈ label) : c ∈ decoded ∨ c = '-' ∨ (digitValue? c).isSome = true := by
  unfold decodeLabel? at read
  split at read
  next marked =>
    simp only [Option.bind_eq_bind, Option.bind_eq_some_iff, Option.pure_def,
      Option.some.injEq] at read
    obtain ⟨-, -, text, written, -, -, rfl⟩ := read
    rw [← List.take_append_drop 4 label, marked, List.mem_append] at member
    rcases member with mark | rest
    · have each : ∀ c ∈ punycodeMark, c = '-' ∨ (digitValue? c).isSome = true :=
        Text.forall_mem_of_all (by decide)
      exact .inr (each c mark)
    · exact Punycode.mem_of_decode? written rest
  next =>
    obtain rfl := Option.some.inj read
    exact .inl member

theorem mem_encodeLabel {label : List Char} {c : Char} (member : c ∈ encodeLabel label) :
    c ∈ label ∨ c = '-' ∨ (digitValue? c).isSome = true := by
  unfold encodeLabel at member
  split at member
  · exact .inl member
  · rcases List.mem_append.mp member with mark | rest
    · have each : ∀ c ∈ punycodeMark, c = '-' ∨ (digitValue? c).isSome = true :=
        Text.forall_mem_of_all (by decide)
      exact .inr (each c mark)
    · exact Punycode.mem_encode rest

/-- The parts of a text that has an ASCII form, and the form. -/
theorem toAscii?_eq_some_iff {text name : List Char} :
    toAscii? text = some name ↔ ∃ mapped decoded, Idna.map? text = some mapped ∧
      (pieces '.' (Idna.normalize mapped)).mapM decodeLabel? = some decoded ∧
      decoded.all isAllowedLabel = true ∧
      (!decoded.any Idna.hasRightToLeft || decoded.all Idna.keepsDirection) = true ∧
      joinPieces '.' ((pieces '.' (Idna.normalize mapped)).map encodeLabel) = name := by
  simp only [toAscii?, Option.bind_eq_bind, Option.bind_eq_some_iff, Option.pure_def,
    Option.some.injEq, guard_eq_some_iff, exists_const, exists_and_left]

/-- No character of an ASCII form is forbidden. -/
theorem isForbidden_of_mem {text name : List Char} (ascii : toAscii? text = some name) {c : Char}
    (member : c ∈ name) : isForbidden c = false := by
  obtain ⟨mapped, decoded, -, read, allowed, -, rfl⟩ := toAscii?_eq_some_iff.mp ascii
  have free : ∀ label ∈ decoded, ∀ c ∈ label, isForbidden c = false := by
    intro label among c inside
    have here := List.all_eq_true.mp allowed label among
    rw [isAllowedLabel, Bool.and_eq_true, Bool.not_eq_true', List.any_eq_false] at here
    simpa using here.1 c inside
  have hyphen : isForbidden '-' = false := by decide
  have each : ∀ written ∈ (pieces '.' (Idna.normalize mapped)).map encodeLabel,
      ∀ c ∈ written, isForbidden c = false := by
    intro written among c inside
    obtain ⟨label, source, rfl⟩ := List.mem_map.mp among
    obtain ⟨meaning, present, value⟩ := exists_mem_of_forall₂ (mapM_eq_some_iff.mp read) source
    rcases mem_encodeLabel inside with own | rfl | digit
    · rcases mem_of_decodeLabel? value own with here | rfl | digit
      · exact free meaning present c here
      · exact hyphen
      · exact isForbidden_of_digit digit
    · exact hyphen
    · exact isForbidden_of_digit digit
  exact Text.forall_mem_joinPieces (by decide) each c member

theorem isAscii_toLower {text : List Char} (ascii : ∀ c ∈ text, isAscii c = true) :
    ∀ c ∈ text.map Char.toLower, isAscii c = true := by
  intro c member
  obtain ⟨source, among, rfl⟩ := List.mem_map.mp member
  have each : ∀ n < 128, isAscii (Char.ofNat n).toLower = true := by decide
  exact Text.of_isAscii (fun c => isAscii c.toLower = true) each (ascii source among)

/-- The form of an ASCII text is the text in small letters. -/
theorem toAscii?_eq_some_iff_of_ascii {text name : List Char}
    (ascii : ∀ c ∈ text, isAscii c = true) :
    toAscii? text = some name ↔ text.map Char.toLower = name ∧
      ∃ decoded, (pieces '.' (text.map Char.toLower)).mapM decodeLabel? = some decoded ∧
        decoded.all isAllowedLabel = true ∧
        (!decoded.any Idna.hasRightToLeft || decoded.all Idna.keepsDirection) = true := by
  have small := isAscii_toLower ascii
  have unchanged : (pieces '.' (text.map Char.toLower)).map encodeLabel =
      pieces '.' (text.map Char.toLower) := by
    conv_rhs => rw [← List.map_id (pieces '.' (text.map Char.toLower))]
    refine List.map_congr_left fun label among => if_pos (List.all_eq_true.mpr ?_)
    exact (Text.forall_mem_pieces_iff (isAscii · = true) (by decide) _).mpr small label among
  rw [toAscii?_eq_some_iff]
  simp only [Idna.map?_of_ascii ascii, Option.some.injEq, exists_and_left, exists_eq_left',
    Idna.normalize_of_ascii small, unchanged, Text.joinPieces_pieces]
  constructor
  · rintro ⟨decoded, read, allowed, directed, same⟩
    exact ⟨same, decoded, read, allowed, directed⟩
  · rintro ⟨same, decoded, read, allowed, directed⟩
    exact ⟨decoded, read, allowed, directed, same⟩

/-- The form of an ASCII text is its own form. -/
theorem toAscii?_of_ascii {text name : List Char} (ascii : ∀ c ∈ text, isAscii c = true)
    (form : toAscii? text = some name) : toAscii? name = some name := by
  obtain ⟨rfl, rest⟩ := (toAscii?_eq_some_iff_of_ascii ascii).mp form
  have again : (text.map Char.toLower).map Char.toLower = text.map Char.toLower := by
    rw [List.map_map]
    refine List.map_congr_left fun c member => ?_
    have each : ∀ n < 128, (Char.ofNat n).toLower.toLower = (Char.ofNat n).toLower := by decide
    exact Text.of_isAscii (fun c => c.toLower.toLower = c.toLower) each (ascii c member)
  rw [toAscii?_eq_some_iff_of_ascii (isAscii_toLower ascii), again]
  exact ⟨rfl, rest⟩

/-- An ASCII text in small letters without forbidden characters and labels in Punycode is its own
form. -/
theorem toAscii?_of_plain {text : List Char}
    (plain : ∀ c ∈ text, isAscii c = true ∧ c.toLower = c ∧ isForbidden c = false)
    (unmarked : ∀ label ∈ pieces '.' text, label.take 4 ≠ punycodeMark) :
    toAscii? text = some text := by
  have ascii : ∀ c ∈ text, isAscii c = true := fun c member => (plain c member).1
  have small : text.map Char.toLower = text := by
    conv_rhs => rw [← List.map_id text]
    exact List.map_congr_left fun c member => (plain c member).2.1
  have dot : isAscii '.' = true ∧ isForbidden '.' = false := by decide
  have inLabels := (Text.forall_mem_pieces_iff
    (fun c => isAscii c = true ∧ isForbidden c = false) dot text).mpr
      fun c member => ⟨(plain c member).1, (plain c member).2.2⟩
  rw [toAscii?_eq_some_iff_of_ascii ascii, small]
  refine ⟨rfl, pieces '.' text, ?_, ?_, ?_⟩
  · rw [mapM_eq_some_iff, List.forall₂_same]
    exact fun label among => if_neg (unmarked label among)
  · refine List.all_eq_true.mpr fun label among => ?_
    have free : label.any isForbidden = false :=
      List.any_eq_false.mpr fun c member => by simp [(inLabels label among c member).2]
    have plainLabel : label.all isAscii = true :=
      List.all_eq_true.mpr fun c member => (inLabels label among c member).1
    simp [isAllowedLabel, free, plainLabel]
  · have left : (pieces '.' text).any Idna.hasRightToLeft = false := by
      refine List.any_eq_false.mpr fun label among => ?_
      rw [Idna.hasRightToLeft_of_ascii fun c member => (inLabels label among c member).1]
      decide
    simp [left]

end Domain
end EndpointResolution.Url
