import EndpointResolution.Text.Slice
import Mathlib.Algebra.Group.Nat.Defs
import Mathlib.Data.List.Basic

/-!
Cutting texts at signed positions. There is a part exactly for positions within an ASCII text, and
the part consists of the characters at these positions, counted from the end for a backward cut.
Adjacent parts make up the part from the first position to the last one. With positions in machine
words nothing overflows, and no text is cut where it has no such position.
-/
namespace EndpointResolution.Text

/-- The positions are ones of an ASCII text, the first of them below the second. -/
structure Cuttable (text : String) (start stop : Int64) : Prop where
  ascii : ∀ c ∈ text.toList, isAscii c = true
  nonneg : 0 ≤ start.toInt
  ordered : start.toInt < stop.toInt
  within : stop.toInt ≤ text.length

/-- The number of characters before the part. -/
def lowerEnd (text : String) (start stop : Int64) (backward : Bool) : Int :=
  if backward then text.length - stop.toInt else start.toInt

/-- The number of characters up to the end of the part. -/
def upperEnd (text : String) (start stop : Int64) (backward : Bool) : Int :=
  if backward then text.length - start.toInt else stop.toInt

@[simp] theorem lowerEnd_false (text : String) (start stop : Int64) :
    lowerEnd text start stop false = start.toInt := if_neg Bool.false_ne_true

@[simp] theorem lowerEnd_true (text : String) (start stop : Int64) :
    lowerEnd text start stop true = text.length - stop.toInt := if_pos rfl

@[simp] theorem upperEnd_false (text : String) (start stop : Int64) :
    upperEnd text start stop false = stop.toInt := if_neg Bool.false_ne_true

@[simp] theorem upperEnd_true (text : String) (start stop : Int64) :
    upperEnd text start stop true = text.length - start.toInt := if_pos rfl

/-- The part consists of the characters of a text from a position up to but not including another. -/
def Spans (text part : List Char) (lower upper : Int) : Prop :=
  ∃ before after, text = before ++ part ++ after ∧ before.length = lower ∧
    (before ++ part).length = upper

/-- The text from its end to its start. -/
def reversed (text : String) : String :=
  String.ofList text.toList.reverse

section

variable {text : String} {start stop : Int64} {backward : Bool}

/-- The part lies in the text, and is as long as the positions are apart. -/
theorem Cuttable.ends (inside : Cuttable text start stop) (backward : Bool) :
    0 ≤ lowerEnd text start stop backward ∧ upperEnd text start stop backward ≤ text.length ∧
      upperEnd text start stop backward =
        lowerEnd text start stop backward + (stop.toInt - start.toInt) := by
  obtain ⟨-, nonneg, ordered, within⟩ := inside
  unfold lowerEnd upperEnd
  split <;> omega

theorem slice?_of_cuttable (inside : Cuttable text start stop) (backward : Bool) :
    slice? text start stop backward = some (String.ofList
      ((text.toList.drop (lowerEnd text start stop backward).toNat).take
        (stop.toInt - start.toInt).toNat)) := by
  have ascii : text.toList.all isAscii = true := List.all_eq_true.mpr inside.ascii
  rw [slice?, if_pos]
  · rw [lowerEnd, String.length_toList]
  · rw [String.length_toList]
    simp [ascii, inside.nonneg, inside.ordered, inside.within]

theorem cuttable_of_slice? {part : String} (cut : slice? text start stop backward = some part) :
    Cuttable text start stop := by
  simp only [slice?, Bool.and_eq_true, decide_eq_true_eq, List.all_eq_true,
    String.length_toList] at cut
  split at cut
  next inside =>
    obtain ⟨⟨⟨ascii, nonneg⟩, ordered⟩, within⟩ := inside
    exact ⟨ascii, nonneg, ordered, within⟩
  next => cases cut

theorem isSome_slice?_iff :
    (slice? text start stop backward).isSome = true ↔ Cuttable text start stop := by
  constructor
  · intro some
    obtain ⟨part, cut⟩ := Option.isSome_iff_exists.mp some
    exact cuttable_of_slice? cut
  · intro inside
    rw [slice?_of_cuttable inside]
    rfl

theorem slice?_of_not_cuttable (outside : ¬ Cuttable text start stop) :
    slice? text start stop backward = none := by
  rw [← isSome_slice?_iff] at outside
  simpa using outside

theorem spans_take_drop (chars : List Char) (lower count : Nat)
    (within : lower + count ≤ chars.length) :
    Spans chars ((chars.drop lower).take count) lower (lower + count : Nat) := by
  refine ⟨chars.take lower, (chars.drop lower).drop count, ?_, ?_, ?_⟩
  · rw [List.append_assoc, List.take_append_drop, List.take_append_drop]
  · rw [List.length_take]
    omega
  · rw [List.length_append, List.length_take, List.length_take, List.length_drop]
    omega

/-- There is one part between two positions at most. -/
theorem Spans.unique {chars part other : List Char} {lower upper : Int}
    (here : Spans chars part lower upper) (there : Spans chars other lower upper) :
    part = other := by
  obtain ⟨before, after, whole, first, last⟩ := here
  obtain ⟨before', after', whole', first', last'⟩ := there
  rw [whole, List.append_assoc, List.append_assoc] at whole'
  obtain ⟨-, rest⟩ := List.append_inj whole' (by omega)
  rw [List.length_append] at last last'
  exact (List.append_inj rest (by omega)).1

theorem Cuttable.spans (inside : Cuttable text start stop) (backward : Bool) :
    Spans text.toList ((text.toList.drop (lowerEnd text start stop backward).toNat).take
      (stop.toInt - start.toInt).toNat) (lowerEnd text start stop backward)
      (upperEnd text start stop backward) := by
  obtain ⟨nonneg, within, upper⟩ := inside.ends backward
  have ordered := inside.ordered
  have size : text.toList.length = text.length := String.length_toList
  have spans := spans_take_drop text.toList (lowerEnd text start stop backward).toNat
    (stop.toInt - start.toInt).toNat (by omega)
  have first : ((lowerEnd text start stop backward).toNat : Int) =
      lowerEnd text start stop backward := by omega
  have last : ((lowerEnd text start stop backward).toNat +
      (stop.toInt - start.toInt).toNat : Nat) = upperEnd text start stop backward := by omega
  rwa [first, last] at spans

/-- A cut gives the characters between its ends. -/
theorem slice?_eq_some_iff {part : String} :
    slice? text start stop backward = some part ↔ Cuttable text start stop ∧
      Spans text.toList part.toList (lowerEnd text start stop backward)
        (upperEnd text start stop backward) := by
  constructor
  · intro cut
    have inside := cuttable_of_slice? cut
    rw [slice?_of_cuttable inside, Option.some.injEq] at cut
    rw [← cut, String.toList_ofList]
    exact ⟨inside, inside.spans backward⟩
  · rintro ⟨inside, spans⟩
    rw [slice?_of_cuttable inside, (inside.spans backward).unique spans, String.ofList_toList]

theorem toList_reversed (text : String) : (reversed text).toList = text.toList.reverse :=
  String.toList_ofList

theorem length_reversed (text : String) : (reversed text).length = text.length := by
  rw [← String.length_toList, toList_reversed, List.length_reverse, String.length_toList]

theorem cuttable_reversed_iff : Cuttable (reversed text) start stop ↔ Cuttable text start stop := by
  have ascii : (∀ c ∈ (reversed text).toList, isAscii c = true) ↔
      ∀ c ∈ text.toList, isAscii c = true := by
    simp only [toList_reversed, List.mem_reverse]
  constructor
  · rintro ⟨each, nonneg, ordered, within⟩
    exact ⟨ascii.mp each, nonneg, ordered, length_reversed text ▸ within⟩
  · rintro ⟨each, nonneg, ordered, within⟩
    exact ⟨ascii.mpr each, nonneg, ordered, (length_reversed text).symm ▸ within⟩

theorem Spans.reverse {chars part : List Char} {lower upper : Int}
    (spans : Spans chars part lower upper) :
    Spans chars.reverse part.reverse (chars.length - upper) (chars.length - lower) := by
  obtain ⟨before, after, rfl, first, last⟩ := spans
  refine ⟨after.reverse, before.reverse, ?_, ?_, ?_⟩
  · simp
  · simp only [List.length_reverse, List.length_append] at *
    omega
  · simp only [List.length_reverse, List.length_append] at *
    omega

/-- A backward cut is a forward one of the text from its end to its start. -/
theorem slice?_true (text : String) (start stop : Int64) :
    slice? text start stop true = (slice? (reversed text) start stop false).map reversed := by
  by_cases inside : Cuttable text start stop
  · have mirrored := cuttable_reversed_iff.mpr inside
    have spans := (mirrored.spans false).reverse
    rw [slice?_of_cuttable mirrored, Option.map_some, slice?_eq_some_iff, toList_reversed,
      String.toList_ofList]
    simp only [toList_reversed, List.reverse_reverse, List.length_reverse, String.length_toList,
      lowerEnd_false, upperEnd_false] at spans
    simp only [toList_reversed, lowerEnd_false, lowerEnd_true, upperEnd_true]
    exact ⟨inside, spans⟩
  · have mirrored : ¬ Cuttable (reversed text) start stop :=
      fun mirrored => inside (cuttable_reversed_iff.mp mirrored)
    rw [slice?_of_not_cuttable inside, slice?_of_not_cuttable mirrored]
    rfl

theorem Spans.append {chars part next : List Char} {lower middle upper : Int}
    (here : Spans chars part lower middle) (there : Spans chars next middle upper) :
    Spans chars (part ++ next) lower upper := by
  obtain ⟨before, after, whole, first, last⟩ := here
  obtain ⟨before', after', whole', first', last'⟩ := there
  rw [whole', List.append_assoc] at whole
  obtain ⟨rfl, -⟩ := List.append_inj whole (by omega)
  refine ⟨before, after', ?_, first, ?_⟩
  · rw [whole', List.append_assoc before]
  · rwa [← List.append_assoc]

/-- Two parts of which the second begins where the first ends make up the part from where the first
begins to where the second ends. -/
theorem slice?_of_adjacent {start' stop' first last : Int64} {part next : String}
    (here : slice? text start stop backward = some part)
    (there : slice? text start' stop' backward = some next)
    (adjacent : upperEnd text start stop backward = lowerEnd text start' stop' backward)
    (inside : Cuttable text first last)
    (lower : lowerEnd text first last backward = lowerEnd text start stop backward)
    (upper : upperEnd text first last backward = upperEnd text start' stop' backward) :
    slice? text first last backward = some (part ++ next) := by
  obtain ⟨-, spans⟩ := slice?_eq_some_iff.mp here
  obtain ⟨-, spans'⟩ := slice?_eq_some_iff.mp there
  rw [← adjacent] at spans'
  rw [slice?_eq_some_iff, lower, upper, String.toList_append]
  exact ⟨inside, spans.append spans'⟩

theorem exists_adjacent {later : Int64} (first : Cuttable text start stop)
    (second : Cuttable text stop later) :
    (∃ part next, slice? text start stop false = some part ∧
      slice? text stop later false = some next ∧
      slice? text start later false = some (part ++ next)) ∧
    ∃ part next, slice? text stop later true = some part ∧
      slice? text start stop true = some next ∧
      slice? text start later true = some (part ++ next) := by
  have whole : Cuttable text start later :=
    ⟨first.ascii, first.nonneg, Int.lt_trans first.ordered second.ordered, second.within⟩
  constructor
  · have here := slice?_of_cuttable first false
    have there := slice?_of_cuttable second false
    exact ⟨_, _, here, there, slice?_of_adjacent here there (by simp) whole (by simp) (by simp)⟩
  · have here := slice?_of_cuttable second true
    have there := slice?_of_cuttable first true
    exact ⟨_, _, here, there, slice?_of_adjacent here there (by simp) whole (by simp) (by simp)⟩

/-! ## Positions in machine words -/

/-- What may go wrong where positions are machine words. -/
inductive WordFault where
  /-- The difference of two words is no word. -/
  | overflow
  /-- A text is cut where it has no position. -/
  | outOfRange
  deriving DecidableEq, Repr

/-- The difference of two words. -/
def subWords (a b : Int64) : Except WordFault Int64 :=
  if (a - b).toInt = a.toInt - b.toInt then .ok (a - b) else .error .overflow

/-- The characters between two positions. -/
def cutWords (chars : List Char) (lower upper : UInt64) : Except WordFault (List Char) :=
  if lower.toNat ≤ upper.toNat ∧ upper.toNat ≤ chars.length then
    .ok ((chars.drop lower.toNat).take (upper.toNat - lower.toNat))
  else .error .outOfRange

/-- The ends of the part in a text with `size` characters. From the end positions are subtracted. -/
def wordEnds (size start stop : Int64) (backward : Bool) : Except WordFault (Int64 × Int64) :=
  if backward then do
    let lower ← subWords size stop
    let upper ← subWords size start
    return (lower, upper)
  else .ok (start, stop)

/-- The cut with all positions in machine words. The number of characters is taken as a signed word,
and the ends of the part are taken as unsigned ones. -/
def sliceWords (text : String) (start stop : Int64) (backward : Bool) :
    Except WordFault (Option String) :=
  let size := Int64.ofNat text.length
  if text.toList.all isAscii && 0 ≤ start && start < stop && stop ≤ size then do
    let (lower, upper) ← wordEnds size start stop backward
    let part ← cutWords text.toList lower.toUInt64 upper.toUInt64
    return some (String.ofList part)
  else .ok none

theorem toInt_ofNat_le (n : Nat) : (Int64.ofNat n).toInt ≤ n := by
  rw [Int64.toInt_ofNat', Int.bmod_def, Int64.size]
  split <;> omega

theorem subWords_of_le {a b : Int64} (nonneg : 0 ≤ b.toInt) (le : b.toInt ≤ a.toInt) :
    subWords a b = .ok (a - b) ∧ (a - b).toInt = a.toInt - b.toInt := by
  have exact := Int64.toInt_sub_of_le a b (Int64.le_iff_toInt_le.mpr nonneg)
    (Int64.le_iff_toInt_le.mpr le)
  exact ⟨if_pos exact, exact⟩

theorem toNat_toUInt64 {a : Int64} (nonneg : 0 ≤ a.toInt) : (a.toUInt64.toNat : Int) = a.toInt := by
  rw [Int64.toNat_toUInt64_of_le (Int64.le_iff_toInt_le.mpr nonneg)]
  exact Int.toNat_of_nonneg nonneg

theorem exists_wordEnds {size : Int64} (nonneg : 0 ≤ start.toInt)
    (ordered : start.toInt < stop.toInt) (within : stop.toInt ≤ size.toInt) (backward : Bool) :
    ∃ lower upper : Int64, wordEnds size start stop backward = .ok (lower, upper) ∧
      lower.toInt = (if backward then size.toInt - stop.toInt else start.toInt) ∧
      upper.toInt = lower.toInt + (stop.toInt - start.toInt) := by
  cases backward with
  | false => exact ⟨start, stop, rfl, rfl, by omega⟩
  | true =>
    obtain ⟨lower, lowerEq⟩ := subWords_of_le (by omega : 0 ≤ stop.toInt) within
    obtain ⟨upper, upperEq⟩ := subWords_of_le nonneg (by omega : start.toInt ≤ size.toInt)
    refine ⟨size - stop, size - start, ?_, lowerEq, by omega⟩
    rw [wordEnds, if_pos rfl, lower, upper]
    rfl

theorem cutWords_of_le {chars : List Char} {lower upper : Int64} (nonneg : 0 ≤ lower.toInt)
    (ordered : lower.toInt ≤ upper.toInt) (within : upper.toInt ≤ chars.length) :
    cutWords chars lower.toUInt64 upper.toUInt64 =
      .ok ((chars.drop lower.toInt.toNat).take (upper.toInt - lower.toInt).toNat) := by
  have first := toNat_toUInt64 nonneg
  have last := toNat_toUInt64 (Int.le_trans nonneg ordered)
  have start : lower.toUInt64.toNat = lower.toInt.toNat := by omega
  have count : upper.toUInt64.toNat - lower.toUInt64.toNat =
      (upper.toInt - lower.toInt).toNat := by omega
  rw [cutWords, if_pos (by omega), count, start]

/-- The comparisons of words are those of the numbers that they stand for. -/
theorem fits_iff : ((text.toList.all isAscii && 0 ≤ start && start < stop &&
      stop ≤ Int64.ofNat text.length) = true) ↔ (∀ c ∈ text.toList, isAscii c = true) ∧
      0 ≤ start.toInt ∧ start.toInt < stop.toInt ∧
      stop.toInt ≤ (Int64.ofNat text.length).toInt := by
  simp only [Bool.and_eq_true, decide_eq_true_eq, List.all_eq_true, Int64.le_iff_toInt_le,
    Int64.lt_iff_toInt_lt, and_assoc]
  rfl

/-- Machine words go wrong nowhere, whatever the positions, and make the same cut in every text with
fewer than 2^63 characters. -/
theorem exists_sliceWords (text : String) (start stop : Int64) (backward : Bool) :
    ∃ part, sliceWords text start stop backward = .ok part ∧
      (text.length < 2 ^ 63 → part = slice? text start stop backward) := by
  by_cases fits : (text.toList.all isAscii && 0 ≤ start && start < stop &&
      stop ≤ Int64.ofNat text.length) = true
  · obtain ⟨ascii, nonneg, ordered, below⟩ := fits_iff.mp fits
    have size : (Int64.ofNat text.length).toInt ≤ text.length := toInt_ofNat_le text.length
    have inside : Cuttable text start stop := ⟨ascii, nonneg, ordered, by omega⟩
    obtain ⟨lower, upper, ends, lowerEq, upperEq⟩ :=
      exists_wordEnds nonneg ordered below backward
    have first : 0 ≤ lower.toInt := by
      rw [lowerEq]
      split <;> omega
    have last : upper.toInt ≤ text.toList.length := by
      rw [upperEq, lowerEq, String.length_toList]
      split <;> omega
    have part := cutWords_of_le first (by omega) last
    refine ⟨some (String.ofList ((text.toList.drop lower.toInt.toNat).take
      (upper.toInt - lower.toInt).toNat)), ?_, ?_⟩
    · rw [sliceWords, if_pos fits, ends]
      simp only [bind, Except.bind, part]
      rfl
    intro small
    have exact : (Int64.ofNat text.length).toInt = text.length := Int64.toInt_ofNat_of_lt small
    have before : lower.toInt = lowerEnd text start stop backward := by
      rw [lowerEq, lowerEnd, exact]
    have count : upper.toInt - lower.toInt = stop.toInt - start.toInt := by omega
    rw [slice?_of_cuttable inside, count, before]
  · refine ⟨none, by rw [sliceWords, if_neg fits], ?_⟩
    intro small
    have exact : (Int64.ofNat text.length).toInt = text.length := Int64.toInt_ofNat_of_lt small
    have outside : ¬ Cuttable text start stop := by
      rintro ⟨ascii, nonneg, ordered, within⟩
      exact fits (fits_iff.mpr ⟨ascii, nonneg, ordered, by omega⟩)
    exact (slice?_of_not_cuttable outside).symm

end

/-- There is a part exactly for positions within an ASCII text, and it consists of the characters
between its ends. A backward cut is a forward one of the text from its end to its start, adjacent
parts make up a part, and machine words go wrong for no positions. -/
theorem slice?_exact (text : String) (start stop : Int64) :
    (∀ backward, (slice? text start stop backward).isSome = true ↔
      (∀ c ∈ text.toList, isAscii c = true) ∧ 0 ≤ start.toInt ∧ start.toInt < stop.toInt ∧
        stop.toInt ≤ text.length) ∧
    (∀ part, slice? text start stop false = some part →
      Spans text.toList part.toList start.toInt stop.toInt) ∧
    (∀ part, slice? text start stop true = some part →
      Spans text.toList part.toList (text.length - stop.toInt) (text.length - start.toInt)) ∧
    slice? text start stop true = (slice? (reversed text) start stop false).map reversed ∧
    (∀ backward, ∃ part, sliceWords text start stop backward = .ok part ∧
      (text.length < 2 ^ 63 → part = slice? text start stop backward)) ∧
    ∀ later : Int64, Cuttable text start stop → Cuttable text stop later →
      (∃ part next, slice? text start stop false = some part ∧
        slice? text stop later false = some next ∧
        slice? text start later false = some (part ++ next)) ∧
      ∃ part next, slice? text stop later true = some part ∧
        slice? text start stop true = some next ∧
        slice? text start later true = some (part ++ next) := by
  refine ⟨?_, ?_, ?_, slice?_true text start stop, exists_sliceWords text start stop, ?_⟩
  · intro backward
    rw [isSome_slice?_iff]
    exact ⟨fun ⟨ascii, nonneg, ordered, within⟩ => ⟨ascii, nonneg, ordered, within⟩,
      fun ⟨ascii, nonneg, ordered, within⟩ => ⟨ascii, nonneg, ordered, within⟩⟩
  · intro part cut
    have spans := (slice?_eq_some_iff.mp cut).2
    rwa [lowerEnd_false, upperEnd_false] at spans
  · intro part cut
    have spans := (slice?_eq_some_iff.mp cut).2
    rwa [lowerEnd_true, upperEnd_true] at spans
  · intro later first second
    exact exists_adjacent first second

/-- The ends of the range of 64 bits are no positions, and the positions of a text are. -/
example : sliceWords "us-east-1" (-9223372036854775808) 9223372036854775807 true = .ok none ∧
    sliceWords "us-east-1" 0 2 true = .ok (some "-1") := by
  decide

end EndpointResolution.Text
