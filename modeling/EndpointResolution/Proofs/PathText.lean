import EndpointResolution.Path
import EndpointResolution.Proofs.Numerals
import EndpointResolution.Proofs.Results
import EndpointResolution.Proofs.Texts
import Mathlib.Data.List.Forall2

/-!
The texts of paths. The reader accepts exactly the grammar: segments with dots between them, each a
name, indexes in brackets, or a name before indexes. What is written for a path is one of the texts
that are read as it, and the only one that spells nothing out that could be left out.
-/
namespace EndpointResolution

namespace Text

/-- Every piece but the first comes after a separator. -/
theorem intercalate_cons_eq (sep : Char) (piece : List Char) (pieces : List (List Char)) :
    [sep].intercalate (piece :: pieces) = piece ++ pieces.flatMap (sep :: ·) := by
  induction pieces generalizing piece with
  | nil => simp
  | cons next rest ih =>
    rw [List.intercalate_cons_cons, ih, List.flatMap_cons]
    simp

end Text

namespace Path

/-- The text is a run of indexes, each a numeral in brackets. -/
inductive IndexesText : List Char → Path → Prop
  | none : IndexesText [] []
  | more {index rest : List Char} {position : UInt64} {steps : Path}
      (numeral : Text.WordText index position) (others : IndexesText rest steps) :
      IndexesText ('[' :: (index ++ ']' :: rest)) (.index position :: steps)

/-- The text is a segment: indexes, or a name and the indexes after it. -/
inductive SegmentText : List Char → Path → Prop
  | unnamed {text : List Char} {steps : Path} (nonempty : text ≠ [])
      (indexes : IndexesText text steps) : SegmentText text steps
  | named {name text : List Char} {steps : Path} (isName : isName name = true)
      (indexes : IndexesText text steps) :
      SegmentText (name ++ text) (.field (String.ofList name) :: steps)

/-- The text is one of the path: segments with dots between them, which hold its steps in order. -/
def PathText (text : List Char) (path : Path) : Prop :=
  ∃ parts, List.Forall₂ SegmentText (text.splitOn '.') parts ∧ path = parts.flatten

/-! ## Reading -/

/-- An index is read up to the bracket that closes it. -/
theorem readIndexes_closing {before index : List Char} {position : UInt64} (opened : ']' ∉ index)
    (numeral : Text.WordText (before ++ index) position) (rest : List Char) :
    readIndexes (some before) (index ++ ']' :: rest) =
      (readIndexes none rest).map (.index position :: ·) := by
  induction index generalizing before with
  | nil =>
    rw [List.append_nil] at numeral
    rw [List.nil_append, readIndexes, Text.readWord_eq_some_iff.mpr numeral]
  | cons c others ih =>
    have other : c ≠ ']' := fun same => opened (by simp [same])
    have later : ']' ∉ others := fun member => opened (List.mem_cons_of_mem c member)
    rw [List.append_cons] at numeral
    rw [List.cons_append, readIndexes]
    · exact ih later numeral
    · exact other

theorem readIndexes_of_text {text : List Char} {steps : Path} (indexes : IndexesText text steps) :
    readIndexes none text = .ok steps := by
  induction indexes with
  | none => rfl
  | @more index _ position _ numeral others ih =>
    have opened : ']' ∉ index := numeral.not_mem (by decide) (by decide)
    have whole : Text.WordText ([] ++ index) position := numeral
    rw [readIndexes, readIndexes_closing opened whole, ih]
    rfl

/-- The text is what the reader has before it: indexes, after the rest of the one that is open if
one is. -/
def RemainderText : Option (List Char) → List Char → Path → Prop
  | none, text, steps => IndexesText text steps
  | some before, text, steps => ∃ index rest position others, text = index ++ ']' :: rest ∧
    Text.WordText (before ++ index) position ∧ IndexesText rest others ∧
    steps = .index position :: others

theorem text_of_readIndexes {opened : Option (List Char)} {text : List Char} {steps : Path}
    (accepted : readIndexes opened text = .ok steps) : RemainderText opened text steps := by
  fun_induction readIndexes opened text generalizing steps with
  | case1 =>
    cases accepted
    exact .none
  | case2 rest ih =>
    obtain ⟨index, after, position, others, rfl, numeral, indexes, rfl⟩ := ih accepted
    exact .more numeral indexes
  | case3 => cases accepted
  | case4 => cases accepted
  | case5 => cases accepted
  | case6 before rest position found ih =>
    obtain ⟨others, further, rfl⟩ := exists_of_map_eq_ok accepted
    refine ⟨[], rest, position, others, rfl, ?_, ih further, rfl⟩
    rw [List.append_nil]
    exact Text.readWord_eq_some_iff.mp found
  | case7 before c rest other ih =>
    obtain ⟨index, after, position, others, rfl, numeral, indexes, rfl⟩ := ih accepted
    refine ⟨c :: index, after, position, others, rfl, ?_, indexes, rfl⟩
    rwa [List.append_cons]

theorem readIndexes_eq_ok_iff {text : List Char} {steps : Path} :
    readIndexes none text = .ok steps ↔ IndexesText text steps :=
  ⟨text_of_readIndexes, readIndexes_of_text⟩

theorem isName_iff {text : List Char} :
    isName text = true ↔ text ≠ [] ∧ ∀ c ∈ text, isNameChar c = true := by
  simp [isName]

theorem IndexesText.span {text : List Char} {steps : Path} (indexes : IndexesText text steps) :
    text.takeWhile (· != '[') = [] ∧ text.dropWhile (· != '[') = text := by
  cases indexes <;> simp

/-- A segment is read exactly if it is one. -/
theorem readSegment_eq_ok_iff {segment : List Char} {steps : Path} :
    readSegment segment = .ok steps ↔ SegmentText segment steps := by
  constructor
  · intro accepted
    unfold readSegment at accepted
    have whole := List.takeWhile_append_dropWhile (p := (· != '[')) (l := segment)
    generalize segment.takeWhile (· != '[') = name at accepted whole
    generalize segment.dropWhile (· != '[') = indexes at accepted whole
    subst whole
    simp only at accepted
    split at accepted
    next empty =>
      obtain rfl := List.isEmpty_iff.mp empty
      split at accepted
      · cases accepted
      next nonempty =>
        exact .unnamed (by simpa using nonempty) (readIndexes_eq_ok_iff.mp accepted)
    next nonempty =>
      split at accepted
      next proper =>
        obtain ⟨others, further, rfl⟩ := exists_of_map_eq_ok accepted
        refine .named ?_ (readIndexes_eq_ok_iff.mp further)
        simp [isName, nonempty, proper]
      · cases accepted
  · rintro (⟨nonempty, indexes⟩ | @⟨name, text, steps, isName, indexes⟩)
    · obtain ⟨front, back⟩ := indexes.span
      simp only [readSegment, front, back, List.isEmpty_nil, if_true, List.isEmpty_iff, nonempty,
        if_false]
      exact readIndexes_of_text indexes
    · obtain ⟨front, back⟩ := indexes.span
      obtain ⟨nonempty, proper⟩ := isName_iff.mp isName
      have closed : ∀ c ∈ name, (c != '[') = true := by
        intro c member
        rw [bne_iff_ne]
        rintro rfl
        exact absurd (proper _ member) (by decide)
      simp only [readSegment, List.takeWhile_append_of_pos closed,
        List.dropWhile_append_of_pos closed, front, back, List.append_nil, List.isEmpty_iff,
        nonempty, if_false, List.all_eq_true.mpr proper, if_true, readIndexes_of_text indexes]
      rfl

theorem readSegments_eq_ok_iff {segments : List (List Char)} {path : Path} :
    readSegments segments = .ok path ↔
      ∃ parts, List.Forall₂ SegmentText segments parts ∧ path = parts.flatten := by
  induction segments generalizing path with
  | nil => simp [readSegments, eq_comm]
  | cons segment rest ih =>
    rw [readSegments]
    constructor
    · intro accepted
      split at accepted
      · cases accepted
      next steps here =>
        obtain ⟨others, later, rfl⟩ := exists_of_map_eq_ok accepted
        obtain ⟨parts, each, rfl⟩ := ih.mp later
        exact ⟨steps :: parts, .cons (readSegment_eq_ok_iff.mp here) each, rfl⟩
    · rintro ⟨parts, each, rfl⟩
      cases each with
      | @cons _ steps _ others here later =>
        rw [readSegment_eq_ok_iff.mpr here]
        simp only [ih.mpr ⟨others, later, rfl⟩]
        rfl

/-- A path is read from exactly the texts of it. -/
theorem parse_eq_ok_iff {text : String} {path : Path} :
    parse text = .ok path ↔ PathText text.toList path := by
  rw [parse, Text.pieces_eq_splitOn, readSegments_eq_ok_iff]
  rfl

/-- A field of the step has a name that may stand in a path. -/
def Named : PathStep → Prop
  | .field name => isName name.toList = true
  | .index _ => True

theorem IndexesText.named {text : List Char} {steps : Path} (indexes : IndexesText text steps) :
    ∀ step ∈ steps, Named step := by
  induction indexes with
  | none => simp
  | more numeral others ih => exact List.forall_mem_cons.mpr ⟨trivial, ih⟩

theorem SegmentText.named_steps {segment : List Char} {steps : Path}
    (here : SegmentText segment steps) : steps ≠ [] ∧ ∀ step ∈ steps, Named step := by
  cases here with
  | unnamed nonempty indexes =>
    refine ⟨?_, indexes.named⟩
    rintro rfl
    cases indexes
    exact nonempty rfl
  | named isName indexes =>
    refine ⟨List.cons_ne_nil _ _, List.forall_mem_cons.mpr ⟨?_, indexes.named⟩⟩
    rwa [Named, String.toList_ofList]

/-- A path that has a text has steps, all of them named. -/
theorem PathText.named {text : List Char} {path : Path} (spelled : PathText text path) :
    path ≠ [] ∧ ∀ step ∈ path, Named step := by
  obtain ⟨parts, each, rfl⟩ := spelled
  have cut := List.splitOn_ne_nil '.' text
  generalize text.splitOn '.' = segments at each cut
  constructor
  · cases each with
    | nil => exact absurd rfl cut
    | cons here later => simp [here.named_steps.1]
  · clear cut
    induction each with
    | nil => simp
    | cons here later ih =>
      rw [List.flatten_cons, List.forall_mem_append]
      exact ⟨here.named_steps.2, ih⟩

/-! ## Writing -/

theorem not_mem_of_isNameChar {text : List Char} (each : ∀ c ∈ text, isNameChar c = true) {c : Char}
    (other : isNameChar c = false) : c ∉ text := by
  intro member
  simp [each c member] at other

theorem writeStep_ne_nil {step : PathStep} (named : Named step) (atStart : Bool) :
    writeStep atStart step ≠ [] := by
  cases step with
  | field name => simp [writeStep, (isName_iff.mp named).1]
  | index position => simp [writeStep]

theorem write_false (path : Path) : write false path = path.flatMap (writeStep false) := by
  induction path with
  | nil => rfl
  | cons step rest ih => rw [write, Bool.false_and, ih, List.flatMap_cons]

/-- Only the first step of a path is written without a dot. -/
theorem write_true_append {steps : Path} (nonempty : steps ≠ [])
    (named : ∀ step ∈ steps, Named step) (rest : Path) :
    write true (steps ++ rest) = write true steps ++ rest.flatMap (writeStep false) := by
  obtain ⟨step, others, rfl⟩ := List.exists_cons_of_ne_nil nonempty
  have visible : (writeStep true step).isEmpty = false := by
    simpa using writeStep_ne_nil (named step List.mem_cons_self) true
  simp only [List.cons_append, write, visible, Bool.and_false, write_false, List.flatMap_append,
    List.append_assoc]

theorem IndexesText.append {text other : List Char} {steps others : Path}
    (indexes : IndexesText text steps) (more : IndexesText other others) :
    IndexesText (text ++ other) (steps ++ others) := by
  induction indexes with
  | none => exact more
  | @more index _ _ _ numeral _ ih =>
    rw [List.cons_append, List.append_assoc, List.cons_append, List.cons_append]
    exact .more numeral ih

theorem indexesText_writeStep (position : UInt64) :
    IndexesText (writeStep false (.index position)) [.index position] :=
  .more (Text.wordText_writeDigits position) .none

theorem SegmentText.append {segment other : List Char} {steps others : Path}
    (here : SegmentText segment steps) (more : IndexesText other others) :
    SegmentText (segment ++ other) (steps ++ others) := by
  cases here with
  | unnamed nonempty indexes =>
    exact .unnamed (by simp [nonempty]) (indexes.append more)
  | named isName indexes =>
    rw [List.append_assoc]
    exact .named isName (indexes.append more)

/-- The character occurs in no segment. -/
structure Foreign (c : Char) : Prop where
  name : isNameChar c = false
  bracket : c ≠ '['
  closing : c ≠ ']'
  plus : c ≠ '+'

theorem IndexesText.not_mem {text : List Char} {steps : Path} (indexes : IndexesText text steps)
    {c : Char} (foreign : Foreign c) : c ∉ text := by
  have digit : c.isDigit = false := by
    have name := foreign.name
    simp only [isNameChar, Char.isAlphanum, Bool.or_eq_false_iff] at name
    exact name.1.2
  induction indexes with
  | none => simp
  | more numeral others ih =>
    have apart := numeral.not_mem foreign.plus digit
    simp [apart, ih, foreign.bracket, foreign.closing]

theorem SegmentText.not_mem {segment : List Char} {steps : Path}
    (here : SegmentText segment steps) {c : Char} (foreign : Foreign c) : c ∉ segment := by
  cases here with
  | unnamed nonempty indexes => exact indexes.not_mem foreign
  | named isName indexes =>
    have apart := not_mem_of_isNameChar (isName_iff.mp isName).2 foreign.name
    simp [apart, indexes.not_mem foreign]

theorem PathText.not_mem {text : List Char} {path : Path} (spelled : PathText text path) {c : Char}
    (foreign : Foreign c) (dot : c ≠ '.') : c ∉ text := by
  obtain ⟨parts, each, rfl⟩ := spelled
  have joined : ['.'].intercalate (text.splitOn '.') = text := List.intercalate_splitOn '.'
  rw [← joined]
  generalize text.splitOn '.' = segments at each
  cases each with
  | nil => simp
  | cons here later =>
    rw [Text.intercalate_cons_eq, List.mem_append, not_or]
    refine ⟨here.not_mem foreign, ?_⟩
    induction later with
    | nil => simp
    | cons next _ ih => simp [dot, next.not_mem foreign, ih]

theorem SegmentText.not_mem_dot {segment : List Char} {steps : Path}
    (here : SegmentText segment steps) : '.' ∉ segment :=
  here.not_mem ⟨by decide, by decide, by decide, by decide⟩

theorem segmentText_of_isName {name : String} (isName : isName name.toList = true) :
    SegmentText name.toList [.field name] := by
  have segment := SegmentText.named isName .none
  rwa [List.append_nil, String.ofList_toList] at segment

/-- Steps written after a segment continue it up to the next name, which begins another one. -/
theorem pathText_append {segment : List Char} {steps : Path} (here : SegmentText segment steps)
    {rest : Path} (named : ∀ step ∈ rest, Named step) :
    PathText (segment ++ rest.flatMap (writeStep false)) (steps ++ rest) := by
  induction rest generalizing segment steps with
  | nil =>
    refine ⟨[steps], ?_, by simp⟩
    rw [List.flatMap_nil, List.append_nil, List.splitOn_eq_singleton here.not_mem_dot]
    exact .cons here .nil
  | cons step more ih =>
    obtain ⟨first, later⟩ := List.forall_mem_cons.mp named
    rw [List.flatMap_cons]
    cases step with
    | index position =>
      rw [← List.append_assoc, List.append_cons]
      exact ih (here.append (indexesText_writeStep position)) later
    | field name =>
      obtain ⟨parts, each, split⟩ := ih (segmentText_of_isName first) later
      refine ⟨steps :: parts, ?_, by rw [List.flatten_cons, ← split]; rfl⟩
      change List.Forall₂ SegmentText
        ((segment ++ '.' :: (name.toList ++ more.flatMap (writeStep false))).splitOn '.') _
      rw [List.splitOn_append_cons_self, List.splitOn_eq_singleton here.not_mem_dot]
      exact .cons here each

theorem pathText_write {path : Path} (nonempty : path ≠ []) (named : ∀ step ∈ path, Named step) :
    PathText (write true path) path := by
  obtain ⟨step, rest, rfl⟩ := List.exists_cons_of_ne_nil nonempty
  obtain ⟨first, later⟩ := List.forall_mem_cons.mp named
  rw [← List.singleton_append, write_true_append (by simp) (by simpa using first)]
  refine pathText_append ?_ later
  cases step with
  | field name => simpa [write, writeStep] using segmentText_of_isName first
  | index position =>
    have indexes := indexesText_writeStep position
    simpa [write, writeStep] using SegmentText.unnamed (by simp [writeStep]) indexes

/-- What is written for a path is read as it. -/
theorem parse_display {path : Path} (nonempty : path ≠ []) (named : ∀ step ∈ path, Named step) :
    parse path.display = .ok path := by
  rw [parse_eq_ok_iff, display, String.toList_ofList]
  exact pathText_write nonempty named

/-! ## What is spelled as it is written -/

/-- The text holds no plus sign, no index with a zero in front of other digits, and no bracket after
a dot. -/
structure Canonical (text : List Char) : Prop where
  noPlus : '+' ∉ text
  noPadding : ∀ digit : Char, digit.isDigit = true → ¬ ['[', '0', digit] <:+: text
  noLoneIndex : ¬ ['.', '['] <:+: text

theorem Canonical.within {text part : List Char} (canonical : Canonical text)
    (inside : part <:+: text) : Canonical part where
  noPlus := fun member => canonical.noPlus (inside.subset member)
  noPadding := fun digit proper found => canonical.noPadding digit proper (found.trans inside)
  noLoneIndex := fun found => canonical.noLoneIndex (found.trans inside)

theorem canonical_nil : Canonical [] := by
  constructor <;> simp

/-- A character more in front is checked against those that follow it only. -/
theorem Canonical.cons {c : Char} {text : List Char} (canonical : Canonical text) (plus : c ≠ '+')
    (padding : ∀ digit : Char, digit.isDigit = true → ¬ ['[', '0', digit] <+: c :: text)
    (loneIndex : ¬ ['.', '['] <+: c :: text) : Canonical (c :: text) where
  noPlus := by simp [plus.symm, canonical.noPlus]
  noPadding := by
    intro digit proper inside
    rcases List.infix_cons_iff.mp inside with here | later
    · exact padding digit proper here
    · exact canonical.noPadding digit proper later
  noLoneIndex := by
    intro inside
    rcases List.infix_cons_iff.mp inside with here | later
    · exact loneIndex here
    · exact canonical.noLoneIndex later

theorem Canonical.append {word text : List Char} (canonical : Canonical text)
    (plain : ∀ c ∈ word, c ≠ '+' ∧ c ≠ '[' ∧ c ≠ '.') : Canonical (word ++ text) := by
  induction word with
  | nil => exact canonical
  | cons c rest ih =>
    obtain ⟨⟨plus, bracket, dot⟩, others⟩ := List.forall_mem_cons.mp plain
    refine (ih others).cons plus ?_ ?_
    · intro digit proper here
      exact bracket (List.cons_prefix_cons.mp here).1.symm
    · intro here
      exact dot (List.cons_prefix_cons.mp here).1.symm

theorem plain_of_isName {name : List Char} (isName : isName name = true) :
    ∀ c ∈ name, c ≠ '+' ∧ c ≠ '[' ∧ c ≠ '.' := by
  have each := (isName_iff.mp isName).2
  intro c member
  refine ⟨?_, ?_, ?_⟩ <;>
  · rintro rfl
    exact absurd (each _ member) (by decide)

theorem plain_writeDigits (n : Nat) : ∀ c ∈ Text.writeDigits n, c ≠ '+' ∧ c ≠ '[' ∧ c ≠ '.' := by
  intro c member
  have digit : c.isDigit = true := Nat.isDigit_of_mem_toDigits (by decide) (by decide) member
  refine ⟨?_, ?_, ?_⟩ <;>
  · rintro rfl
    exact absurd digit (by decide)

theorem canonical_index (position : UInt64) {text : List Char} (canonical : Canonical text) :
    Canonical (writeStep false (.index position) ++ text) := by
  have closed : Canonical ([']'] ++ text) := canonical.append (by simp)
  have digits := closed.append (plain_writeDigits position.toNat)
  simp only [writeStep, List.cons_append, List.append_assoc]
  refine digits.cons (by decide) ?_ ?_
  · intro digit proper here
    -- A single zero is followed by the closing bracket, which is no digit.
    obtain ⟨-, here⟩ := List.cons_prefix_cons.mp here
    have padded := Text.writeDigits_ne_padded position.toNat
    generalize Text.writeDigits position.toNat = written at here padded
    rcases written with _ | ⟨first, _ | ⟨second, rest⟩⟩
    · cases (List.cons_prefix_cons.mp here).1
    · obtain ⟨-, here⟩ := List.cons_prefix_cons.mp here
      obtain ⟨rfl, -⟩ := List.cons_prefix_cons.mp here
      exact absurd proper (by decide)
    · obtain ⟨rfl, -⟩ := List.cons_prefix_cons.mp here
      exact padded second rest rfl
  · intro here
    cases (List.cons_prefix_cons.mp here).1

theorem canonical_field {name : String} (isName : isName name.toList = true) {text : List Char}
    (canonical : Canonical text) : Canonical (writeStep false (.field name) ++ text) := by
  have named := canonical.append (plain_of_isName isName)
  change Canonical ('.' :: (name.toList ++ text))
  refine named.cons (by decide) ?_ ?_
  · intro digit proper here
    cases (List.cons_prefix_cons.mp here).1
  · intro here
    obtain ⟨-, here⟩ := List.cons_prefix_cons.mp here
    have plain := plain_of_isName isName
    obtain ⟨first, rest, split⟩ := List.exists_cons_of_ne_nil (isName_iff.mp isName).1
    rw [split] at here plain
    exact (plain first List.mem_cons_self).2.1 (List.cons_prefix_cons.mp here).1.symm

theorem canonical_write {path : Path} (named : ∀ step ∈ path, Named step) :
    Canonical (write true path) := by
  have further : ∀ rest : Path, (∀ step ∈ rest, Named step) →
      Canonical (rest.flatMap (writeStep false)) := by
    intro rest each
    induction rest with
    | nil => exact canonical_nil
    | cons step more ih =>
      obtain ⟨first, later⟩ := List.forall_mem_cons.mp each
      rw [List.flatMap_cons]
      cases step with
      | field name => exact canonical_field first (ih later)
      | index position => exact canonical_index position (ih later)
  cases path with
  | nil => exact canonical_nil
  | cons step rest =>
    obtain ⟨first, later⟩ := List.forall_mem_cons.mp named
    rw [← List.singleton_append, write_true_append (by simp) (by simpa using first)]
    -- Without its dot the first step is a part of the step with it.
    refine (further (step :: rest) named).within (List.IsSuffix.isInfix ?_)
    cases step with
    | field name => exact ⟨['.'], by simp [write, writeStep]⟩
    | index position => exact ⟨[], by simp [write, writeStep]⟩

theorem IndexesText.write_eq {text : List Char} {steps : Path} (indexes : IndexesText text steps)
    (canonical : Canonical text) : steps.flatMap (writeStep false) = text := by
  induction indexes with
  | none => rfl
  | @more index rest position others numeral _ ih =>
    have spelled : index = Text.writeDigits position.toNat := by
      refine numeral.eq_writeDigits ?_ ?_
      · intro member
        exact canonical.noPlus (by simp [member])
      · rintro digit more proper rfl
        exact canonical.noPadding digit proper ⟨[], more ++ ']' :: rest, by simp⟩
    have later : rest <:+: '[' :: (index ++ ']' :: rest) :=
      ⟨'[' :: index ++ [']'], [], by simp⟩
    rw [List.flatMap_cons, ih (canonical.within later), spelled, writeStep]
    simp

theorem SegmentText.write_eq {segment : List Char} {steps : Path} (here : SegmentText segment steps)
    (canonical : Canonical segment) : write true steps = segment := by
  cases here with
  | unnamed nonempty indexes =>
    rw [← indexes.write_eq canonical]
    cases indexes with
    | none => rfl
    | @more _ _ position others =>
      rw [← List.singleton_append, write_true_append (by simp) (by simp [Named])]
      simp [write, writeStep]
  | @named name text _ isName indexes =>
    have later : text <:+: name ++ text := (List.suffix_append name text).isInfix
    have first : Named (.field (String.ofList name)) := by
      rwa [Named, String.toList_ofList]
    rw [← List.singleton_append, write_true_append (by simp) (by simpa using first),
      indexes.write_eq (canonical.within later)]
    simp [write, writeStep]

/-- A segment after a dot begins with a name, so that the dot is written too. -/
theorem SegmentText.write_eq_of_dot {segment : List Char} {steps : Path}
    (here : SegmentText segment steps) (canonical : Canonical ('.' :: segment)) :
    steps.flatMap (writeStep false) = '.' :: segment := by
  have within : segment <:+: '.' :: segment := (List.suffix_cons '.' segment).isInfix
  cases here with
  | unnamed nonempty indexes =>
    cases indexes with
    | none => exact absurd rfl nonempty
    | @more index rest => exact absurd ⟨[], index ++ ']' :: rest, rfl⟩ canonical.noLoneIndex
  | @named name text _ isName indexes =>
    have later : text <:+: name ++ text := (List.suffix_append name text).isInfix
    rw [List.flatMap_cons, indexes.write_eq (canonical.within (later.trans within)), writeStep,
      String.toList_ofList]
    rfl

theorem write_eq_of_dots {segments : List (List Char)} {parts : List Path}
    (each : List.Forall₂ SegmentText segments parts)
    (canonical : Canonical (segments.flatMap ('.' :: ·))) :
    parts.flatten.flatMap (writeStep false) = segments.flatMap ('.' :: ·) := by
  induction each with
  | nil => rfl
  | cons here later ih =>
    rw [List.flatMap_cons] at canonical
    rw [List.flatten_cons, List.flatMap_append, List.flatMap_cons,
      here.write_eq_of_dot (canonical.within (List.prefix_append _ _).isInfix),
      ih (canonical.within (List.suffix_append _ _).isInfix)]

/-- A text is written for the path that it is read as exactly if it is canonical. -/
theorem PathText.write_eq_iff {text : List Char} {path : Path} (spelled : PathText text path) :
    write true path = text ↔ Canonical text := by
  constructor
  · intro written
    rw [← written]
    exact canonical_write spelled.named.2
  · intro canonical
    obtain ⟨parts, each, rfl⟩ := spelled
    have joined : ['.'].intercalate (text.splitOn '.') = text := List.intercalate_splitOn '.'
    rw [← joined] at canonical ⊢
    generalize text.splitOn '.' = segments at each canonical ⊢
    cases each with
    | nil => rfl
    | cons here later =>
      rw [Text.intercalate_cons_eq] at canonical ⊢
      obtain ⟨nonempty, named⟩ := here.named_steps
      rw [List.flatten_cons, write_true_append nonempty named,
        here.write_eq (canonical.within (List.prefix_append _ _).isInfix),
        write_eq_of_dots later (canonical.within (List.suffix_append _ _).isInfix)]

/-- A path is read from exactly the texts of the grammar. It is read from what is written for it,
and a text that is read is what is written exactly if it is canonical. -/
theorem parse_and_display :
    (∀ text path, parse text = .ok path ↔ PathText text.toList path) ∧
    (∀ path : Path, path ≠ [] → (∀ step ∈ path, Named step) → parse path.display = .ok path) ∧
    ∀ text path, parse text = .ok path → (path.display = text ↔ Canonical text.toList) := by
  refine ⟨fun text path => parse_eq_ok_iff, fun path => parse_display, ?_⟩
  intro text path read
  rw [← (parse_eq_ok_iff.mp read).write_eq_iff, display, ← String.toList_inj,
    String.toList_ofList]

theorem parse_and_display_of_seventh :
    parse "x.[07]" = .ok [.field "x", .index 7] ∧ ¬ Canonical "x.[07]".toList ∧
    parse (display [.field "x", .index 7]) = .ok [.field "x", .index 7] ∧
    Canonical (display [.field "x", .index 7]).toList := by
  obtain ⟨-, back, same⟩ := parse_and_display
  have padded : parse "x.[07]" = .ok [.field "x", .index 7] := by decide
  have again : parse (display [.field "x", .index 7]) = .ok [.field "x", .index 7] :=
    back _ (by decide) (by simp [Named, isName, isNameChar])
  refine ⟨padded, ?_, again, (same _ _ again).mp rfl⟩
  rw [← same _ _ padded]
  decide

end Path
end EndpointResolution
