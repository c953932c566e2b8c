import EndpointResolution.Proofs.Results
import EndpointResolution.Proofs.Texts
import EndpointResolution.Proofs.Ipv4Addresses
import EndpointResolution.Url.Ipv6

/-!
IPv6 addresses. Whatever the written form, what is read are eight groups of sixteen bits, and the
shortest form, in which a run of zero groups is left out, is read as the groups that it is written
for.
-/
namespace EndpointResolution.Url.Ipv6

open Text (pieces joinPieces hexValue? writeHex)

/-- The groups are those of an address. -/
def IsAddress (groups : Groups) : Prop :=
  groups.length = 8 ∧ ∀ group ∈ groups, group < 65536

theorem readGroup_eq_some_iff {text : List Char} {group : Nat} :
    readGroup text = some group ↔ 1 ≤ text.length ∧ text.length ≤ 4 ∧
      ∃ digits, text.mapM hexValue? = some digits ∧ Ipv4.ofDigits 16 digits = group := by
  unfold readGroup
  split
  next long =>
    simp only [Bool.or_eq_true, List.isEmpty_iff, decide_eq_true_eq] at long
    constructor
    · intro none
      cases none
    · rintro ⟨nonempty, short, -⟩
      rcases long with rfl | long
      · simp at nonempty
      · omega
  next short =>
    simp only [Bool.or_eq_true, List.isEmpty_iff, decide_eq_true_eq, not_or] at short
    have nonempty : 1 ≤ text.length := List.length_pos_iff.mpr short.1
    rw [Option.map_eq_some_iff]
    exact ⟨fun read => ⟨nonempty, by omega, read⟩, fun read => read.2.2⟩

theorem lt_of_readGroup {text : List Char} {group : Nat} (read : readGroup text = some group) :
    group < 65536 := by
  obtain ⟨-, short, digits, values, rfl⟩ := readGroup_eq_some_iff.mp read
  have count : text.length = digits.length := (mapM_eq_some_iff.mp values).length_eq
  have each : ∀ digit ∈ digits, digit < 16 := by
    intro digit member
    obtain ⟨c, -, value⟩ := exists_of_mem_mapM values member
    exact (Text.bounds_of_hexValue? value).1
  calc Ipv4.ofDigits 16 digits
      < 16 ^ digits.length := Ipv4.ofDigits_lt each
    _ ≤ 16 ^ 4 := Nat.pow_le_pow_right (by decide) (by omega)

theorem exists_digits (n : Nat) :
    ∃ digits, (writeHex n).mapM hexValue? = some digits ∧ Ipv4.ofDigits 16 digits = n := by
  obtain ⟨digits, values, value⟩ := Ipv4.exists_digitsBelow? (by decide) (Nat.le_refl 16) n
  refine ⟨digits, ?_, value⟩
  rw [mapM_eq_some_iff]
  exact (mapM_eq_some_iff.mp values).imp fun c digit found =>
    (Option.filter_eq_some_iff.mp found).1

theorem readGroup_writeHex {group : Nat} (small : group < 65536) :
    readGroup (writeHex group) = some group := by
  have short : (writeHex group).length ≤ 4 :=
    (Nat.length_toDigits_le_iff (by decide) (by decide)).mpr small
  exact readGroup_eq_some_iff.mpr
    ⟨List.length_pos_iff.mpr Nat.toDigits_ne_nil, short, exists_digits group⟩

theorem lt_of_readByte {text : List Char} {byte : Nat} (read : readByte text = some byte) :
    byte < 256 := by
  unfold readByte at read
  split at read
  · cases read
  · simpa using (Option.filter_eq_some_iff.mp read).2

theorem forall_lt_of_readLast {text : List Char} {groups : Groups}
    (read : readLast text = some groups) : ∀ group ∈ groups, group < 65536 := by
  unfold readLast at read
  split at read
  next a b c d found =>
    obtain rfl := Option.some.inj read
    have each : ∀ byte ∈ [a, b, c, d], byte < 256 := by
      intro byte member
      obtain ⟨piece, -, value⟩ := exists_of_mem_mapM found member
      exact lt_of_readByte value
    simp only [List.forall_mem_cons, List.not_mem_nil, false_implies, implies_true,
      and_true] at each ⊢
    omega
  next =>
    obtain ⟨group, found, rfl⟩ := Option.map_eq_some_iff.mp read
    exact List.forall_mem_singleton.mpr (lt_of_readGroup found)

theorem forall_lt_of_readPieces {parts : List (List Char)} {groups : Groups}
    (read : readPieces parts = some groups) : ∀ group ∈ groups, group < 65536 := by
  fun_induction readPieces parts generalizing groups with
  | case1 =>
    obtain rfl := Option.some.inj read
    simp
  | case2 last => exact forall_lt_of_readLast read
  | case3 piece next rest ih =>
    simp only [Option.bind_eq_bind, Option.bind_eq_some_iff, Option.pure_def,
      Option.some.injEq] at read
    obtain ⟨group, first, others, later, rfl⟩ := read
    exact List.forall_mem_cons.mpr ⟨lt_of_readGroup first, ih later⟩

theorem forall_lt_of_readGroups {text : List Char} {groups : Groups}
    (read : readGroups text = some groups) : ∀ group ∈ groups, group < 65536 := by
  unfold readGroups at read
  split at read
  · obtain rfl := Option.some.inj read
    simp
  · exact forall_lt_of_readPieces read

/-- What is read are the groups of an address. -/
theorem isAddress_of_parse {text : List Char} {groups : Groups}
    (accepted : parse text = some groups) : IsAddress groups := by
  unfold parse at accepted
  split at accepted
  next =>
    obtain ⟨read, count⟩ := Option.filter_eq_some_iff.mp accepted
    exact ⟨by simpa using count, forall_lt_of_readGroups read⟩
  next before after =>
    simp only [Option.bind_eq_bind, Option.bind_eq_some_iff, Option.pure_def, Option.some.injEq,
      guard_eq_some_iff, exists_const] at accepted
    obtain ⟨leading, first, trailing, last, few, rfl⟩ := accepted
    constructor
    · simp only [List.length_append, List.length_replicate]
      omega
    · have earlier : ∀ group ∈ leading, group < 65536 := by
        split at first
        · obtain rfl := Option.some.inj first
          simp
        · intro group member
          obtain ⟨piece, -, value⟩ := exists_of_mem_mapM first member
          exact lt_of_readGroup value
      intro group member
      simp only [List.mem_append, List.mem_replicate] at member
      rcases member with (here | ⟨-, rfl⟩) | here
      · exact earlier group here
      · decide
      · exact forall_lt_of_readGroups last group here

/-! ## Groups that are written -/

theorem not_mem_writeHex {c : Char} (other : hexValue? c = none) (group : Nat) :
    c ∉ writeHex group := by
  intro member
  obtain ⟨digits, values, -⟩ := exists_digits group
  obtain ⟨digit, -, value⟩ := exists_mem_of_forall₂ (mapM_eq_some_iff.mp values) member
  rw [other] at value
  cases value

theorem writeHex_ne_nil (group : Nat) : writeHex group ≠ [] := Nat.toDigits_ne_nil

theorem readLast_writeHex {group : Nat} (small : group < 65536) :
    readLast (writeHex group) = some [group] := by
  have whole : pieces '.' (writeHex group) = [writeHex group] :=
    Text.pieces_of_not_mem (not_mem_writeHex rfl group)
  unfold readLast
  split
  next a b c d found =>
    have count := (mapM_eq_some_iff.mp found).length_eq
    rw [whole] at count
    cases count
  next =>
    rw [readGroup_writeHex small]
    rfl

theorem readPieces_map {groups : Groups} (small : ∀ group ∈ groups, group < 65536) :
    readPieces (groups.map writeHex) = some groups := by
  induction groups with
  | nil => rfl
  | cons group rest ih =>
    obtain ⟨here, others⟩ := List.forall_mem_cons.mp small
    cases rest with
    | nil => exact readLast_writeHex here
    | cons next more =>
      rw [List.map_cons, List.map_cons, readPieces, readGroup_writeHex here]
      rw [List.map_cons] at ih
      simp [ih others]

theorem pieces_writeGroups {groups : Groups} (nonempty : groups ≠ []) :
    pieces ':' (writeGroups groups) = groups.map writeHex := by
  refine Text.pieces_joinPieces (by simpa using nonempty) ?_
  intro part among
  obtain ⟨group, -, rfl⟩ := List.mem_map.mp among
  exact not_mem_writeHex rfl group

theorem writeGroups_eq_nil_iff {groups : Groups} : writeGroups groups = [] ↔ groups = [] := by
  constructor
  · intro empty
    cases groups with
    | nil => rfl
    | cons group rest =>
      have cut := pieces_writeGroups (List.cons_ne_nil group rest)
      rw [empty, List.map_cons] at cut
      exact absurd (List.cons.inj cut).1.symm (writeHex_ne_nil group)
  · rintro rfl
    rfl

theorem readGroups_writeGroups {groups : Groups} (small : ∀ group ∈ groups, group < 65536) :
    readGroups (writeGroups groups) = some groups := by
  unfold readGroups
  split
  next empty =>
    rw [List.isEmpty_iff, writeGroups_eq_nil_iff] at empty
    rw [empty]
  next nonempty =>
    rw [List.isEmpty_iff, writeGroups_eq_nil_iff] at nonempty
    rw [pieces_writeGroups nonempty, readPieces_map small]

theorem mapM_readGroup_pieces {groups : Groups} (small : ∀ group ∈ groups, group < 65536)
    (nonempty : groups ≠ []) : (pieces ':' (writeGroups groups)).mapM readGroup = some groups := by
  rw [pieces_writeGroups nonempty, mapM_eq_some_iff, List.forall₂_map_left_iff, List.forall₂_same]
  exact fun group member => readGroup_writeHex (small group member)

theorem splitDouble?_append {text : List Char} (clean : ':' ∉ text) (rest : List Char) :
    splitDouble? (text ++ rest) =
      (splitDouble? rest).map fun halves => (text ++ halves.1, halves.2) := by
  induction text with
  | nil => simp
  | cons c others ih =>
    have other : c ≠ ':' := fun same => clean (same ▸ List.mem_cons_self)
    have later : ':' ∉ others := fun member => clean (List.mem_cons_of_mem c member)
    rw [List.cons_append, splitDouble?, ih later, Option.map_map]
    · rfl
    · intro _ same
      exact absurd same other

theorem splitDouble?_cons {c : Char} (other : c ≠ ':') (rest : List Char) :
    splitDouble? (':' :: c :: rest) =
      (splitDouble? (c :: rest)).map fun halves => (':' :: halves.1, halves.2) := by
  rw [splitDouble?]
  intro after _ same
  exact other (List.cons.inj same).1

theorem exists_writeGroups_cons (group : Nat) (more : Groups) :
    ∃ first rest, writeGroups (group :: more) = first :: rest ∧ first ≠ ':' := by
  obtain ⟨first, others, start⟩ := List.exists_cons_of_ne_nil (writeHex_ne_nil group)
  have digit : first ≠ ':' := by
    rintro rfl
    exact not_mem_writeHex rfl group (start ▸ List.mem_cons_self)
  cases more with
  | nil => exact ⟨first, others, start, digit⟩
  | cons next more =>
    refine ⟨first, others ++ ':' :: writeGroups (next :: more), ?_, digit⟩
    rw [← List.cons_append, ← start]
    rfl

/-- There is no double colon in groups that are written. -/
theorem splitDouble?_writeGroups (groups : Groups) (rest : List Char) :
    splitDouble? (writeGroups groups ++ rest) =
      (splitDouble? rest).map fun halves => (writeGroups groups ++ halves.1, halves.2) := by
  induction groups with
  | nil => simp [writeGroups, joinPieces]
  | cons group more ih =>
    have clean : ':' ∉ writeHex group := not_mem_writeHex rfl group
    cases more with
    | nil => exact splitDouble?_append clean rest
    | cons next others =>
      have joined : writeGroups (group :: next :: others) =
          writeHex group ++ ':' :: writeGroups (next :: others) := rfl
      obtain ⟨first, tail, start, digit⟩ := exists_writeGroups_cons next others
      have after : splitDouble? (':' :: (writeGroups (next :: others) ++ rest)) =
          (splitDouble? (writeGroups (next :: others) ++ rest)).map
            fun halves => (':' :: halves.1, halves.2) := by
        rw [start, List.cons_append, splitDouble?_cons digit]
      rw [joined, List.append_assoc, splitDouble?_append clean, List.cons_append, after, ih,
        Option.map_map, Option.map_map]
      refine congrArg (Option.map · (splitDouble? rest)) (funext fun halves => ?_)
      simp

theorem foldl_max_eq_or_mem (numbers : List Nat) (least : Nat) :
    numbers.foldl max least = least ∨ numbers.foldl max least ∈ numbers := by
  induction numbers generalizing least with
  | nil => exact .inl rfl
  | cons n rest ih =>
    rw [List.foldl_cons]
    rcases ih (max least n) with same | later
    · rw [same]
      rcases Nat.le_total least n with below | above
      · exact .inr (by simp [Nat.max_eq_right below])
      · exact .inl (Nat.max_eq_left above)
    · exact .inr (List.mem_cons_of_mem n later)

/-- There is a run of the greatest length, unless this is zero. -/
theorem exists_longestRun {groups : Groups} (positive : 0 < longestRun groups) :
    ∃ start < groups.length, zerosFrom groups start = longestRun groups := by
  unfold longestRun at positive ⊢
  rcases foldl_max_eq_or_mem ((List.range groups.length).map (zerosFrom groups)) 0 with zero | among
  · omega
  · obtain ⟨start, inside, same⟩ := List.mem_map.mp among
    exact ⟨start, List.mem_range.mp inside, same⟩

/-- The first number below a bound that fails a test is as great as the number of those before. -/
theorem takeWhile_range_length (test : Nat → Bool) {bound n : Nat} (inside : n < bound)
    (fails : test n = false) :
    ((List.range bound).takeWhile test).length < bound ∧
      test ((List.range bound).takeWhile test).length = false := by
  have whole : (List.range bound).takeWhile test ++ (List.range bound).dropWhile test =
      List.range bound := List.takeWhile_append_dropWhile
  have remains : (List.range bound).dropWhile test ≠ [] := by
    intro empty
    rw [empty, List.append_nil] at whole
    have passes : test n = true :=
      List.all_eq_true.mp List.all_takeWhile n (whole ▸ List.mem_range.mpr inside)
    rw [fails] at passes
    cases passes
  obtain ⟨first, rest, start⟩ := List.exists_cons_of_ne_nil remains
  have failed : test first = false := by
    have head := List.head_dropWhile_not test remains
    simpa [start] using head
  generalize (List.range bound).takeWhile test = earlier at whole ⊢
  rw [start] at whole
  have position : (List.range bound)[earlier.length]? = some first := by
    rw [← whole, List.getElem?_append_right (Nat.le_refl _), Nat.sub_self]
    rfl
  obtain ⟨small, same⟩ := List.getElem?_eq_some_iff.mp position
  rw [List.getElem_range] at same
  rw [List.length_range] at small
  rw [same] at small ⊢
  exact ⟨small, failed⟩

/-- A run of zero groups stands before the groups after it. -/
theorem drop_eq_zeros (groups : Groups) (start : Nat) :
    groups.drop start = List.replicate (zerosFrom groups start) 0 ++
      groups.drop (start + zerosFrom groups start) := by
  have split : (groups.drop start).takeWhile (· == 0) ++ (groups.drop start).dropWhile (· == 0) =
      groups.drop start := List.takeWhile_append_dropWhile
  have zeros : (groups.drop start).takeWhile (· == 0) =
      List.replicate (zerosFrom groups start) 0 := by
    refine List.eq_replicate_of_mem fun group member => ?_
    simpa using List.all_eq_true.mp List.all_takeWhile group member
  have after : (groups.drop start).dropWhile (· == 0) =
      (groups.drop start).drop (zerosFrom groups start) := by
    conv_rhs => rw [← split]
    exact List.drop_left.symm
  calc groups.drop start
      = (groups.drop start).takeWhile (· == 0) ++ (groups.drop start).dropWhile (· == 0) :=
        split.symm
    _ = List.replicate (zerosFrom groups start) 0 ++
          groups.drop (start + zerosFrom groups start) := by
        rw [zeros, after, List.drop_drop]

/-- The groups with one of the longest runs of zero groups left out. -/
theorem exists_run {groups : Groups} (long : 2 ≤ longestRun groups) :
    ∃ before after, display groups = writeGroups before ++ [':', ':'] ++ writeGroups after ∧
      groups = before ++ List.replicate (longestRun groups) 0 ++ after := by
  obtain ⟨n, inside, same⟩ := exists_longestRun (show 0 < longestRun groups by omega)
  have found := takeWhile_range_length (fun i => zerosFrom groups i != longestRun groups) inside
    (by simp [same])
  unfold display
  simp only
  generalize ((List.range groups.length).takeWhile
    fun i => zerosFrom groups i != longestRun groups).length = start at found ⊢
  have run : zerosFrom groups start = longestRun groups := by simpa using found.2
  refine ⟨groups.take start, groups.drop (start + longestRun groups), if_neg (by omega), ?_⟩
  have cut := drop_eq_zeros groups start
  rw [run] at cut
  rw [List.append_assoc, ← cut, List.take_append_drop]

/-- The shortest form is read as the address. -/
theorem parse_display {groups : Groups} (valid : IsAddress groups) :
    parse (display groups) = some groups := by
  obtain ⟨count, small⟩ := valid
  by_cases long : 2 ≤ longestRun groups
  · obtain ⟨before, after, text, whole⟩ := exists_run long
    have split : splitDouble? (display groups) = some (writeGroups before, writeGroups after) := by
      rw [text, List.append_assoc, splitDouble?_writeGroups]
      simp [splitDouble?]
    have length : before.length + longestRun groups + after.length = 8 := by
      rw [← count]
      conv_rhs => rw [whole]
      simp [Nat.add_assoc]
    have each : ∀ group ∈ before ++ List.replicate (longestRun groups) 0 ++ after,
        group < 65536 := whole ▸ small
    simp only [List.forall_mem_append] at each
    have leading : (if (writeGroups before).isEmpty then some []
        else (pieces ':' (writeGroups before)).mapM readGroup) = some before := by
      by_cases empty : before = []
      · simp [empty, writeGroups_eq_nil_iff.mpr]
      · rw [mapM_readGroup_pieces each.1.1 empty, if_neg]
        rwa [List.isEmpty_iff, writeGroups_eq_nil_iff]
    have few : (guard (before.length + after.length ≤ 7) : Option Unit) = some () :=
      guard_eq_some_iff.mpr (by omega)
    have missing : 8 - (before.length + after.length) = longestRun groups := by omega
    unfold parse
    rw [split]
    simp only [leading, readGroups_writeGroups each.2, Option.bind_eq_bind, Option.bind_some, few,
      missing, Option.pure_def]
    rw [← whole]
  · have text : display groups = writeGroups groups := if_pos (by omega)
    have split : splitDouble? (writeGroups groups) = none := by
      have cut := splitDouble?_writeGroups groups []
      rwa [List.append_nil] at cut
    unfold parse
    rw [text, split, readGroups_writeGroups small]
    simp [count]

/-- The text of an address is made of hexadecimal digits and colons. -/
theorem hexDigit_of_mem_display {groups : Groups} {c : Char} (member : c ∈ display groups) :
    (hexValue? c).isSome = true ∨ c = ':' := by
  have written (groups : Groups) : ∀ c ∈ writeGroups groups, (hexValue? c).isSome = true ∨ c = ':' := by
    refine Text.forall_mem_joinPieces (Or.inr rfl) fun part among c inside => ?_
    obtain ⟨group, -, rfl⟩ := List.mem_map.mp among
    refine .inl (Option.isSome_iff_ne_none.mpr fun other => ?_)
    exact not_mem_writeHex other group inside
  unfold display at member
  simp only at member
  split at member
  · exact written _ c member
  · simp only [List.mem_append, List.mem_cons, List.not_mem_nil, or_false, or_self] at member
    rcases member with (before | colon) | after
    · exact written _ c before
    · exact .inr colon
    · exact written _ c after

end EndpointResolution.Url.Ipv6
