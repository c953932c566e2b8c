import EndpointResolution.Proofs.PercentEncoding
import EndpointResolution.Proofs.Texts
import EndpointResolution.Url.Path

/-!
Paths of addresses. A normalized path is a slash and segments with slashes between them, none of
them a dot segment, of characters that need no encoding. Hence it is its own normalized form.
-/
namespace EndpointResolution.Url.Path

open Text (pieces joinPieces)
open Text.Percent (encode)

/-- The segment is no dot segment. -/
def IsPlain (segment : List Char) : Prop :=
  isDoubleDot segment = false ∧ isSingleDot segment = false

theorem isPlain_nil : IsPlain [] := by
  constructor <;> decide

theorem mem_of_mem_stepUp {before : List (List Char)} {segment : List Char}
    (member : segment ∈ stepUp before) : segment ∈ before := by
  cases before with
  | nil => exact member
  | cons last outer =>
    rw [stepUp] at member
    split at member
    · exact member
    · exact List.mem_cons_of_mem last member

/-- What holds of the empty segment, of the segments before and of plain segments holds of all that
are left when dots are resolved. -/
theorem forall_mem_resolveDots {holds : List Char → Prop} (empty : holds [])
    {before segments : List (List Char)} (earlier : ∀ segment ∈ before, holds segment)
    (each : ∀ segment ∈ segments, IsPlain segment → holds segment) :
    ∀ segment ∈ resolveDots before segments, holds segment := by
  have above {before : List (List Char)} (earlier : ∀ segment ∈ before, holds segment) :
      ∀ segment ∈ stepUp before, holds segment :=
    fun segment member => earlier segment (mem_of_mem_stepUp member)
  have last {before : List (List Char)} (earlier : ∀ segment ∈ before, holds segment)
      {segment : List Char} (here : holds segment) :
      ∀ found ∈ before.reverse ++ [segment], holds found := by
    intro found member
    rcases List.mem_append.mp member with member | member
    · exact earlier found (List.mem_reverse.mp member)
    · rw [List.mem_singleton] at member
      rwa [member]
  fun_induction resolveDots before segments with
  | case1 before => simpa using earlier
  | case2 before segment double => exact last (above earlier) empty
  | case3 before segment double single => exact last earlier empty
  | case4 before segment double single =>
    exact last earlier (each segment List.mem_cons_self ⟨by simpa using double, by simpa using single⟩)
  | case5 before segment next rest double ih =>
    exact ih (above earlier) (fun found member => each found (List.mem_cons_of_mem _ member))
  | case6 before segment next rest double single ih =>
    exact ih earlier (fun found member => each found (List.mem_cons_of_mem _ member))
  | case7 before segment next rest double single ih =>
    obtain ⟨here, others⟩ := List.forall_mem_cons.mp each
    have plain : IsPlain segment := ⟨by simpa using double, by simpa using single⟩
    exact ih (List.forall_mem_cons.mpr ⟨here plain, earlier⟩) others

theorem resolveDots_ne_nil (before : List (List Char)) {segments : List (List Char)}
    (nonempty : segments ≠ []) : resolveDots before segments ≠ [] := by
  fun_induction resolveDots before segments with
  | case1 => exact absurd rfl nonempty
  | case2 | case3 | case4 => simp
  | case5 _ _ _ _ _ ih | case6 _ _ _ _ _ _ ih | case7 _ _ _ _ _ _ ih =>
    exact ih (List.cons_ne_nil _ _)

theorem resolveDots_of_plain (before : List (List Char)) {segments : List (List Char)}
    (each : ∀ segment ∈ segments, IsPlain segment) :
    resolveDots before segments = before.reverse ++ segments := by
  fun_induction resolveDots before segments with
  | case1 before => simp
  | case2 _ segment double | case5 _ segment _ _ double =>
    have plain := each segment List.mem_cons_self
    rw [plain.1] at double
    cases double
  | case3 _ segment _ single | case6 _ segment _ _ _ single =>
    have plain := each segment List.mem_cons_self
    rw [plain.2] at single
    cases single
  | case4 => rfl
  | case7 before segment next rest double single ih =>
    rw [ih (fun found member => each found (List.mem_cons_of_mem _ member))]
    simp

/-- The character stands in normalized paths. -/
def isNormalChar (c : Char) : Bool :=
  isPathChar c && c != '\\'

/-- The segment is one of a normalized path. -/
structure IsSegment (segment : List Char) : Prop where
  characters : ∀ c ∈ segment, isNormalChar c = true
  slash : '/' ∉ segment
  plain : IsPlain segment

theorem isNormalChar_of_mem_encode {text : List Char} (clean : '\\' ∉ text) {c : Char}
    (member : c ∈ encode isPathChar text) : isNormalChar c = true := by
  rcases Text.Percent.mem_encode member with ⟨among, kept⟩ | among
  · have other : c ≠ '\\' := fun same => clean (same ▸ among)
    simp [isNormalChar, kept, other]
  · have each : ∀ c ∈ Text.Percent.tripleChars, isNormalChar c = true :=
      Text.forall_mem_of_all (by decide)
    exact each c among

theorem slash_not_mem_encode {text : List Char} (clean : '/' ∉ text) :
    '/' ∉ encode isPathChar text := by
  intro member
  rcases Text.Percent.mem_encode member with ⟨among, -⟩ | among
  · exact clean among
  · exact absurd among (by decide)

theorem backslash_not_mem_map (text : List Char) :
    '\\' ∉ text.map fun c => if c = '\\' then '/' else c := by
  intro member
  obtain ⟨c, -, same⟩ := List.mem_map.mp member
  split at same
  · cases same
  next other => exact other same

/-- A path is made of the pieces of a text without backslashes. -/
theorem exists_relative (text : List Char) : ∃ relative, '\\' ∉ relative ∧ normalize text =
    '/' :: joinPieces '/' (resolveDots [] ((pieces '/' relative).map (encode isPathChar))) := by
  have clean := backslash_not_mem_map text
  refine ⟨_, ?_, rfl⟩
  generalize text.map (fun c => if c = '\\' then '/' else c) = slashed at clean
  split
  next rest => exact fun member => clean (List.mem_cons_of_mem _ member)
  next => exact clean

theorem normalize_cons {relative : List Char} (clean : '\\' ∉ relative) :
    normalize ('/' :: relative) =
      '/' :: joinPieces '/' (resolveDots [] ((pieces '/' relative).map (encode isPathChar))) := by
  have unchanged : relative.map (fun c => if c = '\\' then '/' else c) = relative := by
    conv_rhs => rw [← List.map_id relative]
    refine List.map_congr_left fun c member => if_neg ?_
    rintro rfl
    exact clean member
  unfold normalize
  rw [List.map_cons, unchanged]
  rfl

/-- A normalized path is written with segments of one. -/
theorem exists_segments (text : List Char) :
    ∃ segments, normalize text = '/' :: joinPieces '/' segments ∧ segments ≠ [] ∧
      ∀ segment ∈ segments, IsSegment segment := by
  obtain ⟨relative, clean, path⟩ := exists_relative text
  refine ⟨_, path, resolveDots_ne_nil [] (by simp [Text.pieces_ne_nil]), ?_⟩
  have empty : IsSegment [] := ⟨by simp, by simp, isPlain_nil⟩
  refine forall_mem_resolveDots empty (by simp) ?_
  intro segment among plain
  obtain ⟨piece, member, rfl⟩ := List.mem_map.mp among
  have backslash : '\\' ∉ piece := fun inside =>
    clean (Text.joinPieces_pieces '/' relative ▸ Text.mem_joinPieces member inside)
  exact ⟨fun c => isNormalChar_of_mem_encode backslash,
    slash_not_mem_encode (Text.not_mem_of_mem_pieces member), plain⟩

/-- Segments of a normalized path are left as they are. -/
theorem normalize_segments {segments : List (List Char)} (nonempty : segments ≠ [])
    (each : ∀ segment ∈ segments, IsSegment segment) :
    normalize ('/' :: joinPieces '/' segments) = '/' :: joinPieces '/' segments := by
  have clean : '\\' ∉ joinPieces '/' segments := by
    intro member
    have normal : ∀ c ∈ joinPieces '/' segments, isNormalChar c = true :=
      Text.forall_mem_joinPieces (by decide) fun segment among => (each segment among).characters
    exact absurd (normal '\\' member) (by decide)
  have encoded : segments.map (encode isPathChar) = segments := by
    conv_rhs => rw [← List.map_id segments]
    refine List.map_congr_left fun segment among => Text.Percent.encode_eq_self fun c member => ?_
    have normal := (each segment among).characters c member
    rw [isNormalChar, Bool.and_eq_true] at normal
    exact normal.1
  rw [normalize_cons clean,
    Text.pieces_joinPieces nonempty fun segment among => (each segment among).slash, encoded,
    resolveDots_of_plain [] fun segment among => (each segment among).plain]
  rfl

/-- A normalized path is its own normalized form. -/
theorem normalize_normalize (text : List Char) : normalize (normalize text) = normalize text := by
  obtain ⟨segments, path, nonempty, each⟩ := exists_segments text
  rw [path]
  exact normalize_segments nonempty each

theorem isNormalChar_of_mem {text : List Char} {c : Char} (member : c ∈ normalize text) :
    isNormalChar c = true := by
  obtain ⟨segments, path, -, each⟩ := exists_segments text
  rw [path, List.mem_cons] at member
  rcases member with rfl | member
  · decide
  · exact Text.forall_mem_joinPieces (by decide)
      (fun segment among => (each segment among).characters) c member

/-- A path starts with a slash. -/
theorem exists_normalize (text : List Char) : ∃ rest, normalize text = '/' :: rest := by
  obtain ⟨segments, path, -⟩ := exists_segments text
  exact ⟨_, path⟩

/-- Dots are resolved, backslashes are slashes, and what needs it is encoded, once and for all. -/
example : normalize "\\a\\.\\b c/%2e%2E/d^".toList = "/a/d^".toList ∧
    normalize "/a/d^".toList = "/a/d^".toList := by
  decide

end EndpointResolution.Url.Path
