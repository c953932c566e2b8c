import EndpointResolution.Text.Pieces
import EndpointResolution.Text.Slice
import Mathlib.Data.List.Basic

/-!
Characters and pieces of texts: what holds of every ASCII character, and how the pieces of a text
and the characters in them go together.
-/
namespace EndpointResolution.Text

theorem isAscii_iff {c : Char} : isAscii c = true ↔ c.toNat < 128 := by
  simp [isAscii]

/-- What holds of the first 128 code points holds of every ASCII character. -/
theorem of_isAscii (holds : Char → Prop) (each : ∀ n < 128, holds (Char.ofNat n)) {c : Char}
    (ascii : isAscii c = true) : holds c := by
  have below : c.toNat < 128 := isAscii_iff.mp ascii
  have here := each c.toNat below
  rwa [Char.ofNat_toNat] at here

/-- What is decided of the characters of a list, one by one, holds of each of them. -/
theorem forall_mem_of_all {holds : Char → Prop} [DecidablePred holds] {text : List Char}
    (each : text.all (fun c => decide (holds c)) = true) : ∀ c ∈ text, holds c := by
  simpa using each

theorem pieces_eq_splitOn (sep : Char) (text : List Char) :
    pieces sep text = text.splitOn sep := by
  induction text with
  | nil => rw [pieces, List.splitOn_nil]
  | cons c rest ih =>
    rw [List.splitOn_cons_eq_if_modifyHead, ← ih]
    by_cases same : c = sep
    · simp [pieces, same]
    · obtain ⟨piece, others, cut⟩ := List.exists_cons_of_ne_nil (pieces_ne_nil sep rest)
      simp [pieces_cons_of_ne same cut, same, cut]

variable {sep : Char}

theorem pieces_of_not_mem {text : List Char} (clean : sep ∉ text) : pieces sep text = [text] := by
  induction text with
  | nil => rfl
  | cons c rest ih =>
    have distinct : c ≠ sep := fun same => clean (same ▸ List.mem_cons_self)
    have others : sep ∉ rest := fun member => clean (List.mem_cons_of_mem c member)
    exact pieces_cons_of_ne distinct (ih others)

/-- Pieces without the separator are cut where they were joined. -/
theorem pieces_joinPieces {parts : List (List Char)} (nonempty : parts ≠ [])
    (clean : ∀ part ∈ parts, sep ∉ part) : pieces sep (joinPieces sep parts) = parts := by
  induction parts with
  | nil => exact absurd rfl nonempty
  | cons part rest ih =>
    obtain ⟨here, others⟩ := List.forall_mem_cons.mp clean
    cases rest with
    | nil => exact pieces_of_not_mem here
    | cons next more =>
      rw [joinPieces, pieces_append, pieces_of_not_mem here, ih (List.cons_ne_nil _ _) others]
      rfl

/-- What holds of the separator and of every character of the pieces holds of the joined text. -/
theorem forall_mem_joinPieces {holds : Char → Prop} {parts : List (List Char)}
    (separator : holds sep) (each : ∀ part ∈ parts, ∀ c ∈ part, holds c) :
    ∀ c ∈ joinPieces sep parts, holds c := by
  induction parts with
  | nil => simp [joinPieces]
  | cons part rest ih =>
    obtain ⟨here, others⟩ := List.forall_mem_cons.mp each
    cases rest with
    | nil => exact here
    | cons next more =>
      intro c member
      rw [joinPieces, List.mem_append, List.mem_cons] at member
      rcases member with inside | rfl | later
      · exact here c inside
      · exact separator
      · exact ih others c later

theorem mem_joinPieces {parts : List (List Char)} {part : List Char} (among : part ∈ parts)
    {c : Char} (member : c ∈ part) : c ∈ joinPieces sep parts := by
  induction parts with
  | nil => simp at among
  | cons first rest ih =>
    cases rest with
    | nil =>
      rw [List.mem_singleton] at among
      rwa [joinPieces, ← among]
    | cons next more =>
      rw [joinPieces, List.mem_append, List.mem_cons]
      rcases List.mem_cons.mp among with rfl | later
      · exact .inl member
      · exact .inr (.inr (ih later))

/-- All characters of a text have what the separator has, exactly if all of every piece do. -/
theorem forall_mem_pieces_iff (holds : Char → Prop) (separator : holds sep) (text : List Char) :
    (∀ piece ∈ pieces sep text, ∀ c ∈ piece, holds c) ↔ ∀ c ∈ text, holds c := by
  constructor
  · intro each
    rw [← joinPieces_pieces sep text]
    exact forall_mem_joinPieces separator each
  · intro each piece among c member
    rw [← joinPieces_pieces sep text] at each
    exact each c (mem_joinPieces among member)

end EndpointResolution.Text
