/-!
Texts cut at a separating character. Main statements: joining the pieces with the separator gives
the text back, no piece holds the separator, and the pieces of two texts with the separator
between them are the pieces of the one followed by the pieces of the other.
-/
namespace EndpointResolution.Text

/-- The pieces between the occurrences of `sep`: one more than there are occurrences. -/
def pieces (sep : Char) : List Char → List (List Char)
  | [] => [[]]
  | c :: rest =>
    if c = sep then [] :: pieces sep rest
    else match pieces sep rest with
      | [] => [[c]]
      | piece :: others => (c :: piece) :: others

/-- The pieces with `sep` between them. -/
def joinPieces (sep : Char) : List (List Char) → List Char
  | [] => []
  | [piece] => piece
  | piece :: next :: others => piece ++ sep :: joinPieces sep (next :: others)

theorem pieces_ne_nil (sep : Char) (text : List Char) : pieces sep text ≠ [] := by
  cases text with
  | nil => simp [pieces]
  | cons c rest =>
    by_cases same : c = sep
    · simp [pieces, same]
    · rw [pieces, if_neg same]
      split <;> simp

theorem pieces_cons_of_ne {sep c : Char} (distinct : c ≠ sep) {rest piece : List Char}
    {others : List (List Char)} (cut : pieces sep rest = piece :: others) :
    pieces sep (c :: rest) = (c :: piece) :: others := by
  rw [pieces, if_neg distinct, cut]

theorem joinPieces_pieces (sep : Char) (text : List Char) :
    joinPieces sep (pieces sep text) = text := by
  induction text with
  | nil => rfl
  | cons c rest ih =>
    obtain ⟨piece, others, cut⟩ := List.exists_cons_of_ne_nil (pieces_ne_nil sep rest)
    by_cases same : c = sep
    · rw [cut] at ih
      simp [pieces, same, cut, joinPieces, ih]
    · rw [pieces_cons_of_ne same cut]
      rw [cut] at ih
      cases others with
      | nil => simpa [joinPieces] using ih
      | cons next more => simpa [joinPieces] using ih

theorem not_mem_of_mem_pieces {sep : Char} {text piece : List Char}
    (member : piece ∈ pieces sep text) : sep ∉ piece := by
  induction text generalizing piece with
  | nil => simp_all [pieces]
  | cons c rest ih =>
    by_cases same : c = sep
    · rw [pieces, if_pos same, List.mem_cons] at member
      rcases member with found | found
      · simp [found]
      · exact ih found
    · obtain ⟨head, others, cut⟩ := List.exists_cons_of_ne_nil (pieces_ne_nil sep rest)
      rw [pieces_cons_of_ne same cut, List.mem_cons] at member
      rcases member with found | found
      · have clean : sep ∉ head := ih (cut ▸ List.mem_cons_self)
        simp [found, clean, Ne.symm same]
      · exact ih (cut ▸ List.mem_cons_of_mem _ found)

theorem pieces_append (sep : Char) (left right : List Char) :
    pieces sep (left ++ sep :: right) = pieces sep left ++ pieces sep right := by
  induction left with
  | nil => simp [pieces]
  | cons c rest ih =>
    obtain ⟨head, others, cut⟩ := List.exists_cons_of_ne_nil (pieces_ne_nil sep rest)
    by_cases same : c = sep
    · simp [pieces, same, ih]
    · have whole : pieces sep (rest ++ sep :: right) = head :: (others ++ pieces sep right) := by
        rw [ih, cut, List.cons_append]
      rw [pieces_cons_of_ne same cut, List.cons_append, pieces_cons_of_ne same whole,
        List.cons_append]

end EndpointResolution.Text
