import EndpointResolution.Expr.Template
import EndpointResolution.Proofs.PathText
import Mathlib.Data.List.TakeWhile

/-!
The texts of templates. What the reader gives is normal: texts are as long as they can be, and the
placeholders are references to names and attributes of these. What is printed for a normal template
is read as it, whatever braces its texts begin and end with.
-/
namespace EndpointResolution.Template

/-- The expression is one that a placeholder may stand for: a reference to a name, or an attribute
of one by a path that some text is read as. -/
inductive Placeholder : Expr → Prop
  | whole {name : String} {location : Location} (isName : Path.isName name.toList = true) :
      Placeholder (.reference name location)
  | part {name source : String} {path : Path} {location place : Location}
      (isName : Path.isName name.toList = true) (read : Path.parse source = .ok path) :
      Placeholder (.attribute (.reference name location) path place)

/-- No text of the template is empty or next to another one, and every placeholder is one that can
be written. -/
structure Normal (template : Template) : Prop where
  filled : ∀ text, TemplatePart.text text ∈ template → text ≠ ""
  apart : ∀ before first second after,
    template ≠ before ++ TemplatePart.text first :: TemplatePart.text second :: after
  holes : ∀ expr, TemplatePart.hole expr ∈ template → Placeholder expr

theorem normal_nil : Normal [] where
  filled := by simp
  apart := by simp
  holes := by simp

theorem Normal.tail {part : TemplatePart Expr} {rest : Template} (normal : Normal (part :: rest)) :
    Normal rest where
  filled := fun text member => normal.filled text (List.mem_cons_of_mem _ member)
  apart := fun before first second after split =>
    normal.apart (part :: before) first second after (by rw [split, List.cons_append])
  holes := fun expr member => normal.holes expr (List.mem_cons_of_mem _ member)

theorem Normal.not_text {text next : String} {more : Template} :
    ¬ Normal (.text text :: .text next :: more) :=
  fun normal => normal.apart [] text next more rfl

theorem Normal.hole {expr : Expr} {rest : Template} (placeholder : Placeholder expr)
    (normal : Normal rest) : Normal (.hole expr :: rest) where
  filled := by simpa using normal.filled
  apart := by
    rintro (_ | ⟨part, before⟩) first second after split
    · cases split
    · exact normal.apart before first second after (List.cons.inj split).2
  holes := by simpa [placeholder] using normal.holes

theorem Normal.text {text : String} {rest : Template} (nonempty : text ≠ "")
    (apart : ∀ next more, rest ≠ .text next :: more) (normal : Normal rest) :
    Normal (.text text :: rest) where
  filled := by simpa [nonempty] using normal.filled
  apart := by
    rintro (_ | ⟨part, before⟩) first second after split
    · exact apart second after (List.cons.inj split).2
    · exact normal.apart before first second after (List.cons.inj split).2
  holes := by simpa using normal.holes

/-- The placeholder without the locations of its expressions. -/
def unlocatedHole : Expr → Expr
  | .attribute target path _ => .attribute (target.relocate .unknown) path .unknown
  | expr => expr.relocate .unknown

/-- The part without the locations in it. -/
def unlocatedPart : TemplatePart Expr → TemplatePart Expr
  | .text text => .text text
  | .hole expr => .hole (unlocatedHole expr)

/-- The template without the locations in it. -/
def unlocated (template : Template) : Template :=
  template.map unlocatedPart

theorem unlocated_alike {template : Template} (normal : Normal template) :
    Expr.alikeParts (unlocated template) template = true := by
  induction template with
  | nil => simp [unlocated, Expr.alikeParts]
  | cons part rest ih =>
    have later := ih normal.tail
    rw [unlocated, List.map_cons, ← unlocated]
    cases part with
    | text text => simpa [unlocatedPart, Expr.alikeParts] using later
    | hole expr =>
      rw [unlocatedPart, Expr.alikeParts]
      refine Bool.and_eq_true_iff.mpr ⟨?_, later⟩
      cases normal.holes expr List.mem_cons_self with
      | whole isName => simp [unlocatedHole, Expr.relocate, Expr.alike]
      | part isName read => simp [unlocatedHole, Expr.relocate, Expr.alike]

/-! ## What is read is normal -/

/-- A placeholder is a name, or a name and a path with a hash between them. -/
theorem eq_of_readHole {inner : List Char} {expr : Expr} (read : readHole inner = .ok expr) :
    (Path.isName inner = true ∧ expr = .reference (String.ofList inner) .unknown) ∨
    ∃ name text path, inner = name ++ '#' :: text ∧ Path.isName name = true ∧
      Path.parse (String.ofList text) = .ok path ∧
      expr = .attribute (.reference (String.ofList name) .unknown) path .unknown := by
  have whole := List.takeWhile_append_dropWhile (p := (· != '#')) (l := inner)
  simp only [readHole] at read
  split at read
  next isName =>
    split at read
    next nothing =>
      cases read
      rw [nothing, List.append_nil] at whole
      rw [whole] at isName ⊢
      exact .inl ⟨isName, rfl⟩
    next mark text rest =>
      split at read
      next path parsed =>
        cases read
        obtain rfl : mark = '#' := by
          have first := List.head?_dropWhile_not (· != '#') inner
          simpa [rest] using first
        exact .inr ⟨_, text, path, by rw [← rest, whole], isName, parsed, rfl⟩
      · cases read
  · cases read

theorem placeholder_of_readHole {text : List Char} {expr : Expr} (read : readHole text = .ok expr) :
    Placeholder expr ∧ unlocatedHole expr = expr := by
  rcases eq_of_readHole read with ⟨isName, rfl⟩ | ⟨name, spelled, path, rfl, isName, parsed, rfl⟩
  · exact ⟨.whole (by rwa [String.toList_ofList]), rfl⟩
  · exact ⟨.part (by rwa [String.toList_ofList]) parsed, rfl⟩

/-- The parts for the pieces that were read. -/
abbrev ofPieces (pieces : Pieces) : Template :=
  pieces.map ofPiece

/-- The pieces are those of a normal template without locations. -/
structure Plain (pieces : Pieces) : Prop where
  normal : Normal (ofPieces pieces)
  bare : unlocated (ofPieces pieces) = ofPieces pieces

theorem Plain.consChar {pieces : Pieces} (plain : Plain pieces) (c : Char) :
    Plain (consChar c pieces) := by
  have visible : ∀ text, String.ofList (c :: text) ≠ "" := by
    intro text empty
    simpa using congrArg String.toList empty
  obtain ⟨normal, bare⟩ := plain
  rcases pieces with _ | ⟨text | expr, rest⟩
  · exact ⟨.text (visible []) (by simp) normal_nil, rfl⟩
  · refine ⟨.text (visible text) ?_ normal.tail,
      congrArg (TemplatePart.text (String.ofList (c :: text)) :: ·) (List.cons.inj bare).2⟩
    intro next more split
    rw [ofPieces, List.map_cons, split] at normal
    exact Normal.not_text normal
  · exact ⟨.text (visible []) (by simp [ofPiece]) normal,
      congrArg (TemplatePart.text (String.ofList [c]) :: ·) bare⟩

theorem Plain.hole {expr : Expr} {pieces : Pieces} (placeholder : Placeholder expr)
    (unplaced : unlocatedHole expr = expr) (plain : Plain pieces) : Plain (.inr expr :: pieces) := by
  refine ⟨.hole placeholder plain.normal, ?_⟩
  change TemplatePart.hole (unlocatedHole expr) :: unlocated (ofPieces pieces) = _
  rw [unplaced, plain.bare]
  rfl

theorem plain_of_map_consChar {result : Except TemplateFault Pieces} {pieces : Pieces} {c : Char}
    (further : ∀ {others}, result = .ok others → Plain others)
    (accepted : result.map (consChar c) = .ok pieces) : Plain pieces := by
  obtain ⟨others, read, rfl⟩ := exists_of_map_eq_ok accepted
  exact (further read).consChar c

/-- What was read is a normal template without locations, also when a placeholder is open. -/
theorem plain_of_read {opened : Option (List Char)} {text : List Char} {pieces : Pieces}
    (accepted : read opened text = .ok pieces) : Plain pieces := by
  fun_induction read opened text generalizing pieces with
  | case1 =>
    cases accepted
    exact ⟨normal_nil, rfl⟩
  | case2 rest ih => exact plain_of_map_consChar ih accepted
  | case3 rest ih => exact plain_of_map_consChar ih accepted
  | case4 => cases accepted
  | case5 rest other ih => exact ih accepted
  | case6 c rest _ _ _ _ ih => exact plain_of_map_consChar ih accepted
  | case7 => cases accepted
  | case8 => cases accepted
  | case9 before rest expr found ih =>
    obtain ⟨others, further, rfl⟩ := exists_of_map_eq_ok accepted
    obtain ⟨placeholder, unplaced⟩ := placeholder_of_readHole found
    exact (ih further).hole placeholder unplaced
  | case10 before c rest other ih => exact ih accepted

theorem exists_pieces_of_parse {source : String} {template : Template}
    (accepted : parse source = .ok template) :
    ∃ pieces, read none source.toList = .ok pieces ∧ ofPieces pieces = template := by
  unfold parse at accepted
  split at accepted
  next pieces found =>
    cases accepted
    exact ⟨pieces, found, rfl⟩
  · cases accepted

theorem normal_of_parse {source : String} {template : Template}
    (accepted : parse source = .ok template) :
    Normal template ∧ unlocated template = template := by
  obtain ⟨pieces, found, rfl⟩ := exists_pieces_of_parse accepted
  obtain ⟨normal, bare⟩ := plain_of_read found
  exact ⟨normal, bare⟩

/-! ## What is printed is read -/

theorem read_of_ne {c : Char} (opening : c ≠ '{') (closing : c ≠ '}') (rest : List Char) :
    read none (c :: rest) = (read none rest).map (consChar c) := by
  rw [read] <;> intros <;> contradiction

/-- A text with its braces doubled is read as it, in front of whatever follows. -/
theorem read_doubleBraces (text rest : List Char) :
    read none (Expr.doubleBraces text ++ rest) =
      (read none rest).map fun pieces => text.foldr consChar pieces := by
  induction text with
  | nil =>
    simp only [Expr.doubleBraces, List.flatMap_nil, List.nil_append, List.foldr_nil]
    cases read none rest <;> rfl
  | cons c others ih =>
    have joined : (read none (Expr.doubleBraces others ++ rest)).map (consChar c) =
        (read none rest).map fun pieces => (c :: others).foldr consChar pieces := by
      rw [ih]
      cases read none rest <;> rfl
    rw [← joined, Expr.doubleBraces, List.flatMap_cons, List.append_assoc, ← Expr.doubleBraces]
    split
    next brace =>
      rcases brace with rfl | rfl
      · exact read.eq_2 _
      · exact read.eq_3 _
    next other =>
      obtain ⟨opening, closing⟩ := not_or.mp other
      exact read_of_ne opening closing _

/-- A text that is not empty becomes one piece, if what follows does not begin with a text. -/
theorem foldr_consChar {text : List Char} (nonempty : text ≠ []) {pieces : Pieces}
    (apart : ∀ next more, pieces ≠ .inl next :: more) :
    text.foldr consChar pieces = .inl text :: pieces := by
  induction text with
  | nil => exact absurd rfl nonempty
  | cons c rest ih =>
    rw [List.foldr_cons]
    cases rest with
    | nil =>
      rcases pieces with _ | ⟨next | expr, more⟩
      · rfl
      · exact absurd rfl (apart next more)
      · rfl
    | cons other more => rw [ih (List.cons_ne_nil _ _), consChar]

/-- A placeholder is read up to the brace that closes it. -/
theorem read_closing {before inner : List Char} {expr : Expr} (opened : '}' ∉ inner)
    (hole : readHole (before ++ inner) = .ok expr) (rest : List Char) :
    read (some before) (inner ++ '}' :: rest) = (read none rest).map (.inr expr :: ·) := by
  induction inner generalizing before with
  | nil =>
    rw [List.append_nil] at hole
    rw [List.nil_append, read, hole]
  | cons c others ih =>
    have other : c ≠ '}' := fun same => opened (by simp [same])
    have later : '}' ∉ others := fun member => opened (List.mem_cons_of_mem c member)
    rw [List.append_cons] at hole
    rw [List.cons_append, read]
    · exact ih later hole
    · exact other

/-- The text between the braces of a placeholder: it begins with a name and is read as the
expression. -/
structure HoleText (inner : List Char) (expr : Expr) : Prop where
  start : ∃ c more, inner = c :: more ∧ Path.isNameChar c = true
  opened : '}' ∉ inner
  read : readHole inner = .ok expr

theorem HoleText.read_none {inner : List Char} {expr : Expr} (text : HoleText inner expr)
    (rest : List Char) :
    Template.read none ('{' :: (inner ++ '}' :: rest)) =
      (Template.read none rest).map (.inr expr :: ·) := by
  obtain ⟨c, more, split, name⟩ := text.start
  have hole : readHole ([] ++ inner) = .ok expr := text.read
  rw [← read_closing text.opened hole rest, split]
  rw [List.cons_append, Template.read]
  intro next same
  obtain ⟨rfl, -⟩ := List.cons.inj same
  exact absurd name (by decide)

theorem ne_hash_of_isName {name : List Char} (isName : Path.isName name = true) :
    ∀ c ∈ name, (c != '#') = true := by
  intro c member
  rw [bne_iff_ne]
  rintro rfl
  exact absurd ((Path.isName_iff.mp isName).2 _ member) (by decide)

theorem readHole_name {name : List Char} (isName : Path.isName name = true) :
    readHole name = .ok (.reference (String.ofList name) .unknown) := by
  have whole : name.takeWhile (· != '#') = name :=
    List.takeWhile_eq_self_iff.mpr (ne_hash_of_isName isName)
  have nothing : name.dropWhile (· != '#') = [] :=
    List.dropWhile_eq_nil_iff.mpr (ne_hash_of_isName isName)
  simp only [readHole, whole, nothing, isName, if_true]

theorem readHole_attribute {name text : List Char} (isName : Path.isName name = true) {path : Path}
    (parsed : Path.parse (String.ofList text) = .ok path) :
    readHole (name ++ '#' :: text) =
      .ok (.attribute (.reference (String.ofList name) .unknown) path .unknown) := by
  have apart := ne_hash_of_isName isName
  have front : (name ++ '#' :: text).takeWhile (· != '#') = name := by
    rw [List.takeWhile_append_of_pos apart, List.takeWhile_cons_of_neg (by decide), List.append_nil]
  have back : (name ++ '#' :: text).dropWhile (· != '#') = '#' :: text := by
    rw [List.dropWhile_append_of_pos apart, List.dropWhile_cons_of_neg (by decide)]
  simp only [readHole, front, back, isName, if_true, parsed]

/-- What is read as a placeholder begins with a name and holds no brace that closes it. -/
theorem holeText_of_readHole {inner : List Char} {expr : Expr} (read : readHole inner = .ok expr) :
    HoleText inner expr := by
  obtain ⟨name, rest, rfl, isName, outside⟩ : ∃ name rest, inner = name ++ rest ∧
      Path.isName name = true ∧ '}' ∉ rest := by
    rcases eq_of_readHole read with ⟨isName, -⟩ | ⟨name, text, path, rfl, isName, parsed, -⟩
    · exact ⟨inner, [], (List.append_nil inner).symm, isName, List.not_mem_nil⟩
    · have apart := (Path.parse_eq_ok_iff.mp parsed).not_mem (c := '}')
        ⟨by decide, by decide, by decide, by decide⟩ (by decide)
      rw [String.toList_ofList] at apart
      exact ⟨name, '#' :: text, rfl, isName, by simp [apart]⟩
  obtain ⟨nonempty, each⟩ := Path.isName_iff.mp isName
  obtain ⟨c, more, rfl⟩ := List.exists_cons_of_ne_nil nonempty
  refine ⟨⟨c, more ++ rest, List.cons_append, each c List.mem_cons_self⟩, ?_, read⟩
  rw [List.mem_append, not_or]
  exact ⟨Path.not_mem_of_isNameChar each (by decide), outside⟩

/-- What is printed for a placeholder is read as it. -/
theorem holeText_display {expr : Expr} (placeholder : Placeholder expr) :
    HoleText expr.display.toList (unlocatedHole expr) := by
  cases placeholder with
  | @whole name location isName =>
    have read := readHole_name isName
    rw [String.ofList_toList] at read
    exact holeText_of_readHole read
  | @part name source path location place isName accepted =>
    obtain ⟨nonempty, named⟩ := (Path.parse_eq_ok_iff.mp accepted).named
    have again := Path.parse_display nonempty named
    rw [← String.ofList_toList (s := path.display)] at again
    have read := readHole_attribute isName again
    rw [String.ofList_toList] at read
    have shown : (Expr.attribute (.reference name location) path place).display.toList =
        name.toList ++ '#' :: path.display.toList := by
      simp [Expr.display]
    rw [shown]
    exact holeText_of_readHole read

/-- The pieces that a template is read as. -/
def toPiece : TemplatePart Expr → List Char ⊕ Expr
  | .text text => .inl text.toList
  | .hole expr => .inr (unlocatedHole expr)

theorem ofPieces_toPiece (template : Template) :
    ofPieces (template.map toPiece) = unlocated template := by
  rw [ofPieces, unlocated, List.map_map]
  refine List.map_congr_left fun part _ => ?_
  cases part with
  | text text => simp [toPiece, ofPiece, unlocatedPart]
  | hole expr => rfl

theorem read_displayParts {template : Template} (normal : Normal template) :
    read none (Expr.displayParts template).toList = .ok (template.map toPiece) := by
  induction template with
  | nil => simp [Expr.displayParts, read]
  | cons part rest ih =>
    have later := ih normal.tail
    cases part with
    | text text =>
      have nonempty : text.toList ≠ [] := by
        intro empty
        exact normal.filled text List.mem_cons_self (String.toList_inj.mp empty)
      have apart : ∀ next more, rest.map toPiece ≠ .inl next :: more := by
        intro next more split
        obtain ⟨head, tail, rfl, same, -⟩ := List.map_eq_cons_iff.mp split
        cases head with
        | text other => exact Normal.not_text normal
        | hole expr => cases same
      rw [Expr.displayParts, String.toList_append, String.toList_ofList, read_doubleBraces, later,
        List.map_cons, toPiece, ← foldr_consChar nonempty apart]
      rfl
    | hole expr =>
      have text := holeText_display (normal.holes expr List.mem_cons_self)
      have shown : (Expr.displayParts (.hole expr :: rest)).toList =
          '{' :: (expr.display.toList ++ '}' :: (Expr.displayParts rest).toList) := by
        simp [Expr.displayParts]
      rw [shown, text.read_none, later]
      rfl

/-- What is printed for a normal template is read as it, but for the locations. -/
theorem parse_displayParts {template : Template} (normal : Normal template) :
    parse (Expr.displayParts template) = .ok (unlocated template) := by
  rw [parse, read_displayParts normal, ← ofPieces_toPiece]

/-- The text without its first and last characters. -/
def unquoted (text : String) : String :=
  String.ofList text.toList.tail.dropLast

theorem unquoted_display (template : Template) (location : Location) :
    unquoted (Expr.template template location).display = Expr.displayParts template := by
  simp [unquoted, Expr.display]

/-- What is read as a template is normal, and what is printed for a normal template is read as it,
but for the locations. So a template that was read is printed as a text that is read as it. -/
theorem parse_inverts_display :
    (∀ source template, parse source = .ok template → Normal template) ∧
    (∀ template location, Normal template →
      parse (unquoted (Expr.template template location).display) = .ok (unlocated template) ∧
      Expr.alikeParts (unlocated template) template = true) ∧
    ∀ source template location, parse source = .ok template →
      parse (unquoted (Expr.template template location).display) = .ok template := by
  refine ⟨fun source template read => (normal_of_parse read).1, ?_, ?_⟩
  · intro template location normal
    rw [unquoted_display]
    exact ⟨parse_displayParts normal, unlocated_alike normal⟩
  · intro source template location read
    obtain ⟨normal, plain⟩ := normal_of_parse read
    rw [unquoted_display, parse_displayParts normal, plain]

/-- A text that ends in a brace, an attribute of the region, and a text that begins with a brace. -/
def bracedRegion : Template :=
  [.text "x\x7b", .hole (.attribute (.reference "Region" .unknown) [.field "id"] .unknown),
    .text "\x7d"]

theorem parse_inverts_display_of_bracedRegion :
    Normal bracedRegion ∧ Expr.alikeParts (unlocated bracedRegion) bracedRegion = true ∧
    unquoted (Expr.template bracedRegion .unknown).display =
      "x\x7b\x7b\x7bRegion#id\x7d\x7d\x7d" ∧
    parse (unquoted (Expr.template bracedRegion .unknown).display) = .ok bracedRegion := by
  obtain ⟨normal, forth, back⟩ := parse_inverts_display
  have read : parse "x\x7b\x7b\x7bRegion#id\x7d\x7d\x7d" = .ok bracedRegion := rfl
  exact ⟨normal _ _ read, (forth _ .unknown (normal _ _ read)).2, by decide, back _ _ _ read⟩

end EndpointResolution.Template
