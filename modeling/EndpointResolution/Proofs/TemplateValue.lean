import EndpointResolution.Proofs.Sequence
import EndpointResolution.Proofs.TemplateText

/-!
The values of templates. Where a source has been read nothing of it is pending, whatever it ends
with, so that two sources in a row are read one after the other. Texts that meet at the seam become
one part, which changes no value: the value of the whole is that of the one followed by that of the
other, and the text of a placeholder stands in it as it is.
-/
namespace EndpointResolution.Template

/-- Puts a piece before what follows it, texts joined. -/
def consPiece : List Char ⊕ Expr → Pieces → Pieces
  | .inl text, pieces => text.foldr consChar pieces
  | .inr expr, pieces => .inr expr :: pieces

/-- The pieces of a source and of the one after it. -/
def joined (first second : Pieces) : Pieces :=
  first.foldr consPiece second

theorem joined_consChar (c : Char) (first second : Pieces) :
    joined (consChar c first) second = consChar c (joined first second) := by
  rcases first with _ | ⟨text | expr, rest⟩ <;> rfl

theorem map_consChar_of_joined {result whole later : Except TemplateFault Pieces} {first : Pieces}
    {c : Char}
    (further : ∀ {others}, result = .ok others → whole = later.map (joined others))
    (accepted : result.map (consChar c) = .ok first) :
    whole.map (consChar c) = later.map (joined first) := by
  obtain ⟨others, read, rfl⟩ := exists_of_map_eq_ok accepted
  rw [further read]
  cases later with
  | error fault => rfl
  | ok second => exact congrArg Except.ok (joined_consChar c others second).symm

/-- A source is read up to its end whatever comes after it, also when a placeholder is open, and
what comes after it is read as it is alone. -/
theorem read_append {opened : Option (List Char)} {text : List Char} {first : Pieces}
    (accepted : read opened text = .ok first) (rest : List Char) :
    read opened (text ++ rest) = (read none rest).map (joined first) := by
  fun_induction read opened text generalizing first with
  | case1 =>
    cases accepted
    rw [List.nil_append]
    cases read none rest <;> rfl
  | case2 text ih =>
    rw [List.cons_append, List.cons_append, read.eq_2]
    exact map_consChar_of_joined ih accepted
  | case3 text ih =>
    rw [List.cons_append, List.cons_append, read.eq_3]
    exact map_consChar_of_joined ih accepted
  | case4 => cases accepted
  | case5 text other ih =>
    -- A brace at the very end opens a placeholder that is not closed.
    cases text with
    | nil => cases accepted
    | cons c more =>
      rw [List.cons_append, List.cons_append, read]
      · exact ih accepted
      · intro next same
        exact other more (by rw [(List.cons.inj same).1])
  | case6 c text _ _ closing opening ih =>
    rw [List.cons_append, read_of_ne opening closing]
    exact map_consChar_of_joined ih accepted
  | case7 => cases accepted
  | case8 => cases accepted
  | case9 before text expr found ih =>
    obtain ⟨others, further, rfl⟩ := exists_of_map_eq_ok accepted
    rw [List.cons_append, read, found]
    simp only [ih further]
    cases read none rest <;> rfl
  | case10 before c text other ih =>
    rw [List.cons_append, read]
    · exact ih accepted
    · exact other

/-- A text and then another one, unless one of them is missing. -/
def followedBy (first second : Except EvaluationError String) : Except EvaluationError String :=
  first.bind fun text => second.map (text ++ ·)

@[simp] theorem ok_followedBy_ok (text other : String) :
    followedBy (.ok text) (.ok other) = .ok (text ++ other) := rfl

theorem empty_followedBy (result : Except EvaluationError String) :
    followedBy (.ok "") result = result := by
  cases result <;> simp [followedBy, Except.bind, Except.map]

theorem followedBy_assoc (first second third : Except EvaluationError String) :
    followedBy (followedBy first second) third = followedBy first (followedBy second third) := by
  cases first with
  | error failure => rfl
  | ok text =>
    cases second with
    | error failure => rfl
    | ok other =>
      cases third with
      | error failure => rfl
      | ok last => exact congrArg Except.ok (String.append_assoc ..)

section

variable (scope : Scope Value)

/-- The value of the pieces of a template. -/
def evalPieces (pieces : Pieces) : Except EvaluationError String :=
  Expr.evalParts scope (ofPieces pieces)

theorem evalPieces_text (text : List Char) (rest : Pieces) :
    evalPieces scope (.inl text :: rest) =
      followedBy (.ok (String.ofList text)) (evalPieces scope rest) := by
  simp only [evalPieces, ofPieces, List.map_cons, ofPiece, Expr.evalParts]
  rfl

theorem evalPieces_hole (expr : Expr) (rest : Pieces) :
    evalPieces scope (.inr expr :: rest) =
      followedBy (expr.evalString scope) (evalPieces scope rest) :=
  Expr.evalParts_hole scope expr (ofPieces rest)

/-- Which text a character belongs to changes no value. -/
theorem evalPieces_consChar (c : Char) (pieces : Pieces) :
    evalPieces scope (consChar c pieces) =
      followedBy (.ok (String.ofList [c])) (evalPieces scope pieces) := by
  rcases pieces with _ | ⟨text | expr, rest⟩
  · rfl
  · have joint : String.ofList (c :: text) = String.ofList [c] ++ String.ofList text := by
      rw [← String.ofList_append, List.singleton_append]
    rw [consChar, evalPieces_text, evalPieces_text, ← followedBy_assoc, ok_followedBy_ok, joint]
  · rfl

theorem evalPieces_foldr_consChar (text : List Char) (pieces : Pieces) :
    evalPieces scope (text.foldr consChar pieces) =
      followedBy (.ok (String.ofList text)) (evalPieces scope pieces) := by
  induction text with
  | nil => exact (empty_followedBy _).symm
  | cons c rest ih =>
    have joint : String.ofList (c :: rest) = String.ofList [c] ++ String.ofList rest := by
      rw [← String.ofList_append, List.singleton_append]
    rw [List.foldr_cons, evalPieces_consChar, ih, ← followedBy_assoc, ok_followedBy_ok, joint]

/-- The value of two sources in a row is the value of the one and then that of the other. -/
theorem evalPieces_joined (first second : Pieces) :
    evalPieces scope (joined first second) =
      followedBy (evalPieces scope first) (evalPieces scope second) := by
  induction first with
  | nil => exact (empty_followedBy _).symm
  | cons piece rest ih =>
    cases piece with
    | inl text =>
      calc evalPieces scope (text.foldr consChar (joined rest second))
        _ = followedBy (.ok (String.ofList text)) (evalPieces scope (joined rest second)) :=
          evalPieces_foldr_consChar ..
        _ = _ := by rw [ih, evalPieces_text, followedBy_assoc]
    | inr expr =>
      calc evalPieces scope (.inr expr :: joined rest second)
        _ = followedBy (expr.evalString scope) (evalPieces scope (joined rest second)) :=
          evalPieces_hole ..
        _ = _ := by rw [ih, evalPieces_hole, followedBy_assoc]

end

/-- Two templates in a row are a template, and its value is the value of the one and then that of
the other. -/
theorem parse_append {source other : String} {first second : Template}
    (parsed : parse source = .ok first) (later : parse other = .ok second) :
    ∃ whole, parse (source ++ other) = .ok whole ∧ ∀ scope, Expr.evalParts scope whole =
      followedBy (Expr.evalParts scope first) (Expr.evalParts scope second) := by
  obtain ⟨pieces, read, rfl⟩ := exists_pieces_of_parse parsed
  obtain ⟨others, further, rfl⟩ := exists_pieces_of_parse later
  refine ⟨ofPieces (joined pieces others), ?_, fun scope => evalPieces_joined scope pieces others⟩
  rw [parse, String.toList_append, read_append read, further]
  rfl

/-- A template without placeholders has its text as its value. -/
theorem evalParts_of_isStatic {template : Template} (static : isStatic template = true)
    (scope : Scope Value) : Expr.evalParts scope template = .ok (staticText template) := by
  induction template with
  | nil => rfl
  | cons part rest ih =>
    simp only [isStatic, List.all_cons, Bool.and_eq_true] at static
    cases part with
    | text text =>
      rw [Expr.evalParts, ih static.2]
      simp [staticText, Except.map]
    | hole expr => cases static.1

/-- The expression for a source has the value of the template, also where it is a plain string. -/
theorem eval_of_ofTemplate {source : String} {template : Template}
    (parsed : parse source = .ok template) :
    ∃ expr, Expr.ofTemplate source = .ok expr ∧ ∀ scope location,
      expr.eval scope = (Expr.template template location).eval scope := by
  rw [Expr.ofTemplate, parsed]
  by_cases static : isStatic template = true
  · refine ⟨.string (staticText template), by simp only [static, if_true], fun scope location => ?_⟩
    rw [Expr.string, Expr.eval, Expr.eval, evalParts_of_isStatic static]
    rfl
  · refine ⟨.template template .unknown, by simp only [static, Bool.false_eq_true, if_false],
      fun scope location => ?_⟩
    rw [Expr.eval, Expr.eval]

/-- The expression for the source of a template. Its value is the text of the template. -/
structure StandsFor (expr : Expr) (source : String) (template : Template) : Prop where
  built : Expr.ofTemplate source = .ok expr
  eval_iff : ∀ scope text, expr.eval scope = .ok (.string text) ↔
    Expr.evalParts scope template = .ok text

theorem exists_standsFor {source : String} {template : Template}
    (parsed : parse source = .ok template) : ∃ expr, StandsFor expr source template := by
  obtain ⟨expr, built, same⟩ := eval_of_ofTemplate parsed
  refine ⟨expr, built, fun scope text => ?_⟩
  rw [same scope .unknown, Expr.eval, map_eq_ok_iff]
  simp

/-- A placeholder alone is a template, and its value is that of the expression. -/
theorem parse_hole {inner : String} {expr : Expr} (read : readHole inner.toList = .ok expr) :
    parse ("\x7b" ++ inner ++ "\x7d") = .ok [.hole expr] := by
  have source : ("\x7b" ++ inner ++ "\x7d").toList = '{' :: (inner.toList ++ '}' :: []) := by
    simp [String.toList_append]
  rw [parse, source, (holeText_of_readHole read).read_none]
  rfl

/-- The text with its braces doubled. -/
def escaped (text : String) : String :=
  String.ofList (Expr.doubleBraces text.toList)

theorem parse_escaped {text : String} (nonempty : text ≠ "") :
    parse (escaped text) = .ok [.text text] := by
  have visible : text.toList ≠ [] := fun empty => nonempty (String.toList_inj.mp empty)
  have read := read_doubleBraces text.toList []
  rw [List.append_nil] at read
  have joint : text.toList.foldr consChar [] = [.inl text.toList] :=
    foldr_consChar visible (by simp)
  rw [parse, escaped, String.toList_ofList, read]
  simp [Template.read, Except.map, joint, ofPiece]

/-- A text with its braces doubled is a template without placeholders for it. -/
theorem ofTemplate_escaped (text : String) :
    Expr.ofTemplate (escaped text) = .ok (.string text) := by
  by_cases empty : text = ""
  · rw [empty]
    rfl
  · rw [Expr.ofTemplate, parse_escaped empty]
    simp [isStatic, staticText]

/-- Templates compose. The expression for a source is there if it is a template, and has the value
of the template also where it is a plain string. Two templates in a row are one, and it has the
value of the one and then that of the other. With a placeholder between them the text of the
placeholder stands between the two values as it is, whatever braces it has. With its braces doubled
every text is a template for itself. -/
theorem templates_compose :
    (∀ source template, parse source = .ok template →
      ∃ expr, Expr.ofTemplate source = .ok expr ∧ ∀ scope location,
        expr.eval scope = (Expr.template template location).eval scope) ∧
    (∀ source other first second, parse source = .ok first → parse other = .ok second →
      ∃ template left right whole, parse (source ++ other) = .ok template ∧
        Expr.ofTemplate source = .ok left ∧ Expr.ofTemplate other = .ok right ∧
        Expr.ofTemplate (source ++ other) = .ok whole ∧
        ∀ scope text following, left.eval scope = .ok (.string text) →
          right.eval scope = .ok (.string following) →
          whole.eval scope = .ok (.string (text ++ following))) ∧
    (∀ source inner other first hole second, parse source = .ok first →
      readHole inner.toList = .ok hole → parse other = .ok second →
      ∃ left right whole, Expr.ofTemplate source = .ok left ∧ Expr.ofTemplate other = .ok right ∧
        Expr.ofTemplate (source ++ ("\x7b" ++ inner ++ "\x7d") ++ other) = .ok whole ∧
        ∀ scope text filling following, left.eval scope = .ok (.string text) →
          hole.eval scope = .ok (.string filling) → right.eval scope = .ok (.string following) →
          whole.eval scope = .ok (.string (text ++ filling ++ following))) ∧
    ∀ text, ∃ expr, Expr.ofTemplate (escaped text) = .ok expr ∧
      ∀ scope, expr.eval scope = .ok (.string text) := by
  refine ⟨fun source template => eval_of_ofTemplate, ?_, ?_, fun text => ?_⟩
  · intro source other first second parsed later
    obtain ⟨template, joint, evaluated⟩ := parse_append parsed later
    obtain ⟨left, leftFor⟩ := exists_standsFor parsed
    obtain ⟨right, rightFor⟩ := exists_standsFor later
    obtain ⟨whole, wholeFor⟩ := exists_standsFor joint
    refine ⟨template, left, right, whole, joint, leftFor.built, rightFor.built, wholeFor.built, ?_⟩
    intro scope text following leftText rightText
    rw [leftFor.eval_iff] at leftText
    rw [rightFor.eval_iff] at rightText
    rw [wholeFor.eval_iff, evaluated, leftText, rightText, ok_followedBy_ok]
  · intro source inner other first hole second parsed read later
    obtain ⟨opening, opened, evaluated⟩ := parse_append parsed (parse_hole read)
    obtain ⟨template, joint, evaluatedAll⟩ := parse_append opened later
    obtain ⟨left, leftFor⟩ := exists_standsFor parsed
    obtain ⟨right, rightFor⟩ := exists_standsFor later
    obtain ⟨whole, wholeFor⟩ := exists_standsFor joint
    refine ⟨left, right, whole, leftFor.built, rightFor.built, wholeFor.built, ?_⟩
    intro scope text filling following leftText filled rightText
    have alone : Expr.evalParts scope [.hole hole] = .ok filling := by
      rw [Expr.evalParts_hole, Expr.evalString, filled]
      exact congrArg Except.ok (String.append_empty ..)
    rw [leftFor.eval_iff] at leftText
    rw [rightFor.eval_iff] at rightText
    rw [wholeFor.eval_iff, evaluatedAll, evaluated, leftText, alone, rightText, ok_followedBy_ok,
      ok_followedBy_ok]
  · exact ⟨.string text, ofTemplate_escaped text, fun scope => by rw [Expr.string, Expr.eval]⟩

/-- A region whose text looks like a placeholder. -/
def bracedZone : Scope Value :=
  Scope.empty.insert "Region" (.string "\x7bZone\x7d")

/-- Braces at the end of a source, at the beginning of one and in the text of the region. -/
theorem templates_compose_of_bracedZone :
    (∃ expr, Expr.ofTemplate "a\x7b\x7b" = .ok expr ∧
      expr.eval bracedZone = .ok (.string "a\x7b")) ∧
    (∃ whole, Expr.ofTemplate ("a\x7b\x7b" ++ "\x7bRegion\x7d\x7d\x7d") = .ok whole ∧
      whole.eval bracedZone = .ok (.string "a\x7b\x7bZone\x7d\x7d")) ∧
    (∃ whole, Expr.ofTemplate ("a\x7b\x7b" ++ "\x7bRegion\x7d" ++ "\x7d\x7d") = .ok whole ∧
      whole.eval bracedZone = .ok (.string "a\x7b\x7bZone\x7d\x7d")) ∧
    ∃ expr, Expr.ofTemplate (escaped "\x7bZone\x7d") = .ok expr ∧
      expr.eval bracedZone = .ok (.string "\x7bZone\x7d") := by
  obtain ⟨alone, pairs, filled, doubled⟩ := templates_compose
  refine ⟨?_, ?_, ?_, ?_⟩
  · obtain ⟨expr, built, same⟩ := alone "a\x7b\x7b" _ rfl
    exact ⟨expr, built, (same bracedZone .unknown).trans rfl⟩
  · obtain ⟨_, left, right, whole, -, first, second, built, value⟩ :=
      pairs "a\x7b\x7b" "\x7bRegion\x7d\x7d\x7d" _ _ rfl rfl
    cases first
    cases second
    exact ⟨whole, built, value bracedZone "a\x7b" "\x7bZone\x7d\x7d" rfl rfl⟩
  · obtain ⟨left, right, whole, first, second, built, value⟩ :=
      filled "a\x7b\x7b" "Region" "\x7d\x7d" _ _ _ rfl rfl rfl
    cases first
    cases second
    exact ⟨whole, built, value bracedZone "a\x7b" "\x7bZone\x7d" "\x7d" rfl rfl rfl⟩
  · obtain ⟨expr, built, value⟩ := doubled "\x7bZone\x7d"
    exact ⟨expr, built, value bracedZone⟩

end EndpointResolution.Template
