import EndpointResolution.Proofs.Numerals
import EndpointResolution.Proofs.Texts
import EndpointResolution.Text.HostLabel

/-!
Host labels. What is accepted are labels of letters, hyphens and decimal digits of any script. A
label of DNS has ASCII digits only, so that the accepted texts are the labels of DNS as long as they
are ASCII.
-/
namespace EndpointResolution.Text

/-- The text is a label with digits of a kind: one to sixty-three ASCII letters, digits and hyphens,
of which the first is no hyphen. -/
structure LabelWith (digit : Char → Bool) (text : List Char) : Prop where
  nonempty : 1 ≤ text.length
  short : text.length ≤ 63
  each : ∀ c ∈ text, c.isAlpha = true ∨ digit c = true ∨ c = '-'
  first : text.head? ≠ some '-'

/-- The text is a label of DNS. -/
def DnsLabel (text : List Char) : Prop :=
  LabelWith Char.isDigit text

theorem isLabelPart_iff {c : Char} :
    isLabelPart c = true ↔ c.isAlpha = true ∨ isDecimalDigit c = true ∨ c = '-' := by
  simp [isLabelPart, isLabelStart, or_assoc]

/-- A label starts with the characters that are no hyphens. -/
theorem isLabelStart_iff {c : Char} :
    isLabelStart c = true ↔ isLabelPart c = true ∧ c ≠ '-' := by
  have hyphen : isLabelStart '-' = false := by decide
  constructor
  · intro start
    refine ⟨by simp [isLabelPart, start], ?_⟩
    rintro rfl
    rw [hyphen] at start
    cases start
  · rintro ⟨part, other⟩
    simpa [isLabelPart, other] using part

theorem isHostLabel_iff {text : List Char} :
    isHostLabel text = true ↔ LabelWith isDecimalDigit text := by
  cases text with
  | nil =>
    constructor
    · intro accepted
      cases accepted
    · intro label
      exact absurd label.nonempty (by simp)
  | cons first rest =>
    rw [isHostLabel, Bool.and_eq_true, Bool.and_eq_true, List.all_eq_true, decide_eq_true_eq,
      isLabelStart_iff]
    constructor
    · rintro ⟨⟨⟨start, other⟩, others⟩, short⟩
      have each : ∀ c ∈ first :: rest, isLabelPart c = true :=
        List.forall_mem_cons.mpr ⟨start, others⟩
      exact {
        nonempty := by simp
        short := Nat.succ_le_succ short
        each := fun c member => isLabelPart_iff.mp (each c member)
        first := by simpa using other }
    · intro label
      have each : ∀ c ∈ first :: rest, isLabelPart c = true :=
        fun c member => isLabelPart_iff.mpr (label.each c member)
      obtain ⟨start, others⟩ := List.forall_mem_cons.mp each
      have other : first ≠ '-' := by simpa using label.first
      have short : rest.length ≤ 62 := Nat.le_of_succ_le_succ label.short
      exact ⟨⟨⟨start, other⟩, others⟩, short⟩

theorem isDecimalDigit_of_isAscii {c : Char} (ascii : isAscii c = true) :
    isDecimalDigit c = c.isDigit := by
  have below := isAscii_iff.mp ascii
  have others : ∀ range ∈ decimalDigits.tail, 128 ≤ range.1 := by decide
  have first : decimalDigits = (0x30, 0x39) :: decimalDigits.tail := rfl
  rw [Bool.eq_iff_iff, isDecimalDigit, Ranges.contains_iff, isDigit_iff, first]
  constructor
  · rintro ⟨range, among, lower, upper⟩
    rcases List.mem_cons.mp among with rfl | other
    · exact ⟨lower, upper⟩
    · have above := others range other
      omega
  · intro bounds
    exact ⟨(0x30, 0x39), List.mem_cons_self, bounds⟩

theorem DnsLabel.isAscii {text : List Char} (label : DnsLabel text) :
    ∀ c ∈ text, isAscii c = true := by
  intro c member
  rw [isAscii_iff]
  rcases label.each c member with alpha | digit | rfl
  · have letter : (c.isUpper || c.isLower) = true := alpha
    rcases Bool.or_eq_true_iff.mp letter with upper | lower
    · have bounds : 65 ≤ c.toNat ∧ c.toNat ≤ 90 := of_decide_eq_true upper
      omega
    · have bound : c.toNat ≤ 122 := of_decide_eq_true (Bool.and_eq_true_iff.mp lower).2
      omega
  · have bounds := bounds_of_isDigit digit
    omega
  · decide

/-- The labels of DNS are the accepted texts of ASCII characters. -/
theorem dnsLabel_iff {text : List Char} :
    DnsLabel text ↔ isHostLabel text = true ∧ ∀ c ∈ text, isAscii c = true := by
  have sameDigits : (∀ c ∈ text, Text.isAscii c = true) →
      ∀ c ∈ text, isDecimalDigit c = c.isDigit :=
    fun ascii c member => isDecimalDigit_of_isAscii (ascii c member)
  rw [isHostLabel_iff]
  constructor
  · intro label
    refine ⟨⟨label.nonempty, label.short, ?_, label.first⟩, label.isAscii⟩
    intro c member
    rw [sameDigits label.isAscii c member]
    exact label.each c member
  · rintro ⟨label, ascii⟩
    refine ⟨label.nonempty, label.short, ?_, label.first⟩
    intro c member
    rw [← sameDigits ascii c member]
    exact label.each c member

theorem isHostName_false (text : String) : isHostName text false = isHostLabel text.toList := rfl

theorem isHostName_true_iff {text : String} :
    isHostName text true = true ↔ ∀ piece ∈ text.toList.splitOn '.', isHostLabel piece = true := by
  rw [isHostName, if_pos rfl, List.all_eq_true, pieces_eq_splitOn]

theorem LabelWith.not_mem_dot {text : List Char} (label : LabelWith isDecimalDigit text) :
    '.' ∉ text := by
  intro member
  exact absurd (label.each '.' member) (by decide)

/-- All pieces of a text are labels of DNS if they are accepted and the text is ASCII. -/
theorem dnsLabels_iff {text : String} :
    (∀ piece ∈ text.toList.splitOn '.', DnsLabel piece) ↔
      isHostName text true = true ∧ ∀ c ∈ text.toList, isAscii c = true := by
  have dot : isAscii '.' = true := by decide
  have characters := forall_mem_pieces_iff (isAscii · = true) dot text.toList
  rw [pieces_eq_splitOn] at characters
  rw [← characters, isHostName_true_iff]
  constructor
  · intro labels
    exact ⟨fun piece among => (dnsLabel_iff.mp (labels piece among)).1,
      fun piece among => (dnsLabel_iff.mp (labels piece among)).2⟩
  · rintro ⟨accepted, ascii⟩ piece among
    exact dnsLabel_iff.mpr ⟨accepted piece among, ascii piece among⟩

/-- Accepted are exactly the labels of letters, hyphens and digits of any script, and with dots the
texts whose pieces are accepted: one label, or accepted texts with a dot between them. This is to
accept exactly the labels of DNS if and only if what is accepted is ASCII. -/
theorem isHostName_exact (text : String) :
    ((isHostName text false = true ↔ LabelWith isDecimalDigit text.toList) ∧
      (isHostName text true = true ↔
        ∀ piece ∈ text.toList.splitOn '.', LabelWith isDecimalDigit piece)) ∧
    ((isHostName text false = true ↔ DnsLabel text.toList) ↔
      (isHostName text false = true → ∀ c ∈ text.toList, isAscii c = true)) ∧
    ((isHostName text true = true ↔ ∀ piece ∈ text.toList.splitOn '.', DnsLabel piece) ↔
      (isHostName text true = true → ∀ c ∈ text.toList, isAscii c = true)) ∧
    (isHostName text false = true → isHostName text true = true) ∧
    ∀ other : String, isHostName (text ++ "." ++ other) true = true ↔
      isHostName text true = true ∧ isHostName other true = true := by
  refine ⟨⟨isHostLabel_iff, ?_⟩, ?_, ?_, ?_, ?_⟩
  · simp only [isHostName_true_iff, isHostLabel_iff]
  · rw [isHostName_false, dnsLabel_iff]
    tauto
  · rw [dnsLabels_iff]
    tauto
  · intro accepted
    have clean := (isHostLabel_iff.mp accepted).not_mem_dot
    rw [isHostName_true_iff, ← pieces_eq_splitOn, pieces_of_not_mem clean]
    exact List.forall_mem_singleton.mpr accepted
  · intro other
    have whole : (text ++ "." ++ other).toList = text.toList ++ '.' :: other.toList := by simp
    simp only [isHostName_true_iff, whole, ← pieces_eq_splitOn, pieces_append,
      List.forall_mem_append]

/-- A digit of another script is accepted, and no label of DNS. -/
theorem not_dnsLabel_of_accepted :
    ¬ ∀ text : String, isHostName text false = true ↔ DnsLabel text.toList := by
  intro claim
  have label := (claim "\u0663").mp (by decide)
  have ascii := label.isAscii '\u0663' (by simp)
  cases ascii

end EndpointResolution.Text
