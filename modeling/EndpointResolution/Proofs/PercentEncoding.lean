import EndpointResolution.Function.Text
import EndpointResolution.Proofs.Texts
import EndpointResolution.Url.Host

/-!
Percent-encoding: what characters an encoded text consists of, and which texts are encoded as, and
stand for, themselves. An encoding that leaves no percent sign as it is loses nothing, and the one
that leaves only the unreserved characters of URIs can be made byte by byte.
-/
namespace EndpointResolution

namespace Text.Percent

/-- The characters of triples. -/
def tripleChars : List Char :=
  "%0123456789ABCDEF".toList

theorem upperHexDigit_mem {n : Nat} (small : n < 16) : upperHexDigit n ∈ tripleChars := by
  have each : ∀ n < 16, upperHexDigit n ∈ tripleChars := by decide
  exact each n small

theorem mem_triple {byte : UInt8} {c : Char} (member : c ∈ triple byte) : c ∈ tripleChars := by
  have bound : byte.toNat < 256 := byte.toNat_lt
  have high : upperHexDigit (byte.toNat / 16) ∈ tripleChars := upperHexDigit_mem (by omega)
  have low : upperHexDigit (byte.toNat % 16) ∈ tripleChars := upperHexDigit_mem (by omega)
  simp only [triple, List.mem_cons, List.not_mem_nil, or_false] at member
  rcases member with rfl | rfl | rfl
  · decide
  · exact high
  · exact low

theorem encode_cons (kept : Char → Bool) (c : Char) (rest : List Char) :
    encode kept (c :: rest) = (if kept c then [c] else tripleChar c) ++ encode kept rest :=
  List.flatMap_cons

/-- A character of an encoded text is one that is kept, or belongs to a triple. -/
theorem mem_encode {kept : Char → Bool} {text : List Char} {c : Char}
    (member : c ∈ encode kept text) : c ∈ text ∧ kept c = true ∨ c ∈ tripleChars := by
  obtain ⟨source, among, here⟩ := List.mem_flatMap.mp member
  split at here
  next keeps =>
    rw [List.mem_singleton] at here
    rw [here]
    exact .inl ⟨among, keeps⟩
  next =>
    obtain ⟨byte, -, inside⟩ := List.mem_flatMap.mp here
    exact .inr (mem_triple inside)

theorem encode_eq_self {kept : Char → Bool} {text : List Char}
    (each : ∀ c ∈ text, kept c = true) : encode kept text = text := by
  induction text with
  | nil => rfl
  | cons c rest ih =>
    obtain ⟨here, others⟩ := List.forall_mem_cons.mp each
    rw [encode_cons, if_pos here, ih others, List.singleton_append]

/-- A character that is encoded has more characters than before. -/
theorem length_tripleChar (c : Char) : 3 ≤ (tripleChar c).length := by
  obtain ⟨byte, others, bytes⟩ := List.exists_cons_of_length_pos
    (l := String.utf8EncodeChar c) (by rw [String.length_utf8EncodeChar]; exact c.utf8Size_pos)
  rw [tripleChar, bytes, List.flatMap_cons]
  simp [triple]

theorem length_le_length_encode (kept : Char → Bool) (text : List Char) :
    text.length ≤ (encode kept text).length := by
  induction text with
  | nil => exact Nat.zero_le _
  | cons c rest ih =>
    rw [encode_cons, List.length_append, List.length_cons]
    split
    · rw [List.length_singleton]
      omega
    · have longer := length_tripleChar c
      omega

/-- Only the texts of characters that are kept are encoded as themselves. -/
theorem encode_eq_self_iff {kept : Char → Bool} {text : List Char} :
    encode kept text = text ↔ ∀ c ∈ text, kept c = true := by
  refine ⟨fun same => ?_, encode_eq_self⟩
  induction text with
  | nil => simp
  | cons c rest ih =>
    rw [encode_cons] at same
    split at same
    next keeps =>
      exact List.forall_mem_cons.mpr ⟨keeps, ih (List.cons.inj same).2⟩
    next =>
      have lengths := congrArg List.length same
      rw [List.length_append, List.length_cons] at lengths
      have longer := length_tripleChar c
      have others := length_le_length_encode kept rest
      omega

theorem decodeBytes_cons_of_ne {c : Char} (other : c ≠ '%') (rest : List Char) :
    decodeBytes (c :: rest) = String.utf8EncodeChar c ++ decodeBytes rest := by
  rw [decodeBytes]
  intro high low later same
  exact absurd same other

/-- A text without percent signs stands for its own bytes. -/
theorem decodeBytes_of_not_mem {text : List Char} (clean : '%' ∉ text) :
    decodeBytes text = text.flatMap String.utf8EncodeChar := by
  induction text with
  | nil => rfl
  | cons c rest ih =>
    have other : c ≠ '%' := fun same => clean (same ▸ List.mem_cons_self)
    have later : '%' ∉ rest := fun member => clean (List.mem_cons_of_mem c member)
    rw [decodeBytes_cons_of_ne other, ih later, List.flatMap_cons]

theorem hexValue?_upperHexDigit {n : Nat} (small : n < 16) :
    hexValue? (upperHexDigit n) = some n := by
  have each : ∀ n < 16, hexValue? (upperHexDigit n) = some n := by decide
  exact each n small

theorem decodeBytes_triple_append (byte : UInt8) (rest : List Char) :
    decodeBytes (triple byte ++ rest) = byte :: decodeBytes rest := by
  have bound : byte.toNat < 256 := byte.toNat_lt
  have high : hexValue? (upperHexDigit (byte.toNat / 16)) = some (byte.toNat / 16) :=
    hexValue?_upperHexDigit (by omega)
  have low : hexValue? (upperHexDigit (byte.toNat % 16)) = some (byte.toNat % 16) :=
    hexValue?_upperHexDigit (by omega)
  have whole : 16 * (byte.toNat / 16) + byte.toNat % 16 = byte.toNat := Nat.div_add_mod _ _
  simp only [triple, List.cons_append, List.nil_append, decodeBytes, high, low, whole,
    UInt8.ofNat_toNat]

theorem decodeBytes_triples_append (bytes : List UInt8) (rest : List Char) :
    decodeBytes (bytes.flatMap triple ++ rest) = bytes ++ decodeBytes rest := by
  induction bytes with
  | nil => rfl
  | cons byte others ih =>
    rw [List.flatMap_cons, List.append_assoc, decodeBytes_triple_append, ih, List.cons_append]

/-- What was encoded is decoded to its bytes, if percent signs were encoded. -/
theorem decodeBytes_encode {kept : Char → Bool} (escapes : kept '%' = false) (text : List Char) :
    decodeBytes (encode kept text) = text.flatMap String.utf8EncodeChar := by
  induction text with
  | nil => rfl
  | cons c rest ih =>
    rw [encode_cons, List.flatMap_cons]
    split
    next keeps =>
      have other : c ≠ '%' := by
        rintro rfl
        rw [escapes] at keeps
        cases keeps
      rw [List.singleton_append, decodeBytes_cons_of_ne other, ih]
    next =>
      rw [tripleChar, decodeBytes_triples_append, ih]

/-- The unreserved characters of URIs. -/
def Unreserved (c : Char) : Prop :=
  'A' ≤ c ∧ c ≤ 'Z' ∨ 'a' ≤ c ∧ c ≤ 'z' ∨ '0' ≤ c ∧ c ≤ '9' ∨ c ∈ ['-', '.', '_', '~']

theorem isUnreserved_iff {c : Char} : isUnreserved c = true ↔ Unreserved c := by
  have classes : c.isAlphanum = (decide ('A' ≤ c ∧ c ≤ 'Z') ||
      decide ('a' ≤ c) && decide (c ≤ 'z') || decide ('0' ≤ c) && decide (c ≤ '9')) := rfl
  simp only [isUnreserved, classes, Bool.or_eq_true, Bool.and_eq_true, decide_eq_true_eq,
    beq_iff_eq, Unreserved, List.mem_cons, List.not_mem_nil, or_false]
  tauto

/-- The character is a hexadecimal digit with no lowercase letter. -/
def UpperHexDigit (c : Char) : Prop :=
  '0' ≤ c ∧ c ≤ '9' ∨ 'A' ≤ c ∧ c ≤ 'F'

/-- The text consists of unreserved characters, and of percent signs with two uppercase hexadecimal
digits each. -/
inductive Encoded : List Char → Prop where
  | nil : Encoded []
  | plain {c : Char} {rest : List Char} (unreserved : Unreserved c) (others : Encoded rest) :
    Encoded (c :: rest)
  | triple {high low : Char} {rest : List Char} (first : UpperHexDigit high)
    (second : UpperHexDigit low) (others : Encoded rest) : Encoded ('%' :: high :: low :: rest)

theorem upperHexDigit_upper {n : Nat} (small : n < 16) : UpperHexDigit (upperHexDigit n) := by
  have each : ∀ n < 16, '0' ≤ upperHexDigit n ∧ upperHexDigit n ≤ '9' ∨
      'A' ≤ upperHexDigit n ∧ upperHexDigit n ≤ 'F' := by decide
  exact each n small

theorem Encoded.triples_append (bytes : List UInt8) {rest : List Char} (others : Encoded rest) :
    Encoded (bytes.flatMap Percent.triple ++ rest) := by
  induction bytes with
  | nil => exact others
  | cons byte more ih =>
    have bound : byte.toNat < 256 := byte.toNat_lt
    exact .triple (upperHexDigit_upper (by omega)) (upperHexDigit_upper (by omega)) ih

theorem encoded_encode (text : List Char) : Encoded (encode isUnreserved text) := by
  induction text with
  | nil => exact .nil
  | cons c rest ih =>
    rw [encode_cons]
    split
    next keeps => exact .plain (isUnreserved_iff.mp keeps) ih
    next => exact .triples_append _ ih

/-- A byte by itself: as the character of that code point if it is an unreserved one, and by its
triple otherwise. -/
def encodeByte (byte : UInt8) : List Char :=
  let c := Char.ofNat byte.toNat
  if isUnreserved c then [c] else triple byte

theorem isAscii_of_isUnreserved {c : Char} (unreserved : isUnreserved c = true) :
    isAscii c = true := by
  have upTo {last : Char} (below : c ≤ last) (early : last.toNat < 128) : c.toNat < 128 :=
    Nat.lt_of_le_of_lt (UInt32.le_iff_toNat_le.mp below) early
  rw [isAscii_iff]
  rcases isUnreserved_iff.mp unreserved with ⟨-, letter⟩ | ⟨-, letter⟩ | ⟨-, digit⟩ | mark
  · exact upTo letter (by decide)
  · exact upTo letter (by decide)
  · exact upTo digit (by decide)
  · have each : ∀ c ∈ ['-', '.', '_', '~'], c.toNat < 128 := forall_mem_of_all (by decide)
    exact each c mark

theorem utf8EncodeChar_of_isAscii {c : Char} (ascii : isAscii c = true) :
    String.utf8EncodeChar c = [UInt8.ofNat c.toNat] := by
  have below : c.val.toNat ≤ 127 := Nat.le_of_lt_succ (isAscii_iff.mp ascii)
  rw [String.utf8EncodeChar]
  simp only [below, if_true]
  rfl

/-- No byte of a character outside ASCII could be an ASCII character by itself. -/
theorem le_of_mem_utf8EncodeChar {c : Char} (other : isAscii c = false) {byte : UInt8}
    (member : byte ∈ String.utf8EncodeChar c) : 128 ≤ byte.toNat := by
  have above : ¬ c.val.toNat ≤ 127 := by
    intro below
    have ascii : isAscii c = true := isAscii_iff.mpr (Nat.lt_succ_of_le below)
    rw [other] at ascii
    cases ascii
  rw [String.utf8EncodeChar] at member
  simp only [above, if_false] at member
  split at member
  · simp only [List.mem_cons, List.not_mem_nil, or_false] at member
    rcases member with rfl | rfl <;> rw [UInt8.toNat_ofNat'] <;> omega
  · split at member
    · simp only [List.mem_cons, List.not_mem_nil, or_false] at member
      rcases member with rfl | rfl | rfl <;> rw [UInt8.toNat_ofNat'] <;> omega
    · simp only [List.mem_cons, List.not_mem_nil, or_false] at member
      rcases member with rfl | rfl | rfl | rfl <;> rw [UInt8.toNat_ofNat'] <;> omega

theorem encodeByte_of_isUnreserved {c : Char} (unreserved : isUnreserved c = true) :
    encodeByte (UInt8.ofNat c.toNat) = [c] := by
  have below := isAscii_iff.mp (isAscii_of_isUnreserved unreserved)
  have back : Char.ofNat (UInt8.ofNat c.toNat).toNat = c := by
    rw [UInt8.toNat_ofNat', Nat.mod_eq_of_lt (by omega), Char.ofNat_toNat]
  rw [encodeByte, back, if_pos unreserved]

theorem encodeByte_of_not_isUnreserved {c : Char} (reserved : isUnreserved c = false)
    {byte : UInt8} (member : byte ∈ String.utf8EncodeChar c) : encodeByte byte = triple byte := by
  have small : byte.toNat < 256 := byte.toNat_lt
  have code : (Char.ofNat byte.toNat).toNat = byte.toNat := by
    rw [Char.ofNat, dif_pos (.inl (by omega))]
    rfl
  have others : isUnreserved (Char.ofNat byte.toNat) = false := by
    cases ascii : isAscii c with
    | true =>
      rw [utf8EncodeChar_of_isAscii ascii, List.mem_singleton] at member
      have below := isAscii_iff.mp ascii
      rwa [member, UInt8.toNat_ofNat', Nat.mod_eq_of_lt (by omega), Char.ofNat_toNat]
    | false =>
      have above := le_of_mem_utf8EncodeChar ascii member
      refine Bool.eq_false_iff.mpr fun unreserved => ?_
      have below := isAscii_iff.mp (isAscii_of_isUnreserved unreserved)
      omega
  rw [encodeByte, others]
  rfl

/-- To encode the characters of a text is to encode its bytes. -/
theorem encode_eq_flatMap_encodeByte (text : List Char) :
    encode isUnreserved text = (text.flatMap String.utf8EncodeChar).flatMap encodeByte := by
  induction text with
  | nil => rfl
  | cons c rest ih =>
    rw [encode_cons, List.flatMap_cons, List.flatMap_append, ih]
    congr 1
    split
    next keeps =>
      rw [utf8EncodeChar_of_isAscii (isAscii_of_isUnreserved keeps), List.flatMap_singleton,
        encodeByte_of_isUnreserved keeps]
    next escapes =>
      exact List.flatMap_congr fun byte member =>
        (encodeByte_of_not_isUnreserved (Bool.eq_false_iff.mpr escapes) member).symm

theorem toList_encodeComponent (text : String) :
    (encodeComponent text).toList = encode isUnreserved text.toList :=
  String.toList_ofList

theorem encodeComponent_append (text other : String) :
    encodeComponent (text ++ other) = encodeComponent text ++ encodeComponent other := by
  rw [encodeComponent, String.toList_append, encode, List.flatMap_append, String.ofList_append]
  rfl

theorem toByteArray_decodeBytes_encodeComponent (text : String) :
    (decodeBytes (encodeComponent text).toList).toByteArray = text.toUTF8 := by
  have bytes : (text.toList.flatMap String.utf8EncodeChar).toByteArray = text.toByteArray := by
    conv_rhs => rw [← String.ofList_toList (s := text), String.toByteArray_ofList]
    rfl
  rw [toList_encodeComponent, decodeBytes_encode (by decide), bytes, String.toUTF8_eq_toByteArray]

theorem encodeComponent_injective : Function.Injective encodeComponent := by
  intro text other same
  have bytes := toByteArray_decodeBytes_encodeComponent text
  rw [same, toByteArray_decodeBytes_encodeComponent] at bytes
  exact (String.toByteArray_inj.mp bytes).symm

theorem encodeComponent_eq_self_iff {text : String} :
    encodeComponent text = text ↔ ∀ c ∈ text.toList, Unreserved c := by
  have kept : encodeComponent text = text ↔ encode isUnreserved text.toList = text.toList := by
    rw [← toList_encodeComponent, String.toList_inj]
  simp only [kept, encode_eq_self_iff, isUnreserved_iff]

/-- The function for URIs encodes without loss, byte by byte. What it returns consists of unreserved
characters and percent triples, and stands for the bytes of its argument, so that no two texts have
one encoding. A text is encoded piece by piece, and is left as it is exactly if all of its characters
are unreserved. -/
theorem uriEncode_lossless (text : String) :
    ∃ encoded, EndpointResolution.Function.uriEncode.apply [.string text] = .ok (.string encoded) ∧
      encoded = encodeComponent text ∧
      encoded.toList = text.toUTF8.data.toList.flatMap encodeByte ∧
      Encoded encoded.toList ∧
      (decodeBytes encoded.toList).toByteArray = text.toUTF8 ∧
      (∀ other, encodeComponent other = encoded → other = text) ∧
      (∀ other, encodeComponent (text ++ other) = encoded ++ encodeComponent other) ∧
      (encoded = text ↔ ∀ c ∈ text.toList, Unreserved c) := by
  refine ⟨encodeComponent text, rfl, rfl, ?_, ?_, toByteArray_decodeBytes_encodeComponent text,
    fun other same => encodeComponent_injective same, encodeComponent_append text,
    encodeComponent_eq_self_iff⟩
  · have decoded := decodeBytes_encode (by decide : isUnreserved '%' = false) text.toList
    rw [← toByteArray_decodeBytes_encodeComponent, toList_encodeComponent,
      List.data_toByteArray, decoded, encode_eq_flatMap_encodeByte]
  · rw [toList_encodeComponent]
    exact encoded_encode text.toList

/-- The two bytes of a letter with an accent are encoded, and so is a percent sign. -/
example : encodeComponent "caf\u00e9 50%~" = "caf%C3%A9%2050%25~" := by
  decide

end Text.Percent

namespace Url.Host

theorem percentDecoded?_of_not_mem {text : List Char} (clean : '%' ∉ text) :
    percentDecoded? text = some text := by
  have bytes : (⟨(Text.Percent.decodeBytes text).toArray⟩ : ByteArray) =
      (String.ofList text).toByteArray := by
    rw [Text.Percent.decodeBytes_of_not_mem clean]
    exact ByteArray.ext List.data_toByteArray.symm
  have read : String.fromUTF8? (String.ofList text).toByteArray = some (String.ofList text) :=
    dif_pos (String.ofList text).isValidUTF8
  rw [percentDecoded?, bytes, read, Option.map_some, String.toList_ofList]

end Url.Host
end EndpointResolution
