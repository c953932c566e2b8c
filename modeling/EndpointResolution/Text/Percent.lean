import EndpointResolution.Text.Numeral

/-!
Percent-encoding: a byte written as a percent sign and two hexadecimal digits.
-/
namespace EndpointResolution.Text.Percent

/-- The triple of a byte, with uppercase digits. -/
def triple (byte : UInt8) : List Char :=
  ['%', upperHexDigit (byte.toNat / 16), upperHexDigit (byte.toNat % 16)]

/-- The triples of the bytes that encode a character. -/
def tripleChar (c : Char) : List Char :=
  (String.utf8EncodeChar c).flatMap triple

/-- Writes every character outside `kept` by its triples. -/
def encode (kept : Char → Bool) (text : List Char) : List Char :=
  text.flatMap fun c => if kept c then [c] else tripleChar c

/-- The characters that never need encoding: ASCII letters and digits, `-`, `_`, `.` and `~`. -/
def isUnreserved (c : Char) : Bool :=
  c.isAlphanum || c == '-' || c == '_' || c == '.' || c == '~'

/-- Encodes everything but unreserved characters. -/
def encodeComponent (text : String) : String :=
  String.ofList (encode isUnreserved text.toList)

/-- The bytes that a text stands for: each triple its byte, every other character its own
encoding, also a percent sign that starts no triple. -/
def decodeBytes : List Char → List UInt8
  | '%' :: high :: low :: rest =>
    match hexValue? high, hexValue? low with
    | some h, some l => UInt8.ofNat (16 * h + l) :: decodeBytes rest
    | _, _ => String.utf8EncodeChar '%' ++ decodeBytes (high :: low :: rest)
  | c :: rest => String.utf8EncodeChar c ++ decodeBytes rest
  | [] => []

end EndpointResolution.Text.Percent
