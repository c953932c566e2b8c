import EndpointResolution.Text.GraphemeExtend
import EndpointResolution.Text.Numeral
import EndpointResolution.Text.Printable

/-!
Texts as they appear inside the printed form of a value: between double quotes, with escapes for
the quote, the backslash, the common controls, and whatever would not be visible by itself.
-/
namespace EndpointResolution.Text

/-- A character by its code point, in lowercase hexadecimal without padding. -/
def codePointEscape (c : Char) : List Char :=
  ['\\', 'u', '{'] ++ writeHex c.toNat ++ ['}']

/-- A character inside a quoted text. -/
def quotedChar (c : Char) : List Char :=
  match c with
  | '\x00' => ['\\', '0']
  | '\t' => ['\\', 't']
  | '\n' => ['\\', 'n']
  | '\r' => ['\\', 'r']
  | '"' => ['\\', '"']
  | '\\' => ['\\', '\\']
  | c => if isGraphemeExtend c || !isPrintable c then codePointEscape c else [c]

/-- The text between double quotes, with what is not plainly visible escaped. -/
def quoted (text : String) : String :=
  String.ofList (['"'] ++ text.toList.flatMap quotedChar ++ ['"'])

end EndpointResolution.Text
