import EndpointResolution.Json.Basic

/-!
Reading a JSON document. The characters are grouped into tokens one at a time, and the tokens are
assembled one at a time on a stack of the arrays and objects that are still open.
-/
namespace EndpointResolution.Json

/-- A token: punctuation, or a scalar document. -/
inductive Token where
  | openBrace
  | closeBrace
  | openBracket
  | closeBracket
  | comma
  | colon
  | text (value : String)
  | scalar (value : Json)

/-- What is being read. Texts and words are held with the last character first. -/
inductive Lexing where
  /-- Nothing in particular. -/
  | between
  /-- A number or one of the words `null`, `true` and `false`. -/
  | word (read : List Char)
  /-- A string literal. -/
  | text (read : List Char)
  /-- The character after a backslash. -/
  | escape (read : List Char)
  /-- The hexadecimal digits of a UTF-16 unit, after the first unit of a pair if there is one. -/
  | unit (read : List Char) (high : Option Nat) (value : Nat) (missing : Nat)
  /-- The backslash of the second unit of a pair. -/
  | secondUnit (read : List Char) (high : Nat)
  /-- The letter of the second unit of a pair. -/
  | secondLetter (read : List Char) (high : Nat)

/-- The scalar that a word stands for. -/
def ofWord (word : List Char) : Option Json :=
  if word = ['n', 'u', 'l', 'l'] then some .null
  else if word = ['t', 'r', 'u', 'e'] then some (.boolean true)
  else if word = ['f', 'a', 'l', 's', 'e'] then some (.boolean false)
  else (JsonNumber.read word).map .number

/-- The character may stand in a word. -/
def isWordChar (c : Char) : Bool :=
  c.isAlphanum || c == '-' || c == '+' || c == '.'

/-- Reads a character that belongs to no earlier token. -/
def startToken (done : List Token) (c : Char) : Option (List Token × Lexing) :=
  match c with
  | ' ' | '\t' | '\n' | '\r' => some (done, .between)
  | '{' => some (.openBrace :: done, .between)
  | '}' => some (.closeBrace :: done, .between)
  | '[' => some (.openBracket :: done, .between)
  | ']' => some (.closeBracket :: done, .between)
  | ',' => some (.comma :: done, .between)
  | ':' => some (.colon :: done, .between)
  | '"' => some (done, .text [])
  | c => if isWordChar c then some (done, .word [c]) else none

/-- The state after a complete UTF-16 unit. The units of a pair are joined, and a unit that is half
of a pair is refused elsewhere. -/
def finishUnit (read : List Char) (high : Option Nat) (value : Nat) : Option Lexing :=
  match high with
  | some first =>
    if 0xdc00 ≤ value ∧ value < 0xe000 then
      some (.text (Char.ofNat (0x10000 + (first - 0xd800) * 0x400 + (value - 0xdc00)) :: read))
    else none
  | none =>
    if 0xd800 ≤ value ∧ value < 0xdc00 then some (.secondUnit read value)
    else if 0xdc00 ≤ value ∧ value < 0xe000 then none
    else some (.text (Char.ofNat value :: read))

/-- Reads one character. -/
def lexChar (state : List Token × Lexing) (c : Char) : Option (List Token × Lexing) :=
  let (done, lexing) := state
  match lexing with
  | .between => startToken done c
  | .word read =>
    if isWordChar c then some (done, .word (c :: read))
    else (ofWord read.reverse).bind fun value => startToken (.scalar value :: done) c
  | .text read =>
    if c = '"' then some (.text (String.ofList read.reverse) :: done, .between)
    else if c = '\\' then some (done, .escape read)
    else if c.toNat < 0x20 then none
    else some (done, .text (c :: read))
  | .escape read =>
    match c with
    | '"' | '\\' | '/' => some (done, .text (c :: read))
    | 'b' => some (done, .text ('\x08' :: read))
    | 'f' => some (done, .text ('\x0c' :: read))
    | 'n' => some (done, .text ('\n' :: read))
    | 'r' => some (done, .text ('\r' :: read))
    | 't' => some (done, .text ('\t' :: read))
    | 'u' => some (done, .unit read none 0 3)
    | _ => none
  | .unit read high value missing =>
    (Text.hexValue? c).bind fun digit =>
      match missing with
      | 0 => (finishUnit read high (16 * value + digit)).map (done, ·)
      | fewer + 1 => some (done, .unit read high (16 * value + digit) fewer)
  | .secondUnit read high => if c = '\\' then some (done, .secondLetter read high) else none
  | .secondLetter read high => if c = 'u' then some (done, .unit read (some high) 0 3) else none

/-- The tokens of a text. -/
def tokens (text : List Char) : Option (List Token) :=
  match text.foldlM lexChar ([], .between) with
  | some (done, .between) => some done.reverse
  | some (done, .word read) =>
    (ofWord read.reverse).map fun value => (Token.scalar value :: done).reverse
  | _ => none

/-- An array or an object that is still open. The items of an array are held with the last one
first; an object holds the name of the member whose value comes next. -/
inductive Open where
  | array (items : List Json)
  | object (members : Fields Json) (name : String)

/-- What the next token has to be. -/
inductive Expected where
  | value
  | firstItem
  | firstName
  | name
  | colon
  | separator
  | nothing (document : Json)

/-- Puts a complete document where it belongs. -/
def place (document : Json) : List Open → List Open × Expected
  | [] => ([], .nothing document)
  | .array items :: outer => (.array (document :: items) :: outer, .separator)
  | .object members name :: outer =>
    (.object (Fields.insert name document members) name :: outer, .separator)

/-- Reads one token. -/
def assemble (state : List Open × Expected) (token : Token) : Option (List Open × Expected) :=
  let (stack, expected) := state
  match expected, token, stack with
  | .firstItem, .closeBracket, .array _ :: outer => some (place (.array []) outer)
  | .value, .openBracket, _ | .firstItem, .openBracket, _ => some (.array [] :: stack, .firstItem)
  | .value, .openBrace, _ | .firstItem, .openBrace, _ =>
    some (.object [] "" :: stack, .firstName)
  | .value, .text value, _ | .firstItem, .text value, _ => some (place (.string value) stack)
  | .value, .scalar value, _ | .firstItem, .scalar value, _ => some (place value stack)
  | .firstName, .closeBrace, .object _ _ :: outer => some (place (.object []) outer)
  | .firstName, .text name, .object members _ :: outer
  | .name, .text name, .object members _ :: outer => some (.object members name :: outer, .colon)
  | .colon, .colon, _ => some (stack, .value)
  | .separator, .comma, .array _ :: _ => some (stack, .value)
  | .separator, .comma, .object _ _ :: _ => some (stack, .name)
  | .separator, .closeBracket, .array items :: outer => some (place (.array items.reverse) outer)
  | .separator, .closeBrace, .object members _ :: outer => some (place (.object members) outer)
  | _, _, _ => none

/-- Reads a document. Of members with one name in an object the last one counts. -/
def parse (text : String) : Option Json :=
  match tokens text.toList with
  | none => none
  | some list =>
    match list.foldlM assemble ([], .value) with
    | some (_, .nothing document) => some document
    | _ => none

end EndpointResolution.Json
