import EndpointResolution.Text.Numeral
import EndpointResolution.Text.Pieces

/-!
Attribute paths: the steps from a value to a part of it. A path is written as segments with dots
between them; a segment is a field name, indexes in brackets, or a name followed by indexes.
-/
namespace EndpointResolution

/-- One step into a value: to a field of a record or to an element of an array. -/
inductive PathStep where
  | field (name : String)
  | index (position : UInt64)
  deriving DecidableEq, Repr, Inhabited

/-- The steps from a value to a part of it. -/
abbrev Path := List PathStep

namespace Path

/-- Why a text is not a path. -/
inductive Fault where
  /-- A field name holds a character other than an ASCII letter, a digit or an underscore. -/
  | badName (name : String)
  /-- A segment holds neither a name nor an index. -/
  | emptySegment
  /-- A bracket is opened and not closed in its segment. -/
  | unclosedBracket
  /-- What stands between brackets is not a 64-bit number. -/
  | badIndex (text : String)
  /-- Something other than a further index follows an index in its segment. -/
  | trailingText
  deriving DecidableEq, Repr

/-- The explanation of a fault in messages. -/
def Fault.message : Fault → String
  | .badName name => "`" ++ name ++ "` is not a valid field name"
  | .emptySegment => "empty path segment"
  | .unclosedBracket => "unclosed index bracket"
  | .badIndex text => "`" ++ text ++ "` is not a valid index"
  | .trailingText => "unexpected characters after index"

/-- The character may stand in a name. -/
def isNameChar (c : Char) : Bool :=
  c.isAlphanum || c == '_'

/-- The text is a name: one or more ASCII letters, digits and underscores. -/
def isName (text : List Char) : Bool :=
  !text.isEmpty && text.all isNameChar

/-- Reads the indexes at the end of a segment. The first argument is what has been read of the
index whose bracket is open, if one is. -/
def readIndexes : Option (List Char) → List Char → Except Fault Path
  | none, [] => .ok []
  | none, '[' :: rest => readIndexes (some []) rest
  | none, _ :: _ => .error .trailingText
  | some _, [] => .error .unclosedBracket
  | some text, ']' :: rest =>
    match Text.readWord text with
    | none => .error (.badIndex (String.ofList text))
    | some position => (readIndexes none rest).map (.index position :: ·)
  | some text, c :: rest => readIndexes (some (text ++ [c])) rest

/-- Reads one segment: a name, which ends at the first bracket, and then indexes. -/
def readSegment (segment : List Char) : Except Fault Path :=
  let name := segment.takeWhile (· != '[')
  let indexes := segment.dropWhile (· != '[')
  if name.isEmpty then
    if indexes.isEmpty then .error .emptySegment else readIndexes none indexes
  else if name.all isNameChar then
    (readIndexes none indexes).map (.field (String.ofList name) :: ·)
  else .error (.badName (String.ofList name))

/-- Reads segments in order, up to the first fault. -/
def readSegments : List (List Char) → Except Fault Path
  | [] => .ok []
  | segment :: rest =>
    match readSegment segment with
    | .error fault => .error fault
    | .ok steps => (readSegments rest).map (steps ++ ·)

/-- Reads a path such as `authSchemes[0].name`. -/
def parse (text : String) : Except Fault Path :=
  readSegments (Text.pieces '.' text.toList)

/-- Writes one step. A dot comes before a field name unless the path starts with it. -/
def writeStep (atStart : Bool) : PathStep → List Char
  | .field name => (if atStart then [] else ['.']) ++ name.toList
  | .index position => '[' :: Text.writeDigits position.toNat ++ [']']

/-- Writes steps in order. The start of the path lasts until something is written. -/
def write (atStart : Bool) : Path → List Char
  | [] => []
  | step :: rest =>
    let text := writeStep atStart step
    text ++ write (atStart && text.isEmpty) rest

/-- The text of a path. -/
def display (path : Path) : String :=
  String.ofList (write true path)

end Path
end EndpointResolution
