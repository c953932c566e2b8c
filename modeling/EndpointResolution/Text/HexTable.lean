import EndpointResolution.Text.Numeral

/-!
Tables of code points written as text: rows with blanks between them, and in a row hexadecimal
numbers with dots between them.
-/
namespace EndpointResolution.Text

/-- A table by its rows. -/
abbrev HexTable := List (List Nat)

namespace HexTable

/-- A row while it is read: the numbers before the last dot, last one first, and the number after
it, if a row has begun. -/
abbrev OpenRow := Option (List Nat × Nat)

/-- Puts the row that has been read, if there is one, before the rows after it. -/
def close (row : OpenRow) (rows : HexTable) : HexTable :=
  match row with
  | some (numbers, last) => (last :: numbers).reverse :: rows
  | none => rows

/-- Reads rows. Characters other than hexadecimal digits and dots end a row. -/
def readRows (row : OpenRow) : List Char → HexTable
  | [] => close row []
  | c :: rest =>
    let (numbers, last) := row.getD ([], 0)
    match hexValue? c with
    | some digit => readRows (some (numbers, 16 * last + digit)) rest
    | none =>
      if c = '.' then readRows (some (last :: numbers, 0)) rest
      else close row (readRows none rest)

/-- The table that a text writes down. -/
def ofText (text : String) : HexTable :=
  readRows none text.toList

/-- What the first row says about a number that has it in its range, where a row consists of the
first and the last number of a range and what holds for all of it. -/
def inRange? (table : HexTable) (n : Nat) : Option (List Nat) :=
  table.findSome? fun
    | first :: last :: facts => if first ≤ n ∧ n ≤ last then some facts else none
    | _ => none

/-- What the first row that begins with a number says about it. -/
def row? (table : HexTable) (n : Nat) : Option (List Nat) :=
  table.findSome? fun
    | first :: facts => if first = n then some facts else none
    | [] => none

end HexTable
end EndpointResolution.Text
