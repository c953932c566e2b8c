/-!
Where a part of a rule-set was declared.
-/
namespace EndpointResolution

/-- A position in a file. The empty file name at line 0 stands for an unknown place. -/
structure Location where
  file : String
  line : Nat
  column : Nat
  deriving DecidableEq, Repr, Inhabited

namespace Location

/-- The unknown place. -/
def unknown : Location := ⟨"", 0, 0⟩

/-- The place is not known, whatever column it names. -/
def isUnknown (location : Location) : Bool :=
  location.file.isEmpty && location.line == 0

/-- The file, line and column with colons between them. -/
def display (location : Location) : String :=
  if location.isUnknown then "N/A"
  else location.file ++ ":" ++ toString location.line ++ ":" ++ toString location.column

end Location
end EndpointResolution
