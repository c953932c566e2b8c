import EndpointResolution.Location

/-!
The report of a failed type check: what is wrong, what to do about it, where, and within what.
-/
namespace EndpointResolution

/-- A failed type check. The context grows while the error leaves the invocations, conditions and
rules around it, innermost first. -/
structure TypingError where
  message : String
  hint : Option String
  location : Location
  context : List (String × Location)
  deriving DecidableEq, Repr

namespace TypingError

/-- A report that says what is wrong and no more. -/
def ofMessage (message : String) : TypingError :=
  ⟨message, none, .unknown, []⟩

/-- Says what to do about it, in place of an earlier hint. -/
def withHint (error : TypingError) (hint : String) : TypingError :=
  { error with hint := some hint }

/-- Records a location unless one is known already. -/
def locate (error : TypingError) (location : Location) : TypingError :=
  if error.location.isUnknown then { error with location := location } else error

/-- Says within what the error arose. -/
def within (error : TypingError) (description : String) (location : Location) : TypingError :=
  { error with context := error.context ++ [(description, location)] }

/-- One entry of the context, with its location on a line of its own if that is known. -/
def displayContext (description : String) (location : Location) : String :=
  "\n  " ++ description
    ++ if location.isUnknown then "" else "\n    at " ++ location.display

/-- The whole report: the message and its location, the hint, and the context. -/
def display (error : TypingError) : String :=
  error.message
    ++ (if error.location.isUnknown then "" else " (" ++ error.location.display ++ ")")
    ++ (match error.hint with
      | some hint => "\n  hint: " ++ hint
      | none => "")
    ++ String.join (error.context.map fun entry => displayContext entry.1 entry.2)

end TypingError
end EndpointResolution
