import EndpointResolution.Path

/-!
Why a part of a rule-set cannot be built.
-/
namespace EndpointResolution

/-- Why a text is not a template. -/
inductive TemplateFault where
  /-- A closing brace stands alone outside a placeholder. -/
  | unmatchedBrace
  /-- A placeholder is opened and not closed. -/
  | unclosedBrace
  /-- A placeholder is neither a name nor a name with a path. -/
  | badPlaceholder (text : String)
  /-- The path of a placeholder is not one. -/
  | badPath (fault : Path.Fault)
  deriving DecidableEq, Repr

/-- The explanation of a fault in messages. -/
def TemplateFault.message : TemplateFault → String
  | .unmatchedBrace => "unmatched `\x7d`"
  | .unclosedBrace => "unclosed `\x7b`"
  | .badPlaceholder text => "`" ++ text ++ "` is not a valid placeholder"
  | .badPath fault => fault.message

/-- A part of a rule-set that cannot be built. -/
inductive ConstructionError where
  /-- No function has the name. -/
  | unknownFunction (name : String)
  /-- The text is not an attribute path. -/
  | invalidPath (path : String) (fault : Path.Fault)
  /-- The text is not a template. -/
  | invalidTemplate (template : String) (fault : TemplateFault)
  /-- Two parameters share a name. -/
  | duplicateParameter (name : String)
  /-- A default is empty or not of the declared type. -/
  | invalidDefault (name expected found : String)
  /-- The text names no type of parameters. -/
  | unknownParameterType (name : String)
  /-- The function has typing rules of its own and cannot be mapped. -/
  | unmappableFunction (function : String)
  deriving DecidableEq, Repr

/-- The text of a failed construction. -/
def ConstructionError.message : ConstructionError → String
  | .unknownFunction name => "`" ++ name ++ "` is not a valid function"
  | .invalidPath path fault => "invalid attribute path `" ++ path ++ "`: " ++ fault.message
  | .invalidTemplate template fault =>
    "invalid template `" ++ template ++ "`: " ++ fault.message
  | .duplicateParameter name => "duplicate parameter `" ++ name ++ "`"
  | .invalidDefault name expected found =>
    "default value for parameter `" ++ name ++ "` must be " ++ expected ++ ", found " ++ found
  | .unknownParameterType name =>
    "unexpected parameter type `" ++ name
      ++ "`; expected `String`, `Boolean`, or `StringArray`"
  | .unmappableFunction function => "`" ++ function ++ "` cannot be applied in map mode"

end EndpointResolution
