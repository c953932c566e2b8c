import EndpointResolution.Url.Host

/-!
Addresses as a parser reports them. What is read off an address does not depend on the parser, so
the parser is left open, and what has to be known of it is stated here.
-/
namespace EndpointResolution.Url

/-- What is reported of an address. The authority is the text of the host and the port. Of the query
only its presence counts. -/
structure Address where
  scheme : String
  host : Option Host
  authority : List Char
  path : List Char
  hasQuery : Bool
  deriving DecidableEq, Repr

namespace Address

/-- The scheme is one of the two that the web has. -/
def isWeb (address : Address) : Bool :=
  address.scheme == "http" || address.scheme == "https"

/-- The scheme and the authority as a text, with a suffix. -/
def textWith (address : Address) (suffix : List Char) : String :=
  address.scheme ++ "://" ++ String.ofList address.authority ++ String.ofList suffix

theorem toList_textWith (address : Address) (suffix : List Char) :
    (address.textWith suffix).toList =
      address.scheme.toList ++ ':' :: '/' :: '/' :: (address.authority ++ suffix) := by
  simp [textWith, String.toList_append]

end Address

/-- Reads the address that a text is, if it is one. -/
abbrev Parser := String → Option Address

namespace Parser

/-- The path of a web address starts with a slash. -/
def RootsPaths (parse : Parser) : Prop :=
  ∀ text address, parse text = some address → address.isWeb = true →
    address.path.head? = some '/'

/-- An address is read again from its scheme and its authority, with its path and without it. The
address without a path has the path that is a slash. -/
structure Rereads (parse : Parser) (address : Address) : Prop where
  authority : '/' ∉ address.authority ∧ '#' ∉ address.authority
  path : '#' ∉ address.path
  whole : parse (address.textWith address.path) = some address
  bare : parse (address.textWith []) = some { address with path := ['/'] }

end Parser
end EndpointResolution.Url
