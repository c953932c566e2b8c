import EndpointResolution.Text.Percent
import EndpointResolution.Url.Domain
import EndpointResolution.Url.Ipv4
import EndpointResolution.Url.Ipv6

/-!
Hosts of addresses.
-/
namespace EndpointResolution.Url

/-- A host. -/
inductive Host where
  | domain (name : List Char)
  | ipv4 (address : Nat)
  | ipv6 (groups : Ipv6.Groups)
  deriving DecidableEq, Repr

namespace Host

/-- The host is a network address. -/
def isIp : Host → Bool
  | .domain _ => false
  | .ipv4 _ => true
  | .ipv6 _ => true

/-- The text of a host. -/
def display : Host → List Char
  | .domain name => name
  | .ipv4 address => Ipv4.display address
  | .ipv6 groups => ['['] ++ Ipv6.display groups ++ [']']

/-- The text that the bytes of a text without percent-encoding stand for. -/
def percentDecoded? (text : List Char) : Option (List Char) :=
  (String.fromUTF8? ⟨(Text.Percent.decodeBytes text).toArray⟩).map String.toList

/-- Reads a host: an IPv6 address in brackets, or a domain in percent-encoding. A domain whose last
label is a number has to be an IPv4 address. -/
def parse (text : List Char) : Option Host :=
  match text with
  | '[' :: rest =>
    if rest.getLast? = some ']' then (Ipv6.parse rest.dropLast).map .ipv6 else none
  | _ => do
    let decoded ← percentDecoded? text
    let name ← Domain.toAscii? decoded
    if name.isEmpty then none
    else if Ipv4.endsInNumber name then (Ipv4.parse name).map .ipv4
    else some (.domain name)

end Host
end EndpointResolution.Url
