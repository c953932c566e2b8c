import EndpointResolution.Proofs.Domains
import EndpointResolution.Proofs.Ipv4Addresses
import EndpointResolution.Proofs.Ipv6Addresses
import EndpointResolution.Proofs.PercentEncoding
import EndpointResolution.Url.Host

/-!
Hosts. Whatever the written form of a host, its text holds nothing that separates the parts of an
address, and it is read as the same host again. The ASCII form of a domain is its own form where the
domain is written in ASCII; beyond ASCII this rests on the mapping and composition of characters.
-/
namespace EndpointResolution.Url

open Text (isAscii pieces)

namespace Host

/-- A text without a bracket in front is read by its ASCII form. -/
theorem parse_eq_of_toAscii? {text decoded name : List Char} (start : text.head? ≠ some '[')
    (plain : percentDecoded? text = some decoded) (form : Domain.toAscii? decoded = some name)
    (nonempty : name ≠ []) :
    parse text =
      if Ipv4.endsInNumber name then (Ipv4.parse name).map .ipv4 else some (.domain name) := by
  have filled : name.isEmpty = false := by simpa using nonempty
  unfold parse
  split
  next rest => exact absurd rfl start
  next =>
    simp only [plain, form, Option.bind_eq_bind, Option.bind_some, filled, Bool.false_eq_true,
      if_false]

/-- A text that is its own ASCII form is read as it stands. -/
theorem parse_of_toAscii? {name : List Char} (form : Domain.toAscii? name = some name)
    (nonempty : name ≠ []) :
    parse name =
      if Ipv4.endsInNumber name then (Ipv4.parse name).map .ipv4 else some (.domain name) := by
  have start : name.head? ≠ some '[' := by
    intro first
    have free := Domain.isForbidden_of_mem form (List.mem_of_mem_head? first)
    exact absurd free (by decide)
  have clean : '%' ∉ name :=
    fun member => absurd (Domain.isForbidden_of_mem form member) (by decide)
  exact parse_eq_of_toAscii? start (percentDecoded?_of_not_mem clean) form nonempty

theorem parse_brackets (text : List Char) :
    parse ('[' :: (text ++ [']'])) = (Ipv6.parse text).map .ipv6 := by
  rw [parse, List.getLast?_concat, if_pos rfl, List.dropLast_concat]

/-- The ways in which a host is read. -/
theorem cases_of_parse {text : List Char} {host : Host} (accepted : parse text = some host) :
    (∃ groups, host = .ipv6 groups ∧ Ipv6.IsAddress groups) ∨
      ∃ decoded name, percentDecoded? text = some decoded ∧
        Domain.toAscii? decoded = some name ∧ name ≠ [] ∧
        ((∃ address, host = .ipv4 address ∧ address < 256 ^ 4) ∨
          host = .domain name ∧ Ipv4.endsInNumber name = false) := by
  unfold parse at accepted
  split at accepted
  next rest =>
    left
    obtain ⟨-, read⟩ := Option.ite_none_right_eq_some.mp accepted
    obtain ⟨groups, inside, rfl⟩ := Option.map_eq_some_iff.mp read
    exact ⟨groups, rfl, Ipv6.isAddress_of_parse inside⟩
  next =>
    right
    simp only [Option.bind_eq_bind, Option.bind_eq_some_iff] at accepted
    obtain ⟨decoded, plain, name, form, read⟩ := accepted
    refine ⟨decoded, name, plain, form, ?_⟩
    split at read
    · cases read
    next filled =>
      refine ⟨by simpa using filled, ?_⟩
      split at read
      next number =>
        obtain ⟨address, inside, rfl⟩ := Option.map_eq_some_iff.mp read
        exact .inl ⟨address, rfl, Ipv4.lt_of_parse inside⟩
      next other =>
        obtain rfl := Option.some.inj read
        exact .inr ⟨rfl, by simpa using other⟩

/-- A domain that the text writes with characters beyond ASCII is its own ASCII form. -/
def IsStable (text : List Char) : Prop :=
  ∀ decoded name, percentDecoded? text = some decoded → decoded.all isAscii = false →
    parse text = some (.domain name) → Domain.toAscii? name = some name

theorem display_ipv6 (groups : Ipv6.Groups) :
    (ipv6 groups).display = '[' :: (Ipv6.display groups ++ [']']) := rfl

theorem toAscii?_display_ipv4 (address : Nat) :
    Domain.toAscii? (Ipv4.display address) = some (Ipv4.display address) := by
  refine Domain.toAscii?_of_plain ?_ ?_
  · intro c member
    rcases Ipv4.isDigit_of_mem_display member with digit | rfl
    · have bounds := Text.bounds_of_isDigit digit
      have each : ∀ n < 128, (Char.ofNat n).isDigit = true →
          (Char.ofNat n).toLower = Char.ofNat n ∧ Domain.isForbidden (Char.ofNat n) = false := by
        decide
      have ascii : isAscii c = true := Text.isAscii_iff.mpr (by omega)
      exact ⟨ascii, Text.of_isAscii
        (fun c => c.isDigit = true → c.toLower = c ∧ Domain.isForbidden c = false) each ascii digit⟩
    · decide
  · intro label among marked
    have letter : 'x' ∈ label := List.mem_of_mem_take (marked ▸ by decide : 'x' ∈ label.take 4)
    have inside : 'x' ∈ Ipv4.display address := by
      rw [← Text.joinPieces_pieces '.' (Ipv4.display address)]
      exact Text.mem_joinPieces among letter
    rcases Ipv4.isDigit_of_mem_display inside with digit | same
    · exact absurd digit (by decide)
    · exact absurd same (by decide)

theorem parse_display_ipv4 {address : Nat} (small : address < 256 ^ 4) :
    parse (Ipv4.display address) = some (.ipv4 address) := by
  have number := Ipv4.endsInNumber_display address
  rw [parse_of_toAscii? (toAscii?_display_ipv4 address) (Ipv4.display_ne_nil address),
    if_pos number, Ipv4.parse_display small, Option.map_some]

/-- The text of a host is read as the host. -/
theorem parse_display {text : List Char} {host : Host} (accepted : parse text = some host)
    (stable : IsStable text) : parse host.display = some host := by
  rcases cases_of_parse accepted with ⟨groups, rfl, valid⟩ | ⟨decoded, name, plain, form, nonempty, kind⟩
  · rw [display_ipv6, parse_brackets, Ipv6.parse_display valid, Option.map_some]
  · rcases kind with ⟨address, rfl, small⟩ | ⟨rfl, other⟩
    · exact parse_display_ipv4 small
    · have again : Domain.toAscii? name = some name := by
        by_cases ascii : decoded.all isAscii = true
        · exact Domain.toAscii?_of_ascii (List.all_eq_true.mp ascii) form
        · exact stable decoded name plain (by simpa using ascii) accepted
      rw [display, parse_of_toAscii? again nonempty, other]
      rfl

/-- The character separates no parts of an address. -/
def isHostChar (c : Char) : Bool :=
  0x20 < c.toNat && !"/?#@\\".toList.contains c

theorem isHostChar_of_free {c : Char} (free : Domain.isForbidden c = false) :
    isHostChar c = true := by
  have each : ∀ c ∈ "/?#@\\".toList, Domain.isForbidden c = true :=
    Text.forall_mem_of_all (by decide)
  have visible : 0x20 < c.toNat := by
    simp only [Domain.isForbidden, Bool.or_eq_false_iff, decide_eq_false_iff_not] at free
    omega
  have other : "/?#@\\".toList.contains c = false := by
    rw [List.contains_eq_mem, decide_eq_false_iff_not]
    intro member
    rw [each c member] at free
    cases free
  rw [isHostChar, other]
  simpa using visible

theorem isHostChar_of_hexValue? {c : Char} (digit : (Text.hexValue? c).isSome = true) :
    isHostChar c = true ∧ c ≠ ']' := by
  obtain ⟨value, same⟩ := Option.isSome_iff_exists.mp digit
  have ascii : isAscii c = true := Text.isAscii_iff.mpr (Text.bounds_of_hexValue? same).2
  have each : ∀ n < 128, (Text.hexValue? (Char.ofNat n)).isSome = true →
      isHostChar (Char.ofNat n) = true ∧ Char.ofNat n ≠ ']' := by decide
  exact Text.of_isAscii
    (fun c => (Text.hexValue? c).isSome = true → isHostChar c = true ∧ c ≠ ']') each ascii digit

/-- A text of a host without brackets. -/
structure IsName (text : List Char) : Prop where
  nonempty : text ≠ []
  characters : ∀ c ∈ text, isHostChar c = true
  colon : ':' ∉ text
  opening : '[' ∉ text

/-- A text of a host in brackets. -/
structure IsBracketed (text inside : List Char) : Prop where
  whole : text = '[' :: (inside ++ [']'])
  characters : ∀ c ∈ inside, isHostChar c = true
  closing : ']' ∉ inside

theorem isName_of_free {text : List Char} (nonempty : text ≠ [])
    (free : ∀ c ∈ text, Domain.isForbidden c = false) : IsName text where
  nonempty := nonempty
  characters := fun c member => isHostChar_of_free (free c member)
  colon := fun member => absurd (free ':' member) (by decide)
  opening := fun member => absurd (free '[' member) (by decide)

theorem isBracketed_ipv6 (groups : Ipv6.Groups) :
    IsBracketed (ipv6 groups).display (Ipv6.display groups) := by
  have each : ∀ c ∈ Ipv6.display groups, isHostChar c = true ∧ c ≠ ']' := by
    intro c member
    rcases Ipv6.hexDigit_of_mem_display member with digit | rfl
    · exact isHostChar_of_hexValue? digit
    · decide
  exact ⟨display_ipv6 groups, fun c member => (each c member).1,
    fun member => (each _ member).2 rfl⟩

/-- The text of a host that is read has brackets around it, or none and no colon. -/
theorem isName_or_isBracketed {text : List Char} {host : Host} (accepted : parse text = some host) :
    IsName host.display ∨ ∃ inside, IsBracketed host.display inside := by
  rcases cases_of_parse accepted with ⟨groups, rfl, -⟩ | ⟨decoded, name, -, form, nonempty, kind⟩
  · exact .inr ⟨_, isBracketed_ipv6 groups⟩
  · left
    rcases kind with ⟨address, rfl, -⟩ | ⟨rfl, -⟩
    · exact isName_of_free (Ipv4.display_ne_nil address) fun c member =>
        Domain.isForbidden_of_mem (toAscii?_display_ipv4 address) member
    · exact isName_of_free nonempty fun c member => Domain.isForbidden_of_mem form member

theorem display_ne_nil {text : List Char} {host : Host} (accepted : parse text = some host) :
    host.display ≠ [] := by
  rcases isName_or_isBracketed accepted with name | ⟨inside, brackets⟩
  · exact name.nonempty
  · simp [brackets.whole]

theorem isHostChar_of_mem_display {text : List Char} {host : Host}
    (accepted : parse text = some host) {c : Char} (member : c ∈ host.display) :
    isHostChar c = true := by
  rcases isName_or_isBracketed accepted with name | ⟨inside, brackets⟩
  · exact name.characters c member
  · simp only [brackets.whole, List.mem_cons, List.mem_append, List.not_mem_nil, or_false] at member
    rcases member with rfl | within | rfl
    · decide
    · exact brackets.characters c within
    · decide

end Host
end EndpointResolution.Url
