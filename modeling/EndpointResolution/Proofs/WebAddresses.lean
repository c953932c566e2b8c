import EndpointResolution.Proofs.Hosts
import EndpointResolution.Proofs.UrlPaths
import EndpointResolution.Url.Basic
import Mathlib.Data.List.TakeWhile

/-!
Web addresses put together from their parts. The scheme, the authority and the path of an address
that was read are read as the same parts again, and without the path the address has the path that
is a slash. So the parser of web addresses reads again what it reports.
-/
namespace EndpointResolution.Url.WebAddress

open Host (isHostChar IsName IsBracketed)

/-- A port after its colon, if there is one. -/
def portText : Option Nat → List Char
  | some port => ':' :: Text.writeDigits port
  | none => []

theorem authority_eq (address : WebAddress) :
    address.authority = address.host.display ++ portText address.port := by
  unfold authority
  cases address.port <;> rfl

theorem isHostChar_of_mem_portText {port : Option Nat} {c : Char} (member : c ∈ portText port) :
    isHostChar c = true := by
  cases port with
  | none => simp [portText] at member
  | some port =>
    rcases List.mem_cons.mp member with rfl | digit
    · decide
    · have decimal := Ipv4.isDigit_of_mem_writeDigits digit
      have value : (Text.hexValue? c).isSome = true := by simp [Text.hexValue?, decimal]
      exact (Host.isHostChar_of_hexValue? value).1

theorem splitPort_cons {before inside : Bool} {c : Char} (stays : c ≠ ':' ∨ before = true)
    (now : (if c = '[' then true else if c = ']' then false else before) = inside)
    (rest : List Char) :
    splitPort before (c :: rest) =
      (c :: (splitPort inside rest).1, (splitPort inside rest).2) := by
  have within : ¬(c = ':' ∧ !before) := by
    rintro ⟨colon, outside⟩
    rcases stays with other | brackets
    · exact other colon
    · simp [brackets] at outside
  subst now
  rw [splitPort, if_neg within]

/-- A text without colons and brackets belongs to the host. -/
theorem splitPort_append {text : List Char} (colon : ':' ∉ text) (opening : '[' ∉ text)
    (rest : List Char) : splitPort false (text ++ rest) =
      (text ++ (splitPort false rest).1, (splitPort false rest).2) := by
  induction text with
  | nil => rfl
  | cons c others ih =>
    rw [List.mem_cons, not_or] at colon opening
    have outside : (if c = '[' then true else if c = ']' then false else false) = false := by
      simp [Ne.symm opening.1]
    rw [List.cons_append, splitPort_cons (.inl (Ne.symm colon.1)) outside,
      ih colon.2 opening.2]
    rfl

/-- So does a text in brackets, whether there are colons in it or not. -/
theorem splitPort_brackets {inside : List Char} (closing : ']' ∉ inside) (rest : List Char) :
    splitPort true (inside ++ ']' :: rest) =
      (inside ++ ']' :: (splitPort false rest).1, (splitPort false rest).2) := by
  induction inside with
  | nil => exact splitPort_cons (.inr rfl) rfl rest
  | cons c others ih =>
    rw [List.mem_cons, not_or] at closing
    have within : (if c = '[' then true else if c = ']' then false else true) = true := by
      simp [Ne.symm closing.1]
    rw [List.cons_append, splitPort_cons (.inr rfl) within, ih closing.2]
    rfl

theorem splitPort_portText (port : Option Nat) :
    splitPort false (portText port) = ([], portText port) := by
  cases port <;> rfl

/-- The text of a host is parted from that of a port. -/
theorem splitPort_display {text : List Char} {host : Host} (accepted : Host.parse text = some host)
    (port : Option Nat) :
    splitPort false (host.display ++ portText port) = (host.display, portText port) := by
  rcases Host.isName_or_isBracketed accepted with name | ⟨inside, brackets⟩
  · rw [splitPort_append name.colon name.opening, splitPort_portText, List.append_nil]
  · have inner := splitPort_brackets brackets.closing (portText port)
    rw [splitPort_portText] at inner
    have start : (if '[' = '[' then true else if '[' = ']' then false else false) = true := rfl
    rw [brackets.whole, List.cons_append, List.append_assoc, List.singleton_append,
      splitPort_cons (.inl (by decide)) start, inner]

/-- A port is written for the scheme that it was read for. -/
theorem readPort_portText {scheme : Scheme} {text : List Char} {port : Option Nat}
    (read : readPort scheme text = some port) : readPort scheme (portText port) = some port := by
  cases port with
  | none => rfl
  | some port =>
    unfold readPort at read
    split at read
    · cases read
    · cases read
    split at read
    · cases read
    next number _ =>
      split at read
      · cases read
      next small =>
        obtain ⟨other, rfl⟩ : number ≠ scheme.defaultPort ∧ number = port := by simpa using read
        have nonempty : Text.writeDigits number ≠ [] := Nat.toDigits_ne_nil
        rw [portText, readPort, Text.readDigits_writeDigits]
        · simp [small, other]
        · exact nonempty

theorem cleaned_of_visible {text : List Char} (each : ∀ c ∈ text, 0x20 < c.toNat) :
    cleaned text = text := by
  have trim {text : List Char} (each : ∀ c ∈ text, 0x20 < c.toNat) :
      text.dropWhile (fun c => decide (c.toNat ≤ 0x20)) = text := by
    cases text with
    | nil => rfl
    | cons c rest =>
      have visible := each c List.mem_cons_self
      exact List.dropWhile_cons_of_neg (by simpa using visible)
  have backwards : ∀ c ∈ text.reverse, 0x20 < c.toNat :=
    fun c member => each c (List.mem_reverse.mp member)
  unfold cleaned
  simp only [trim each, trim backwards, List.reverse_reverse]
  refine List.filter_eq_self.mpr fun c member => ?_
  have visible := each c member
  have blanks : ∀ blank ∈ ['\t', '\n', '\r'], c ≠ blank := by
    rintro blank among rfl
    have hidden : ∀ blank ∈ ['\t', '\n', '\r'], blank.toNat ≤ 0x20 :=
      Text.forall_mem_of_all (by decide)
    exact absurd (hidden c among) (by omega)
  simpa [and_assoc] using blanks

theorem readScheme_display (scheme : Scheme) (rest : List Char) :
    readScheme (scheme.display.toList ++ ':' :: rest) = some (scheme, rest) := by
  cases scheme <;> rfl

/-- A path, or what stands in place of one, after an authority: nothing, or a slash and characters
that end no path. -/
structure IsSuffix (text : List Char) : Prop where
  slash : text = [] ∨ ∃ rest, text = '/' :: rest
  characters : ∀ c ∈ text, endsPath c = false
  visible : ∀ c ∈ text, 0x20 < c.toNat

theorem endsAuthority_of_isHostChar {c : Char} (char : isHostChar c = true) :
    endsAuthority c = false := by
  have separators : ∀ other ∈ "/\\?#".toList, c ≠ other := by
    rintro other among rfl
    have none : ∀ c ∈ "/\\?#".toList, isHostChar c = false :=
      Text.forall_mem_of_all (by decide)
    rw [none c among] at char
    cases char
  simpa [endsAuthority, isSlash, endsPath, and_assoc] using separators

theorem visible_of_isHostChar {c : Char} (char : isHostChar c = true) : 0x20 < c.toNat := by
  rw [isHostChar, Bool.and_eq_true, decide_eq_true_eq] at char
  exact char.1

theorem afterUserInfo_of_not_mem {text : List Char} (clean : '@' ∉ text) :
    afterUserInfo text = text := by
  have each : ∀ c ∈ text.reverse, (c != '@') = true := by
    intro c member
    have other : c ≠ '@' := fun same => clean (same ▸ List.mem_reverse.mp member)
    simpa using other
  rw [afterUserInfo, List.takeWhile_eq_self_iff.mpr each, List.reverse_reverse]

/-- What stands between two slashes and a suffix is the authority. -/
theorem afterScheme_slashes (scheme : Scheme) {authority suffix : List Char}
    (nonempty : authority ≠ []) (each : ∀ c ∈ authority, isHostChar c = true)
    (valid : IsSuffix suffix) :
    Cut.afterScheme scheme ('/' :: '/' :: (authority ++ suffix)) =
      { scheme := scheme
        host := (splitPort false authority).1
        port := (splitPort false authority).2
        path := suffix
        hasQuery := false } := by
  have inside : ∀ c ∈ authority, (!endsAuthority c) = true := by
    intro c member
    simp [endsAuthority_of_isHostChar (each c member)]
  have relative : ('/' :: '/' :: (authority ++ suffix)).dropWhile isSlash = authority ++ suffix := by
    obtain ⟨first, rest, rfl⟩ := List.exists_cons_of_ne_nil nonempty
    have start := endsAuthority_of_isHostChar (each first List.mem_cons_self)
    rw [endsAuthority, Bool.or_eq_false_iff] at start
    rw [List.dropWhile_cons_of_pos rfl, List.dropWhile_cons_of_pos rfl, List.cons_append,
      List.dropWhile_cons_of_neg (by simp [start.1])]
  have ending : suffix.takeWhile (fun c => !endsAuthority c) = [] ∧
      suffix.dropWhile (fun c => !endsAuthority c) = suffix := by
    rcases valid.slash with rfl | ⟨rest, rfl⟩
    · exact ⟨rfl, rfl⟩
    · exact ⟨List.takeWhile_cons_of_neg (by decide), List.dropWhile_cons_of_neg (by decide)⟩
  have path : ∀ c ∈ suffix, (!endsPath c) = true := by
    intro c member
    simp [valid.characters c member]
  have noUser : '@' ∉ authority := by
    intro member
    exact absurd (each '@' member) (by decide)
  unfold Cut.afterScheme
  rw [relative]
  simp only [List.takeWhile_append_of_pos inside, List.dropWhile_append_of_pos inside, ending.1,
    ending.2, List.append_nil, afterUserInfo_of_not_mem noUser,
    List.takeWhile_eq_self_iff.mpr path, List.dropWhile_eq_nil_iff.mpr path]
  rfl

/-- What is read from the parts of a text. -/
theorem read_eq_some_iff {cut : Cut} {address : WebAddress} :
    cut.read = some address ↔ cut.host ≠ [] ∧ Host.parse cut.host = some address.host ∧
      readPort cut.scheme cut.port = some address.port ∧ address.scheme = cut.scheme ∧
      address.path = Path.normalize cut.path ∧ address.hasQuery = cut.hasQuery := by
  obtain ⟨scheme, host, port, path, hasQuery⟩ := address
  by_cases empty : cut.host = []
  · simp [Cut.read, empty]
  · have filled : cut.host.isEmpty = false := by simpa using empty
    simp only [Cut.read, filled, Bool.false_eq_true, if_false, Option.bind_eq_bind,
      Option.bind_eq_some_iff, Option.pure_def, Option.some.injEq, WebAddress.mk.injEq]
    constructor
    · rintro ⟨_, read, _, number, rfl, rfl, rfl, rfl, rfl⟩
      exact ⟨empty, read, number, rfl, rfl, rfl⟩
    · rintro ⟨-, read, number, rfl, rfl, rfl⟩
      exact ⟨_, read, _, number, rfl, rfl, rfl, rfl, rfl⟩

theorem parse_eq_some_iff {text : String} {address : WebAddress} :
    parse text = some address ↔ ∃ cut, cut? text = some cut ∧ cut.read = some address := by
  simp only [parse, Option.bind_eq_bind, Option.bind_eq_some_iff]

/-- The path of an address is a normalized one. -/
theorem exists_path {text : String} {address : WebAddress} (accepted : parse text = some address) :
    ∃ source, address.path = Path.normalize source := by
  obtain ⟨cut, -, read⟩ := parse_eq_some_iff.mp accepted
  obtain ⟨-, -, -, -, path, -⟩ := read_eq_some_iff.mp read
  exact ⟨cut.path, path⟩

theorem isSuffix_nil : IsSuffix [] := ⟨.inl rfl, by simp, by simp⟩

theorem visible_of_isNormalChar {c : Char} (normal : Path.isNormalChar c = true) :
    endsPath c = false ∧ 0x20 < c.toNat := by
  have bound : c.toNat < 0x7f := by
    simp only [Path.isNormalChar, Path.isPathChar, Bool.and_eq_true, decide_eq_true_eq] at normal
    exact normal.1.1.2
  have each : ∀ n < 128, Path.isNormalChar (Char.ofNat n) = true →
      endsPath (Char.ofNat n) = false ∧ 0x20 < (Char.ofNat n).toNat := by decide
  exact Text.of_isAscii
    (fun c => Path.isNormalChar c = true → endsPath c = false ∧ 0x20 < c.toNat) each
    (Text.isAscii_iff.mpr (by omega)) normal

theorem isSuffix_normalize (path : List Char) : IsSuffix (Path.normalize path) where
  slash := .inr (Path.exists_normalize path)
  characters := fun _ member => (visible_of_isNormalChar (Path.isNormalChar_of_mem member)).1
  visible := fun _ member => (visible_of_isNormalChar (Path.isNormalChar_of_mem member)).2

theorem isHostChar_of_mem_authority {text : String} {address : WebAddress}
    (accepted : parse text = some address) {c : Char} (member : c ∈ address.authority) :
    isHostChar c = true := by
  obtain ⟨cut, -, read⟩ := parse_eq_some_iff.mp accepted
  obtain ⟨-, host, -⟩ := read_eq_some_iff.mp read
  rw [authority_eq, List.mem_append] at member
  rcases member with inHost | inPort
  · exact Host.isHostChar_of_mem_display host inHost
  · exact isHostChar_of_mem_portText inPort

/-- The host of the text is stable: if its domain has characters beyond ASCII there, the ASCII form
of the domain is its own form. It is not where a label in Punycode is too long to be read again. -/
def HasStableHost (text : String) : Prop :=
  ∀ cut, cut? text = some cut → Host.IsStable cut.host

theorem toList_textWith (address : WebAddress) (suffix : List Char) :
    (address.report.textWith suffix).toList =
      address.scheme.display.toList ++ ':' :: '/' :: '/' :: (address.authority ++ suffix) :=
  address.report.toList_textWith suffix

/-- The text of an address is cut into the scheme, the host, the port and the suffix. -/
theorem cut?_textWith {text : String} {address : WebAddress} (accepted : parse text = some address)
    {suffix : List Char} (valid : IsSuffix suffix) :
    cut? (address.report.textWith suffix) = some
      { scheme := address.scheme
        host := address.host.display
        port := portText address.port
        path := suffix
        hasQuery := false } := by
  obtain ⟨source, -, read⟩ := parse_eq_some_iff.mp accepted
  obtain ⟨-, host, -⟩ := read_eq_some_iff.mp read
  have nonempty : address.authority ≠ [] := by
    rw [authority_eq]
    exact List.append_ne_nil_of_left_ne_nil (Host.display_ne_nil host) _
  have each : ∀ c ∈ address.authority, isHostChar c = true :=
    fun c => isHostChar_of_mem_authority accepted
  have clean : cleaned (address.report.textWith suffix).toList =
      (address.report.textWith suffix).toList := by
    refine cleaned_of_visible ?_
    rw [toList_textWith]
    simp only [List.forall_mem_append, List.forall_mem_cons]
    refine ⟨?_, by decide, by decide, by decide,
      fun c member => visible_of_isHostChar (each c member), valid.visible⟩
    cases address.scheme <;> exact Text.forall_mem_of_all (by decide)
  have parted : splitPort false address.authority =
      (address.host.display, portText address.port) := by
    rw [authority_eq, splitPort_display host]
  rw [cut?, clean, toList_textWith, readScheme_display, Option.map_some]
  simp only [afterScheme_slashes address.scheme nonempty each valid, parted]

/-- An address is read again from its scheme and its authority with a suffix. -/
theorem parse_textWith {text : String} {address : WebAddress} (accepted : parse text = some address)
    (stable : HasStableHost text) {suffix : List Char} (valid : IsSuffix suffix) :
    parse (address.report.textWith suffix) =
      some { address with path := Path.normalize suffix, hasQuery := false } := by
  obtain ⟨source, found, read⟩ := parse_eq_some_iff.mp accepted
  obtain ⟨-, host, port, scheme, -, -⟩ := read_eq_some_iff.mp read
  refine parse_eq_some_iff.mpr ⟨_, cut?_textWith accepted valid, read_eq_some_iff.mpr
    ⟨Host.display_ne_nil host, ?_, ?_, rfl, rfl, rfl⟩⟩
  · exact Host.parse_display host (stable source found)
  · exact readPort_portText (scheme ▸ port)

theorem parser_eq_some_iff {text : String} {reported : Address} :
    parser text = some reported ↔ ∃ address, parse text = some address ∧ address.report = reported :=
  Option.map_eq_some_iff

/-- The parser reports paths that start with a slash. -/
theorem parser_rootsPaths : parser.RootsPaths := by
  intro text reported accepted _
  obtain ⟨address, read, rfl⟩ := parser_eq_some_iff.mp accepted
  obtain ⟨source, normal⟩ := exists_path read
  obtain ⟨rest, slash⟩ := Path.exists_normalize source
  rw [report, normal, slash]
  rfl

/-- What the parser reports of the text that is put together from an address without a query. -/
theorem parser_textWith {text : String} {address : WebAddress} (accepted : parse text = some address)
    (query : address.hasQuery = false) (stable : HasStableHost text) {suffix : List Char}
    (valid : IsSuffix suffix) :
    parser (address.report.textWith suffix) =
      some { address.report with path := Path.normalize suffix } := by
  refine parser_eq_some_iff.mpr ⟨_, parse_textWith accepted stable valid, ?_⟩
  rw [← query]
  rfl

/-- The parser reads again what it reports of a text with a stable host. -/
theorem rereads_report {text : String} {address : WebAddress} (accepted : parse text = some address)
    (query : address.hasQuery = false) (stable : HasStableHost text) :
    parser.Rereads address.report := by
  obtain ⟨source, normal⟩ := exists_path accepted
  have valid : IsSuffix address.path := normal ▸ isSuffix_normalize source
  have same : Path.normalize address.path = address.path := by
    rw [normal, Path.normalize_normalize]
  have host {c : Char} (member : c ∈ address.authority) : isHostChar c = true :=
    isHostChar_of_mem_authority accepted member
  have whole := parser_textWith accepted query stable valid
  rw [same] at whole
  exact {
    authority := ⟨fun slash => absurd (host slash) (by decide),
      fun mark => absurd (host mark) (by decide)⟩
    path := fun mark => absurd (valid.characters '#' mark) (by decide)
    whole := whole
    bare := parser_textWith accepted query stable isSuffix_nil }

end EndpointResolution.Url.WebAddress
