import EndpointResolution.Function.Url
import EndpointResolution.Proofs.WebAddresses

/-!
What is reported of a web address. Whether a path is reported is read off the text of the address,
by its slashes alone, while the parser of addresses may also count backslashes and do without
slashes after the scheme. Put together again, the reported parts are reported again.
-/
namespace EndpointResolution.Function

open Url (Address WebAddress)

/-- The mark between a scheme and an authority. -/
def schemeMark : List Char := [':', '/', '/']

/-- The text shows a path: there is a slash after its first scheme mark and before the next `#`. -/
def ShowsPath (text : List Char) : Prop :=
  ∃ before between after, text = before ++ schemeMark ++ between ++ '/' :: after ∧
    '#' ∉ between ∧ ¬ schemeMark <:+: before ++ [':', '/']

theorem afterSchemeMark?_cons {c : Char} {rest : List Char} (other : ¬ schemeMark <+: c :: rest) :
    afterSchemeMark? (c :: rest) = afterSchemeMark? rest := by
  rw [afterSchemeMark?]
  rintro after rfl rfl
  exact other ⟨after, rfl⟩

/-- What follows the first scheme mark. -/
theorem afterSchemeMark?_eq_some_iff {text rest : List Char} :
    afterSchemeMark? text = some rest ↔
      ∃ before, text = before ++ schemeMark ++ rest ∧ ¬ schemeMark <:+: before ++ [':', '/'] := by
  constructor
  · intro found
    induction text with
    | nil => cases found
    | cons c others ih =>
      by_cases here : schemeMark <+: c :: others
      · obtain ⟨after, same⟩ := here
        rw [← same] at found ⊢
        obtain rfl := Option.some.inj found
        exact ⟨[], rfl, by decide⟩
      · rw [afterSchemeMark?_cons here] at found
        obtain ⟨before, rfl, first⟩ := ih found
        refine ⟨c :: before, rfl, fun earlier => ?_⟩
        rcases List.infix_cons_iff.mp earlier with start | later
        · exact here (start.trans ⟨'/' :: rest, by simp [schemeMark]⟩)
        · exact first later
  · rintro ⟨before, rfl, first⟩
    induction before with
    | nil => rfl
    | cons c before ih =>
      -- A mark at the start would end before the one that follows `before` does.
      have other : ¬ schemeMark <+: c :: (before ++ schemeMark ++ rest) := by
        intro start
        have within : c :: (before ++ [':', '/']) <+: c :: (before ++ schemeMark ++ rest) :=
          ⟨'/' :: rest, by simp [schemeMark]⟩
        have short : schemeMark.length ≤ (c :: (before ++ [':', '/'])).length := by
          simp [schemeMark]
        exact first (List.prefix_of_prefix_length_le start within short).isInfix
      rw [List.cons_append, List.cons_append, afterSchemeMark?_cons other]
      exact ih fun later => first (List.infix_cons later)

/-- A slash stands before the first `#`. -/
theorem contains_takeWhile_iff {text : List Char} :
    (text.takeWhile (· != '#')).contains '/' = true ↔
      ∃ between after, text = between ++ '/' :: after ∧ '#' ∉ between := by
  rw [List.contains_iff_mem]
  constructor
  · intro member
    obtain ⟨between, after, cut⟩ := List.append_of_mem member
    refine ⟨between, after ++ text.dropWhile (· != '#'), ?_, fun mark => ?_⟩
    · rw [← List.cons_append, ← List.append_assoc, ← cut, List.takeWhile_append_dropWhile]
    · have among : '#' ∈ text.takeWhile (· != '#') := cut ▸ List.mem_append_left _ mark
      have passes := List.mem_takeWhile_imp among
      simp at passes
  · rintro ⟨between, after, rfl, clean⟩
    have each : ∀ c ∈ between, (c != '#') = true := by
      intro c member
      have other : c ≠ '#' := fun same => clean (same ▸ member)
      simpa using other
    rw [List.takeWhile_append_of_pos each, List.takeWhile_cons_of_pos (by decide)]
    simp

/-- The test on a text decides whether it shows a path. -/
theorem writesPath_iff {text : List Char} : writesPath text = true ↔ ShowsPath text := by
  unfold writesPath ShowsPath
  split
  next absent =>
    simp only [Bool.false_eq_true, false_iff]
    rintro ⟨before, between, after, whole, -, first⟩
    have found : afterSchemeMark? text = some (between ++ '/' :: after) :=
      afterSchemeMark?_eq_some_iff.mpr ⟨before, by rw [whole, List.append_assoc], first⟩
    rw [absent] at found
    cases found
  next rest found =>
    rw [contains_takeWhile_iff]
    constructor
    · rintro ⟨between, after, rfl, clean⟩
      obtain ⟨before, rfl, first⟩ := afterSchemeMark?_eq_some_iff.mp found
      exact ⟨before, between, after, by simp, clean, first⟩
    · rintro ⟨before, between, after, whole, clean, first⟩
      have again : afterSchemeMark? text = some (between ++ '/' :: after) :=
        afterSchemeMark?_eq_some_iff.mpr ⟨before, by rw [whole, List.append_assoc], first⟩
      rw [found] at again
      exact ⟨between, after, Option.some.inj again, clean⟩

/-- A path with a slash at its start gets one at its end. -/
theorem normalizedPath_of_rooted {path : List Char} (rooted : path.head? = some '/') :
    normalizedPath path = if path.getLast? = some '/' then path else path ++ ['/'] := by
  have slash : '/' ∈ path := List.mem_of_mem_head? rooted
  have visible : ¬ path.all Text.isWhiteSpace = true := by
    intro blank
    exact absurd (List.all_eq_true.mp blank '/' slash) (by decide)
  simp only [normalizedPath, if_neg visible, if_pos rooted, List.nil_append]
  split
  · rw [List.append_nil]
  · rfl

/-- The parts of an address with the path that is reported of it. -/
def partsOf (address : Address) (host : Url.Host) (path : List Char) : Fields Value :=
  [("authority", .string (String.ofList address.authority)),
    ("isIp", .boolean host.isIp),
    ("normalizedPath", .string (String.ofList (normalizedPath path))),
    ("path", .string (String.ofList path)),
    ("scheme", .string address.scheme)]

/-- The path that is reported of an address with a text. -/
def reportedPath (text : String) (address : Address) : List Char :=
  if writesPath text.toList then address.path else []

/-- Parts are reported of the web addresses with a host and without a query. -/
theorem urlPartsWith?_eq_some_iff {parse : Url.Parser} {text : String} {parts : Fields Value} :
    urlPartsWith? parse text = some parts ↔ ∃ address host, parse text = some address ∧
      address.isWeb = true ∧ address.hasQuery = false ∧ address.host = some host ∧
      partsOf address host (reportedPath text address) = parts := by
  unfold urlPartsWith?
  rw [Option.bind_eq_bind, Option.bind_eq_some_iff]
  refine exists_congr fun address => ?_
  split
  next refused =>
    rw [Bool.or_eq_true, Bool.not_eq_true'] at refused
    constructor
    · rintro ⟨-, impossible⟩
      cases impossible
    · rintro ⟨host, -, web, query, -⟩
      simp [web, query] at refused
  next served =>
    obtain ⟨web, query⟩ : address.isWeb = true ∧ address.hasQuery = false := by
      simpa using served
    rw [Option.bind_eq_bind, Option.bind_eq_some_iff, ← exists_and_left]
    refine exists_congr fun host => ?_
    simp only [web, query, true_and, Option.pure_def, Option.some.injEq]
    rfl

/-- What is reported keeps the path of an address: it is the path, or nothing for a path that is a
slash, and the path with a slash at its end. -/
structure KeepsPath (own path normalized : List Char) : Prop where
  path : path = own ∨ path = [] ∧ own = ['/']
  normalized : normalized = if own.getLast? = some '/' then own else own ++ ['/']

/-- A path with a slash at its start is kept exactly if the text shows a path or the path is a
slash. -/
theorem keepsPath_reportedPath_iff (text : String) {address : Address}
    (rooted : address.path.head? = some '/') :
    KeepsPath address.path (reportedPath text address)
        (normalizedPath (reportedPath text address)) ↔
      ShowsPath text.toList ∨ address.path = ['/'] := by
  unfold reportedPath
  split
  next shown =>
    exact iff_of_true ⟨.inl rfl, normalizedPath_of_rooted rooted⟩ (.inl (writesPath_iff.mp shown))
  next hidden =>
    rw [writesPath_iff] at hidden
    constructor
    · rintro ⟨same | ⟨-, root⟩, -⟩
      · rw [← same] at rooted
        cases rooted
      · exact .inr root
    · rintro (shown | root)
      · exact absurd shown hidden
      · rw [root]
        exact ⟨.inr ⟨rfl, rfl⟩, rfl⟩

/-- What is reported of a text keeps the path of its address exactly if the text shows a path or the
path is a slash. Else there is no path reported at all. -/
theorem urlPartsWith?_keeps_path_iff {parse : Url.Parser} (roots : parse.RootsPaths) {text : String}
    {parts : Fields Value} (found : urlPartsWith? parse text = some parts) :
    ∃ address path normalized, parse text = some address ∧
      parts.get? "path" = some (.string (String.ofList path)) ∧
      parts.get? "normalizedPath" = some (.string (String.ofList normalized)) ∧
      (KeepsPath address.path path normalized ↔
        ShowsPath text.toList ∨ address.path = ['/']) ∧
      (¬ KeepsPath address.path path normalized → path = [] ∧ normalized = ['/']) := by
  obtain ⟨address, host, accepted, web, -, -, rfl⟩ := urlPartsWith?_eq_some_iff.mp found
  have kept := keepsPath_reportedPath_iff text (roots text address accepted web)
  refine ⟨address, reportedPath text address, normalizedPath (reportedPath text address), accepted,
    rfl, rfl, kept, fun lost => ?_⟩
  rw [kept, not_or, ← writesPath_iff] at lost
  have none : reportedPath text address = [] := if_neg lost.1
  rw [none]
  exact ⟨rfl, rfl⟩

/-- An address whose path starts with a backslash. -/
def backslashed : String := "https://example.com\\foo"

theorem toAscii?_example : Url.Domain.toAscii? "example.com".toList = some "example.com".toList :=
  Url.Domain.toAscii?_of_plain (Text.forall_mem_of_all (by decide)) (by decide)

theorem parse_backslashed : WebAddress.parse backslashed = some
    { scheme := .https
      host := .domain "example.com".toList
      port := none
      path := "/foo".toList
      hasQuery := false } := by
  have cut : WebAddress.cut? backslashed = some
      { scheme := .https
        host := "example.com".toList
        port := []
        path := "\\foo".toList
        hasQuery := false } := by decide
  have host : Url.Host.parse "example.com".toList = some (.domain "example.com".toList) :=
    (Url.Host.parse_of_toAscii? toAscii?_example (by decide)).trans (if_neg (by decide))
  exact WebAddress.parse_eq_some_iff.mpr ⟨_, cut, WebAddress.read_eq_some_iff.mpr
    ⟨by decide, host, rfl, rfl, by decide, rfl⟩⟩

theorem parser_backslashed : WebAddress.parser backslashed = some
    { scheme := "https"
      host := some (.domain "example.com".toList)
      authority := "example.com".toList
      path := "/foo".toList
      hasQuery := false } :=
  WebAddress.parser_eq_some_iff.mpr ⟨_, parse_backslashed, by decide⟩

theorem exists_urlPartsWith?_backslashed :
    ∃ parts, urlPartsWith? WebAddress.parser backslashed = some parts ∧
      parts.get? "path" = some (.string "") ∧
      parts.get? "normalizedPath" = some (.string "/") := by
  have hidden : writesPath backslashed.toList = false := by decide
  refine ⟨_, urlPartsWith?_eq_some_iff.mpr ⟨_, _, parser_backslashed, rfl, rfl, rfl, rfl⟩, ?_⟩
  rw [reportedPath, hidden]
  exact ⟨rfl, rfl⟩

theorem urlPartsWith?_keeps_path_iff_of_backslashed :
    WebAddress.parser.RootsPaths ∧
    ∃ parts address path normalized, urlPartsWith? WebAddress.parser backslashed = some parts ∧
      WebAddress.parser backslashed = some address ∧
      parts.get? "path" = some (.string (String.ofList path)) ∧
      parts.get? "normalizedPath" = some (.string (String.ofList normalized)) ∧
      (KeepsPath address.path path normalized ↔
        ShowsPath backslashed.toList ∨ address.path = ['/']) ∧
      (¬ KeepsPath address.path path normalized → path = [] ∧ normalized = ['/']) := by
  obtain ⟨parts, found, -⟩ := exists_urlPartsWith?_backslashed
  obtain ⟨address, path, normalized, rest⟩ :=
    urlPartsWith?_keeps_path_iff WebAddress.parser_rootsPaths found
  exact ⟨WebAddress.parser_rootsPaths, parts, address, path, normalized, found, rest⟩

/-- The path of the address with a backslash is lost: it is neither reported nor a slash. -/
theorem backslashed_loses_path :
    ∃ address parts, WebAddress.parser backslashed = some address ∧
      urlPartsWith? WebAddress.parser backslashed = some parts ∧ address.path = "/foo".toList ∧
      parts.get? "path" = some (.string "") ∧ parts.get? "normalizedPath" = some (.string "/") := by
  obtain ⟨parts, found, path, normalized⟩ := exists_urlPartsWith?_backslashed
  exact ⟨_, parts, parser_backslashed, found, rfl, path, normalized⟩

theorem afterSchemeMark?_textWith {address : Address} (web : address.isWeb = true)
    (suffix : List Char) :
    afterSchemeMark? (address.textWith suffix).toList = some (address.authority ++ suffix) := by
  rw [Address.toList_textWith]
  rw [Address.isWeb, Bool.or_eq_true, beq_iff_eq, beq_iff_eq] at web
  rcases web with http | https
  · rw [http]
    rfl
  · rw [https]
    rfl

/-- A text that is put together shows a path exactly if its suffix has a slash. -/
theorem writesPath_textWith {address : Address} (web : address.isWeb = true)
    (authority : '/' ∉ address.authority ∧ '#' ∉ address.authority) {suffix : List Char}
    (clean : '#' ∉ suffix) :
    writesPath (address.textWith suffix).toList = suffix.contains '/' := by
  have passes : ∀ c ∈ address.authority ++ suffix, (c != '#') = true := by
    intro c member
    rw [bne_iff_ne]
    rintro rfl
    exact (List.mem_append.mp member).elim authority.2 clean
  unfold writesPath
  rw [afterSchemeMark?_textWith web]
  simp only [List.takeWhile_eq_self_iff.mpr passes]
  simp [authority.1]

/-- The parts with a path are reported of the text that is put together from them. -/
theorem urlPartsWith?_textWith {parse : Url.Parser} {address : Address} {host : Url.Host}
    (web : address.isWeb = true) (query : address.hasQuery = false)
    (named : address.host = some host) (rooted : address.path.head? = some '/')
    (rereads : parse.Rereads address) :
    urlPartsWith? parse (address.textWith address.path) =
        some (partsOf address host address.path) ∧
      urlPartsWith? parse (address.textWith []) = some (partsOf address host []) := by
  constructor
  · have shown : writesPath (address.textWith address.path).toList = true := by
      rw [writesPath_textWith web rereads.authority rereads.path, List.contains_iff_mem]
      exact List.mem_of_mem_head? rooted
    refine urlPartsWith?_eq_some_iff.mpr ⟨address, host, rereads.whole, web, query, named, ?_⟩
    rw [reportedPath, if_pos shown]
  · have hidden : writesPath (address.textWith []).toList = false :=
      writesPath_textWith web rereads.authority List.not_mem_nil
    refine urlPartsWith?_eq_some_iff.mpr ⟨_, host, rereads.bare, web, query, named, ?_⟩
    rw [reportedPath, hidden]
    rfl

/-- The scheme, the authority and the path that are reported make up a text of which the same is
reported. -/
theorem urlPartsWith?_rebuilt {parse : Url.Parser} (roots : parse.RootsPaths) {text : String}
    {parts : Fields Value} (found : urlPartsWith? parse text = some parts)
    (rereads : ∀ address, parse text = some address → address.isWeb = true →
      address.hasQuery = false → parse.Rereads address) :
    ∃ scheme authority path, parts.get? "scheme" = some (.string scheme) ∧
      parts.get? "authority" = some (.string authority) ∧
      parts.get? "path" = some (.string path) ∧
      urlPartsWith? parse (scheme ++ "://" ++ authority ++ path) = some parts := by
  obtain ⟨address, host, accepted, web, query, named, rfl⟩ := urlPartsWith?_eq_some_iff.mp found
  refine ⟨_, _, _, rfl, rfl, rfl, ?_⟩
  have again := urlPartsWith?_textWith web query named (roots text address accepted web)
    (rereads address accepted web query)
  unfold reportedPath
  split
  · exact again.1
  · exact again.2

/-- An address with a circled letter in its domain, and no scheme mark but one in its path. -/
def circled : String := "https:user@Ⓔxample.com:8443/a/../b://c/#d"

-- The row is looked up in the characters of the table, as for `Idna.exists_directions`.
set_option maxRecDepth 100000 in
theorem shifted?_circledE : Url.Idna.shifted? 0x24ba = some 0x65 := by
  obtain ⟨characters, same, row⟩ : ∃ characters,
      Url.Idna.shifts = Text.HexTable.readRows none characters ∧
      (Text.HexTable.readRows none characters).findSome? (Url.Idna.shiftIn? 0x24ba) = some 0x65 :=
    ⟨_, congrArg (Text.HexTable.readRows none)
      (String.toList_ofList : String.toList (String.ofList _) = _), by decide +kernel⟩
  rw [Url.Idna.shifted?, same, row]

theorem map?_circled : Url.Idna.map? "Ⓔxample.com".toList = some "example.com".toList := by
  have letter : Url.Idna.mapChar? 'Ⓔ' = some ['e'] :=
    Url.Idna.mapChar?_of_shifted (by decide) shifted?_circledE
  have others : Url.Idna.map? "xample.com".toList = some "xample.com".toList :=
    Url.Idna.map?_of_ascii (Text.forall_mem_of_all (by decide))
  exact Url.Idna.map?_cons letter others

theorem toAscii?_circled :
    Url.Domain.toAscii? "Ⓔxample.com".toList = some "example.com".toList := by
  obtain ⟨mapped, decoded, same, rest⟩ := Url.Domain.toAscii?_eq_some_iff.mp toAscii?_example
  have plain : Url.Idna.map? "example.com".toList = some "example.com".toList :=
    Url.Idna.map?_of_ascii (Text.forall_mem_of_all (by decide))
  rw [plain, ← map?_circled] at same
  exact Url.Domain.toAscii?_eq_some_iff.mpr ⟨mapped, decoded, same, rest⟩

/-- The parts that the address with a circled letter is cut into. -/
def circledCut : WebAddress.Cut where
  scheme := .https
  host := "Ⓔxample.com".toList
  port := ":8443".toList
  path := "/a/../b://c/".toList
  hasQuery := false

theorem cut?_circled : WebAddress.cut? circled = some circledCut := by decide

theorem percentDecoded?_circled :
    Url.Host.percentDecoded? circledCut.host = some "Ⓔxample.com".toList :=
  Url.Host.percentDecoded?_of_not_mem (by decide)

theorem parse_circledHost :
    Url.Host.parse circledCut.host = some (.domain "example.com".toList) :=
  (Url.Host.parse_eq_of_toAscii? (by decide) percentDecoded?_circled toAscii?_circled
    (by decide)).trans (if_neg (by decide))

theorem parse_circled : WebAddress.parse circled = some
    { scheme := .https
      host := .domain "example.com".toList
      port := some 8443
      path := "/b://c/".toList
      hasQuery := false } :=
  WebAddress.parse_eq_some_iff.mpr ⟨_, cut?_circled, WebAddress.read_eq_some_iff.mpr
    ⟨by decide, parse_circledHost, by decide, rfl, by decide, rfl⟩⟩

theorem hasStableHost_circled : WebAddress.HasStableHost circled := by
  intro cut found decoded name plain _ accepted
  rw [cut?_circled] at found
  obtain rfl := Option.some.inj found
  rw [parse_circledHost] at accepted
  obtain rfl := Url.Host.domain.inj (Option.some.inj accepted)
  exact toAscii?_example

/-- What is reported of the address with a circled letter is reported of its parts together. -/
theorem urlPartsWith?_rebuilt_of_circled :
    WebAddress.parser.RootsPaths ∧
    (∀ address, WebAddress.parser circled = some address → address.isWeb = true →
      address.hasQuery = false → WebAddress.parser.Rereads address) ∧
    ∃ parts scheme authority path, urlPartsWith? WebAddress.parser circled = some parts ∧
      parts.get? "scheme" = some (.string scheme) ∧
      parts.get? "authority" = some (.string authority) ∧
      parts.get? "path" = some (.string path) ∧
      urlPartsWith? WebAddress.parser (scheme ++ "://" ++ authority ++ path) = some parts := by
  have accepted := WebAddress.parser_eq_some_iff.mpr ⟨_, parse_circled, rfl⟩
  have found := urlPartsWith?_eq_some_iff.mpr ⟨_, _, accepted, rfl, rfl, rfl, rfl⟩
  have rereads : ∀ address, WebAddress.parser circled = some address → address.isWeb = true →
      address.hasQuery = false → WebAddress.parser.Rereads address := by
    intro address same _ _
    rw [accepted] at same
    obtain rfl := Option.some.inj same
    exact WebAddress.rereads_report parse_circled rfl hasStableHost_circled
  obtain ⟨scheme, authority, path, rest⟩ :=
    urlPartsWith?_rebuilt WebAddress.parser_rootsPaths found rereads
  exact ⟨WebAddress.parser_rootsPaths, rereads, _, scheme, authority, path, found, rest⟩

end EndpointResolution.Function
