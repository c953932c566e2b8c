import EndpointResolution.Function.Standard
import EndpointResolution.Proofs.FieldOrder
import EndpointResolution.Proofs.Results
import EndpointResolution.Proofs.Sequence
import Mathlib.Data.List.Induction

/-!
Endpoints as they are put together. Headers are added to and properties are replaced, each under its
name, so that an endpoint depends on what is done under every single name, and in which order there,
and on nothing else. Its value has the texts of all values added to a header and the value of what a
property was set to last, if there are any and it is not empty. What was replaced is not evaluated.
-/
namespace EndpointResolution

namespace Fields

section

universe u

variable {α : Type u}

theorem get?_insert (key other : String) (value : α) (fields : Fields α) :
    get? other (insert key value fields) = if key = other then some value else get? other fields := by
  split
  next same => rw [same, get?_insert_self]
  next distinct => rw [get?_insert_of_ne (Ne.symm distinct)]

/-- Two ascending lists in which every key has the same entry are the same. -/
theorem Ascending.eq_of_get? {left right : Fields α} (first : left.Ascending)
    (second : right.Ascending) (same : ∀ key, get? key left = get? key right) : left = right := by
  refine first.eq_of_mem_iff second ?_
  rintro ⟨key, value⟩
  rw [first.mem_iff, second.mem_iff, same]

end

variable {α β ε : Type}

/-- Computes the entries in order and keeps some of the results under their keys. -/
def collect (compute : α → Except ε β) (keep : β → Bool) : Fields α → Except ε (Fields β)
  | [] => .ok []
  | (key, value) :: rest =>
    match compute value with
    | .error failure => .error failure
    | .ok result =>
      (collect compute keep rest).map fun others =>
        if keep result then (key, result) :: others else others

variable {compute : α → Except ε β} {keep : β → Bool} {fields : Fields α} {results : Fields β}

theorem collect_cons (key : String) (value : α) (rest : Fields α) :
    collect compute keep ((key, value) :: rest) = (compute value).bind fun result =>
      (collect compute keep rest).map fun others =>
        if keep result then (key, result) :: others else others := by
  rw [collect]
  cases compute value <;> rfl

/-- There are results if every entry can be computed. -/
theorem exists_collect_iff (keep : β → Bool) : (∃ results, collect compute keep fields = .ok results) ↔
    ∀ entry ∈ fields, ∃ result, compute entry.2 = .ok result := by
  induction fields with
  | nil => simp [collect]
  | cons entry rest ih =>
    obtain ⟨key, value⟩ := entry
    simp only [collect_cons, bind_eq_ok_iff, map_eq_ok_iff, List.forall_mem_cons, ← ih]
    grind

/-- The results are those of the entries that are kept. -/
theorem mem_collect_iff (collected : collect compute keep fields = .ok results) {key : String}
    {result : β} : (key, result) ∈ results ↔
      ∃ value, (key, value) ∈ fields ∧ compute value = .ok result ∧ keep result = true := by
  induction fields generalizing results with
  | nil =>
    cases collected
    simp
  | cons entry rest ih =>
    obtain ⟨first, value⟩ := entry
    rw [collect_cons, bind_eq_ok_iff] at collected
    obtain ⟨computed, here, later⟩ := collected
    obtain ⟨others, more, rfl⟩ := exists_of_map_eq_ok later
    split <;> grind

theorem Ascending.collect (ascending : fields.Ascending)
    (collected : Fields.collect compute keep fields = .ok results) : results.Ascending := by
  induction fields generalizing results with
  | nil =>
    cases collected
    exact .nil
  | cons entry rest ih =>
    obtain ⟨below, tail⟩ := List.pairwise_cons.mp ascending
    rw [collect_cons, bind_eq_ok_iff] at collected
    obtain ⟨computed, -, later⟩ := collected
    obtain ⟨others, more, rfl⟩ := exists_of_map_eq_ok later
    have ordered := ih tail more
    split
    · refine List.pairwise_cons.mpr ⟨?_, ordered⟩
      rintro ⟨key, result⟩ member
      obtain ⟨value, present, -⟩ := (mem_collect_iff more).mp member
      exact below (key, value) present
    · exact ordered

/-- A key without an entry has no result. -/
theorem get?_collect_none (collected : collect compute keep fields = .ok results) {key : String}
    (absent : get? key fields = none) : get? key results = none := by
  rw [get?_eq_none_iff] at absent ⊢
  rintro ⟨other, result⟩ member
  obtain ⟨value, present, -⟩ := (mem_collect_iff collected).mp member
  exact absent (other, value) present

/-- A key with an entry has its result, if that is kept. -/
theorem get?_collect_some (ascending : fields.Ascending)
    (collected : collect compute keep fields = .ok results) {key : String} {value : α}
    (present : get? key fields = some value) :
    ∃ result, compute value = .ok result ∧
      get? key results = if keep result then some result else none := by
  have member := mem_of_get? present
  obtain ⟨result, computed⟩ := (exists_collect_iff keep).mp ⟨results, collected⟩ _ member
  have ordered := ascending.collect collected
  refine ⟨result, computed, ?_⟩
  split
  next kept =>
    exact ordered.get?_of_mem ((mem_collect_iff collected).mpr ⟨value, member, computed, kept⟩)
  next dropped =>
    cases found : get? key results with
    | none => rfl
    | some other =>
      obtain ⟨same, there, done, kept⟩ := (mem_collect_iff collected).mp (mem_of_get? found)
      cases present.symm.trans (ascending.get?_of_mem there)
      cases computed.symm.trans done
      exact absurd kept dropped

end Fields

namespace EndpointTemplate

/-! ## Assembly -/

/-- A call that puts something into an endpoint. -/
inductive Addition where
  /-- Adds values to the header of a name. -/
  | header (name : String) (values : List Expr)
  /-- Sets the property of a name. -/
  | property (name : String) (value : Expr)

namespace Addition

/-- What is added to the header of a name. -/
def header? (name : String) : Addition → Option (List Expr)
  | .header other values => if other = name then some values else none
  | .property _ _ => none

/-- What the property of a name is set to. -/
def property? (name : String) : Addition → Option Expr
  | .header _ _ => none
  | .property other value => if other = name then some value else none

end Addition

/-- The endpoint with an addition. -/
def add (endpoint : EndpointTemplate) : Addition → EndpointTemplate
  | .header name values => endpoint.withHeader name values
  | .property name value => endpoint.withProperty name value

/-- The endpoint of an address after additions in order. -/
def assemble (url : Expr) (additions : List Addition) : EndpointTemplate :=
  additions.foldl add (.ofUrl url)

/-- All values added to the header of a name, in order. -/
def headerValues (name : String) (additions : List Addition) : List Expr :=
  (additions.filterMap (Addition.header? name)).flatten

/-- What the property of a name was set to last. -/
def lastProperty? (name : String) (additions : List Addition) : Option Expr :=
  (additions.filterMap (Addition.property? name)).getLast?

/-- The two lists have the same additions to every header and to every property, in the same order:
additions to different ones may have changed places. -/
structure SameByName (additions others : List Addition) : Prop where
  headers : ∀ name,
    additions.filterMap (Addition.header? name) = others.filterMap (Addition.header? name)
  properties : ∀ name,
    additions.filterMap (Addition.property? name) = others.filterMap (Addition.property? name)

variable {url : Expr} {additions others : List Addition}

theorem assemble_concat (url : Expr) (additions : List Addition) (addition : Addition) :
    assemble url (additions ++ [addition]) = (assemble url additions).add addition :=
  List.foldl_concat _ _ _ _

theorem get?_headers_add (endpoint : EndpointTemplate) (addition : Addition) (name : String) :
    Fields.get? name (endpoint.add addition).headers = match addition.header? name with
      | none => Fields.get? name endpoint.headers
      | some values => some ((Fields.get? name endpoint.headers).getD [] ++ values) := by
  cases addition with
  | property other value => rfl
  | header other values =>
    simp only [add, withHeader, Fields.modify, Fields.get?_insert, Addition.header?]
    by_cases same : other = name <;> simp [same]

theorem get?_properties_add (endpoint : EndpointTemplate) (addition : Addition) (name : String) :
    Fields.get? name (endpoint.add addition).properties = match addition.property? name with
      | none => Fields.get? name endpoint.properties
      | some value => some value := by
  cases addition with
  | header other values => rfl
  | property other value =>
    simp only [add, withProperty, Fields.get?_insert, Addition.property?]
    by_cases same : other = name <;> simp [same]

/-- The headers of an assembled endpoint are those that something was added to, if only an empty list,
and have all that was added. -/
theorem get?_headers_assemble (url : Expr) (additions : List Addition) (name : String) :
    Fields.get? name (assemble url additions).headers =
      if additions.filterMap (Addition.header? name) = [] then none
      else some (headerValues name additions) := by
  induction additions using List.reverseRecOn with
  | nil => rfl
  | append_singleton before last ih =>
    rw [assemble_concat, get?_headers_add, ih, headerValues, headerValues, List.filterMap_append]
    cases found : last.header? name with
    | none => simp [found]
    | some values =>
      by_cases first : before.filterMap (Addition.header? name) = [] <;> simp [found, first]

theorem get?_properties_assemble (url : Expr) (additions : List Addition) (name : String) :
    Fields.get? name (assemble url additions).properties = lastProperty? name additions := by
  induction additions using List.reverseRecOn with
  | nil => rfl
  | append_singleton before last ih =>
    rw [assemble_concat, get?_properties_add, ih, lastProperty?, lastProperty?,
      List.filterMap_append]
    cases found : last.property? name <;> simp [found]

theorem ascending_assemble (url : Expr) (additions : List Addition) :
    (assemble url additions).headers.Ascending ∧
      (assemble url additions).properties.Ascending := by
  induction additions using List.reverseRecOn with
  | nil => exact ⟨.nil, .nil⟩
  | append_singleton before last ih =>
    rw [assemble_concat]
    cases last with
    | header name values => exact ⟨ih.1.insert name _, ih.2⟩
    | property name value => exact ⟨ih.1, ih.2.insert name value⟩

theorem url_assemble (url : Expr) (additions : List Addition) :
    (assemble url additions).url = url ∧ (assemble url additions).location = url.location := by
  induction additions using List.reverseRecOn with
  | nil => exact ⟨rfl, rfl⟩
  | append_singleton before last ih =>
    rw [assemble_concat]
    cases last <;> exact ih

/-- Additions to different names may change places. -/
theorem assemble_eq_of_sameByName (same : SameByName additions others) :
    assemble url additions = assemble url others := by
  obtain ⟨headers, properties⟩ := ascending_assemble url additions
  obtain ⟨otherHeaders, otherProperties⟩ := ascending_assemble url others
  have sameHeaders : (assemble url additions).headers = (assemble url others).headers := by
    refine headers.eq_of_get? otherHeaders fun name => ?_
    rw [get?_headers_assemble, get?_headers_assemble, headerValues, headerValues, same.headers]
  have sameProperties : (assemble url additions).properties = (assemble url others).properties := by
    refine properties.eq_of_get? otherProperties fun name => ?_
    rw [get?_properties_assemble, get?_properties_assemble, lastProperty?, lastProperty?,
      same.properties]
  obtain ⟨address, place⟩ := url_assemble url additions
  obtain ⟨otherAddress, otherPlace⟩ := url_assemble url others
  generalize assemble url additions = first at *
  generalize assemble url others = second at *
  cases first
  cases second
  simp_all

/-! ## Evaluation -/

variable {scope : Scope Value}

theorem evalString_eq_ok_iff {expr : Expr} {text : String} :
    expr.evalString scope = .ok text ↔ expr.eval scope = .ok (.string text) := by
  rw [Expr.evalString_eq_bind, bind_eq_ok_iff]
  constructor
  · rintro ⟨value, evaluated, known⟩
    cases value <;> cases known
    exact evaluated
  · exact fun evaluated => ⟨_, evaluated, rfl⟩

/-- The texts are the values of the expressions, in order. -/
def HaveTexts (scope : Scope Value) : List Expr → List String → Prop :=
  List.Forall₂ fun expr text => expr.eval scope = .ok (.string text)

theorem evalHeader_eq_ok_iff {values : List Expr} {texts : List String} :
    evalHeader scope values = .ok texts ↔ HaveTexts scope values texts := by
  induction values generalizing texts with
  | nil => simp [evalHeader, HaveTexts, eq_comm]
  | cons value rest ih =>
    simp only [evalHeader_cons, bind_eq_ok_iff, map_eq_ok_iff, evalString_eq_ok_iff, ih, HaveTexts,
      List.forall₂_cons_left_iff]
    grind

theorem HaveTexts.unique {values : List Expr} {texts others : List String}
    (first : HaveTexts scope values texts) (second : HaveTexts scope values others) :
    texts = others := by
  rw [← evalHeader_eq_ok_iff] at first second
  exact Except.ok.inj (first.symm.trans second)

theorem exists_haveTexts_iff {values : List Expr} : (∃ texts, HaveTexts scope values texts) ↔
    ∀ value ∈ values, ∃ text, value.eval scope = .ok (.string text) := by
  induction values with
  | nil => exact ⟨fun _ => nofun, fun _ => ⟨[], .nil⟩⟩
  | cons value rest ih =>
    rw [List.forall_mem_cons, ← ih]
    simp only [HaveTexts, List.forall₂_cons_left_iff]
    grind

theorem evalHeaders_eq_collect (headers : Fields (List Expr)) :
    evalHeaders scope headers = headers.collect (evalHeader scope) fun texts => !texts.isEmpty := by
  induction headers with
  | nil => rfl
  | cons header rest ih =>
    rw [evalHeaders_cons, Fields.collect_cons, ih]
    simp only [Bool.not_eq_true', ← Bool.not_eq_true, ite_not]

theorem evalProperties_eq_collect (properties : Fields Expr) :
    evalProperties scope properties =
      properties.collect (·.eval scope) fun value => !value.isEmpty := by
  induction properties with
  | nil => rfl
  | cons entry rest ih =>
    rw [evalProperties_cons, Fields.collect_cons, ih]
    simp only [Bool.not_eq_true', ← Bool.not_eq_true, ite_not]

/-- The endpoint has a value exactly if its parts have values, of which those that are empty are left
out. -/
theorem eval_eq_ok_iff {endpoint : EndpointTemplate} {result : ResolvedEndpoint} :
    endpoint.eval scope = .ok result ↔
      endpoint.url.eval scope = .ok (.string result.url) ∧
      endpoint.headers.collect (evalHeader scope) (fun texts => !texts.isEmpty) =
        .ok result.headers ∧
      endpoint.properties.collect (·.eval scope) (fun value => !value.isEmpty) =
        .ok result.properties := by
  obtain ⟨address, headers, properties⟩ := result
  simp only [eval_eq_bind, bind_eq_ok_iff, map_eq_ok_iff, evalString_eq_ok_iff,
    evalHeaders_eq_collect, evalProperties_eq_collect, ResolvedEndpoint.mk.injEq]
  grind

/-- The endpoint of an address after additions, in a scope: what it has under every name. -/
structure Assembled (scope : Scope Value) (url : Expr) (additions : List Addition)
    (result : ResolvedEndpoint) : Prop where
  url : url.eval scope = .ok (.string result.url)
  /-- A header has the texts of all values added to it, and is there if these are any. -/
  headers : ∀ name, ∃ texts, HaveTexts scope (headerValues name additions) texts ∧
    Fields.get? name result.headers = if texts = [] then none else some texts
  /-- A property has the value of what it was set to last, and is there if that is not empty. -/
  properties : ∀ name expr, lastProperty? name additions = some expr →
    ∃ value, expr.eval scope = .ok value ∧
      Fields.get? name result.properties = if value = .empty then none else some value
  /-- What was never set is not there. -/
  others : ∀ name, lastProperty? name additions = none →
    Fields.get? name result.properties = none
  ascending : result.headers.Ascending ∧ result.properties.Ascending

theorem Assembled.unique {first second : ResolvedEndpoint}
    (left : Assembled scope url additions first) (right : Assembled scope url additions second) :
    first = second := by
  have sameUrl : first.url = second.url := by
    have same := left.url.symm.trans right.url
    simpa using same
  have sameHeaders : first.headers = second.headers := by
    refine left.ascending.1.eq_of_get? right.ascending.1 fun name => ?_
    obtain ⟨texts, given, found⟩ := left.headers name
    obtain ⟨others, again, there⟩ := right.headers name
    rw [found, there, given.unique again]
  have sameProperties : first.properties = second.properties := by
    refine left.ascending.2.eq_of_get? right.ascending.2 fun name => ?_
    cases last : lastProperty? name additions with
    | none => rw [left.others name last, right.others name last]
    | some expr =>
      obtain ⟨value, evaluated, found⟩ := left.properties name expr last
      obtain ⟨other, again, there⟩ := right.properties name expr last
      cases evaluated.symm.trans again
      rw [found, there]
  cases first
  cases second
  simp_all

theorem assembled_of_eval {result : ResolvedEndpoint}
    (evaluated : (assemble url additions).eval scope = .ok result) :
    Assembled scope url additions result := by
  obtain ⟨address, headers, properties⟩ := eval_eq_ok_iff.mp evaluated
  obtain ⟨ordered, sorted⟩ := ascending_assemble url additions
  refine ⟨(url_assemble url additions).1 ▸ address, fun name => ?_, fun name expr last => ?_,
    fun name never => ?_, ordered.collect headers, sorted.collect properties⟩
  · have given := get?_headers_assemble url additions name
    split at given
    next none =>
      refine ⟨[], ?_, Fields.get?_collect_none headers given⟩
      rw [headerValues, none]
      exact .nil
    next =>
      obtain ⟨texts, computed, found⟩ := Fields.get?_collect_some ordered headers given
      refine ⟨texts, evalHeader_eq_ok_iff.mp computed, ?_⟩
      cases texts <;> exact found
  · have given := get?_properties_assemble url additions name
    rw [last] at given
    obtain ⟨value, computed, found⟩ := Fields.get?_collect_some sorted properties given
    refine ⟨value, computed, ?_⟩
    cases value <;> exact found
  · have given := get?_properties_assemble url additions name
    rw [never] at given
    exact Fields.get?_collect_none properties given

/-- An endpoint that was put together has a value exactly if its address and all values of its
headers are strings and what each property was set to last has a value. -/
theorem exists_eval_assemble_iff : (∃ result, (assemble url additions).eval scope = .ok result) ↔
    (∃ text, url.eval scope = .ok (.string text)) ∧
    (∀ name, ∀ value ∈ headerValues name additions,
      ∃ text, value.eval scope = .ok (.string text)) ∧
    ∀ name expr, lastProperty? name additions = some expr →
      ∃ value, expr.eval scope = .ok value := by
  constructor
  · rintro ⟨result, evaluated⟩
    have assembled := assembled_of_eval evaluated
    refine ⟨⟨_, assembled.url⟩, fun name => ?_, fun name expr last => ?_⟩
    · obtain ⟨texts, given, -⟩ := assembled.headers name
      exact exists_haveTexts_iff.mp ⟨texts, given⟩
    · obtain ⟨value, computed, -⟩ := assembled.properties name expr last
      exact ⟨value, computed⟩
  · rintro ⟨⟨text, address⟩, texts, values⟩
    obtain ⟨ordered, sorted⟩ := ascending_assemble url additions
    have headers : ∀ entry ∈ (assemble url additions).headers,
        ∃ texts, evalHeader scope entry.2 = .ok texts := by
      rintro ⟨name, given⟩ member
      have found := ordered.get?_of_mem member
      rw [get?_headers_assemble] at found
      split at found
      · cases found
      · cases found
        obtain ⟨results, computed⟩ := exists_haveTexts_iff.mpr (texts name)
        exact ⟨results, evalHeader_eq_ok_iff.mpr computed⟩
    have properties : ∀ entry ∈ (assemble url additions).properties,
        ∃ value, entry.2.eval scope = .ok value := by
      rintro ⟨name, expr⟩ member
      have found := sorted.get?_of_mem member
      rw [get?_properties_assemble] at found
      exact values name expr found
    obtain ⟨first, collected⟩ := (Fields.exists_collect_iff fun texts => !texts.isEmpty).mpr headers
    obtain ⟨second, gathered⟩ :=
      (Fields.exists_collect_iff fun value => !value.isEmpty).mpr properties
    refine ⟨⟨text, first, second⟩, eval_eq_ok_iff.mpr ⟨?_, collected, gathered⟩⟩
    rw [(url_assemble url additions).1]
    exact address

/-- An endpoint that was put together has a value exactly if its address and all values of its
headers are strings and what each property was set to last has a value. Under each name the value has
what was added there, in order, or what it was set to last, if that is not empty, and nothing else.
The order of additions to different names does not matter. -/
theorem assembly_exact (scope : Scope Value) (url : Expr) (additions : List Addition) :
    (∀ result, (assemble url additions).eval scope = .ok result ↔
      Assembled scope url additions result) ∧
    ((∃ result, (assemble url additions).eval scope = .ok result) ↔
      (∃ text, url.eval scope = .ok (.string text)) ∧
      (∀ name, ∀ value ∈ headerValues name additions,
        ∃ text, value.eval scope = .ok (.string text)) ∧
      ∀ name expr, lastProperty? name additions = some expr →
        ∃ value, expr.eval scope = .ok value) ∧
    ∀ others, SameByName additions others →
      (assemble url others).eval scope = (assemble url additions).eval scope := by
  refine ⟨fun result => ⟨assembled_of_eval, fun assembled => ?_⟩, exists_eval_assemble_iff,
    fun others same => by rw [assemble_eq_of_sameByName same]⟩
  obtain ⟨other, evaluated⟩ := exists_eval_assemble_iff.mpr ⟨⟨_, assembled.url⟩, fun name =>
    exists_haveTexts_iff.mp ⟨_, (assembled.headers name).choose_spec.1⟩, fun name expr last =>
    ⟨_, (assembled.properties name expr last).choose_spec.1⟩⟩
  rw [evaluated, (assembled_of_eval evaluated).unique assembled]

/-- Two values of one header, a header without values, and a property that is set to a missing name
in place of a call that fails. -/
def resetZone : List Addition :=
  [.header "x-zone" [.string "a"], .property "zone" (.call .negation [] .unknown), .header "x-none" [],
    .property "zone" (.reference "Zone" .unknown), .header "x-zone" [.string "b"]]

theorem assembly_exact_of_resetZone :
    (assemble (.string "https://a.b") [.header "x-none" [],
        .property "zone" (.call .negation [] .unknown), .header "x-zone" [.string "a"],
        .header "x-zone" [.string "b"], .property "zone" (.reference "Zone" .unknown)]).eval .empty =
      .ok ⟨"https://a.b", [("x-zone", ["a", "b"])], []⟩ ∧
    ¬ ∃ result, (assemble (.string "https://a.b") (resetZone.take 2)).eval .empty = .ok result := by
  constructor
  · rw [(assembly_exact _ _ resetZone).2.2]
    · rfl
    · constructor
      · intro name
        by_cases zone : "x-zone" = name
        · subst zone
          rfl
        · simp [resetZone, Addition.header?, zone, List.filterMap_cons]
      · intro name
        rfl
  · rw [(assembly_exact _ _ _).2.1]
    rintro ⟨-, -, values⟩
    obtain ⟨value, computed⟩ := values "zone" _ rfl
    cases computed

end EndpointTemplate
end EndpointResolution
