import EndpointResolution.Proofs.Admission

/-!
Functions that keep to their signatures: on arguments of the declared types they have a result of
the declared type. Those of the standard registry do.
-/
namespace EndpointResolution

/-- On arguments of the declared types the function has a result, and one of the declared type. -/
def Function.Sound (function : Function) : Prop :=
  ∀ values, List.Forall₂ (fun ty value => ty.admits value = true) function.arguments values →
    ∃ result, function.apply values = .ok result ∧ function.returns.admits result = true

/-- The functions that are typed by their signatures keep to them. -/
def Registry.Sound (registry : Registry) : Prop :=
  ∀ function, registry.Has function → function.typing = .signature → function.Sound

/-- `Any` is no part of what the functions that are typed by their signatures return. -/
def Registry.ReturnsNoAny (registry : Registry) : Prop :=
  ∀ function, registry.Has function → function.typing = .signature →
    function.returns.anyFree = true

/-- The functions with typing rules of their own are those of the library: no others can be
declared. -/
structure Registry.Reserved (registry : Registry) : Prop where
  filter : ∀ function, registry.Has function → function.typing = .arrayFilter →
    function = .selectSet
  follow : ∀ function, registry.Has function → function.typing = .attribute →
    function = .getAttr

/-- The functions of the registry are sound, and none returns a part of type `Any` where nothing but
the empty value inhabits it. -/
structure Registry.SoundUnder (reading : Reading) (registry : Registry) : Prop where
  signed : registry.Sound
  reserved : registry.Reserved
  noAny : reading = .strict → registry.ReturnsNoAny

theorem Registry.SoundUnder.apply {registry : Registry} {reading : Reading} {function : Function}
    {values : List Value} (sound : registry.SoundUnder reading) (has : registry.Has function)
    (signed : function.typing = .signature)
    (given : List.Forall₂ (fun ty value => ty.admits value = true) function.arguments values) :
    ∃ result, function.apply values = .ok result ∧
      function.returns.admitsUnder reading result = true := by
  obtain ⟨result, executed, inhabits⟩ := sound.signed function has signed values given
  refine ⟨result, executed, ?_⟩
  cases reading with
  | wide =>
    rw [Ty.admitsUnder_wide]
    exact inhabits
  | strict => exact Ty.admitsUnder_of_anyFree (sound.noAny rfl function has signed) inhabits

namespace Ty

theorem eq_of_admits_string {value : Value} (inhabits : Ty.string.admits value = true) :
    ∃ text, value = .string text := by
  cases value <;> simp [admits] at inhabits ⊢

theorem eq_of_admits_boolean {value : Value} (inhabits : Ty.boolean.admits value = true) :
    ∃ truth, value = .boolean truth := by
  cases value <;> simp [admits] at inhabits ⊢

theorem eq_of_admits_integer {value : Value} (inhabits : Ty.integer.admits value = true) :
    ∃ number, value = .integer number := by
  cases value <;> simp [admits] at inhabits ⊢

theorem eq_of_admits_array {element : Ty} {value : Value}
    (inhabits : (Ty.array element).admits value = true) :
    ∃ items, value = .array items ∧ ∀ item ∈ items, element.admits item = true := by
  cases value with
  | array items => exact ⟨items, rfl, by simpa [admits] using inhabits⟩
  | _ => simp [admits] at inhabits

end Ty

namespace Function

theorem unary_sound {id : String} {argument returns : Ty}
    {rule : Value → Except EvaluationError Value}
    (keeps : ∀ value, argument.admits value = true →
      ∃ result, rule value = .ok result ∧ returns.admits result = true) :
    (unary id argument returns rule).Sound := by
  intro values given
  cases given with
  | @cons _ value _ rest known nothing =>
    cases nothing
    obtain ⟨result, executed, typed⟩ := keeps value known
    exact ⟨result, by simp [apply, unary, executed], typed⟩

theorem binary_sound {id : String} {first second returns : Ty}
    {rule : Value → Value → Except EvaluationError Value}
    (keeps : ∀ a b, first.admits a = true → second.admits b = true →
      ∃ result, rule a b = .ok result ∧ returns.admits result = true) :
    (binary id first second returns rule).Sound := by
  intro values given
  cases given with
  | @cons _ a _ rest knownFirst others =>
    cases others with
    | @cons _ b _ rest knownSecond nothing =>
      cases nothing
      obtain ⟨result, executed, typed⟩ := keeps a b knownFirst knownSecond
      exact ⟨result, by simp [apply, binary, executed], typed⟩

theorem isSet_sound : isSet.Sound :=
  unary_sound fun _ _ => ⟨_, rfl, rfl⟩

theorem negation_sound : negation.Sound := by
  refine unary_sound fun value known => ?_
  obtain ⟨truth, rfl⟩ := Ty.eq_of_admits_boolean known
  exact ⟨_, rfl, rfl⟩

theorem booleanEquals_sound : booleanEquals.Sound := by
  refine binary_sound fun a b left right => ?_
  obtain ⟨first, rfl⟩ := Ty.eq_of_admits_boolean left
  obtain ⟨second, rfl⟩ := Ty.eq_of_admits_boolean right
  exact ⟨_, rfl, rfl⟩

theorem stringEquals_sound : stringEquals.Sound := by
  refine binary_sound fun a b left right => ?_
  obtain ⟨first, rfl⟩ := Ty.eq_of_admits_string left
  obtain ⟨second, rfl⟩ := Ty.eq_of_admits_string right
  exact ⟨_, rfl, rfl⟩

theorem truths_of_admits {value : Value} (known : (Ty.array .boolean).admits value = true) :
    ∃ found, truths value = .ok found := by
  obtain ⟨items, rfl, each⟩ := Ty.eq_of_admits_array known
  have executed : ∃ found, items.mapM Value.expectBoolean = .ok found := by
    clear known
    induction items with
    | nil => exact ⟨[], rfl⟩
    | cons item rest ih =>
      obtain ⟨truth, rfl⟩ := Ty.eq_of_admits_boolean (each item List.mem_cons_self)
      obtain ⟨found, executed⟩ := ih fun other member =>
        each other (List.mem_cons_of_mem _ member)
      exact ⟨truth :: found, by simp [List.mapM_cons, Value.expectBoolean, executed]; rfl⟩
  exact executed

theorem all_sound : all.Sound := by
  refine binary_sound fun items expected left right => ?_
  obtain ⟨found, executed⟩ := truths_of_admits left
  obtain ⟨wanted, rfl⟩ := Ty.eq_of_admits_boolean right
  exact ⟨_, by rw [executed]; rfl, rfl⟩

theorem any_sound : any.Sound := by
  refine binary_sound fun items expected left right => ?_
  obtain ⟨found, executed⟩ := truths_of_admits left
  obtain ⟨wanted, rfl⟩ := Ty.eq_of_admits_boolean right
  exact ⟨_, by rw [executed]; rfl, rfl⟩

theorem substring_sound : substring.Sound := by
  intro values given
  rcases given with _ | ⟨first, _ | ⟨second, _ | ⟨third, _ | ⟨fourth, _ | _⟩⟩⟩⟩
  obtain ⟨text, rfl⟩ := Ty.eq_of_admits_string first
  obtain ⟨start, rfl⟩ := Ty.eq_of_admits_integer second
  obtain ⟨stop, rfl⟩ := Ty.eq_of_admits_integer third
  obtain ⟨backward, rfl⟩ := Ty.eq_of_admits_boolean fourth
  refine ⟨_, rfl, ?_⟩
  cases Text.slice? text start stop backward with
  | none => rfl
  | some part => rfl

theorem uriEncode_sound : uriEncode.Sound := by
  refine unary_sound fun value known => ?_
  obtain ⟨text, rfl⟩ := Ty.eq_of_admits_string known
  exact ⟨_, rfl, rfl⟩

theorem isValidHostLabel_sound : isValidHostLabel.Sound := by
  refine binary_sound fun value dotted left right => ?_
  obtain ⟨text, rfl⟩ := Ty.eq_of_admits_string left
  obtain ⟨truth, rfl⟩ := Ty.eq_of_admits_boolean right
  exact ⟨_, rfl, rfl⟩

/-- The parts of a web address have the fields that their type declares. -/
theorem urlTy_admits {parse : Url.Parser} {text : String} {parts : Fields Value}
    (found : urlPartsWith? parse text = some parts) : urlTy.admits (.record parts) = true := by
  obtain ⟨address, -, rest⟩ := Option.bind_eq_some_iff.mp found
  split at rest
  · cases rest
  · obtain ⟨host, -, same⟩ := Option.bind_eq_some_iff.mp rest
    obtain rfl := Option.some.inj same
    simp [urlTy, Ty.admits, Ty.admitsFields, Fields.get?]

theorem parseUrlWith_sound (parse : Url.Parser) : (parseUrlWith parse).Sound := by
  refine unary_sound fun value known => ?_
  obtain ⟨text, rfl⟩ := Ty.eq_of_admits_string known
  refine ⟨_, rfl, ?_⟩
  cases found : urlPartsWith? parse text with
  | none => rfl
  | some parts => exact urlTy_admits found

end Function

namespace Registry

theorem eq_or_get?_of_register {registry : Registry} {function other : Function} {id : String}
    (found : (registry.register function).get? id = some other) :
    other = function ∨ registry.get? id = some other := by
  by_cases same : id = function.id
  · rw [same, get?, register, Fields.get?_insert_self] at found
    exact .inl (Option.some.inj found).symm
  · rw [get?, register, Fields.get?_insert_of_ne same] at found
    exact .inr found

/-- Whatever is declared with a signature, the functions with typing rules of their own stay the
same. -/
theorem Reserved.register {registry : Registry} (reserved : registry.Reserved)
    {declared : Function} (signed : declared.typing = .signature) :
    (registry.register declared).Reserved where
  filter := by
    intro function has filters
    rcases eq_or_get?_of_register has with rfl | before
    · rw [signed] at filters
      cases filters
    · exact reserved.filter function before filters
  follow := by
    intro function has follows
    rcases eq_or_get?_of_register has with rfl | before
    · rw [signed] at follows
      cases follows
    · exact reserved.follow function before follows

theorem Sound.register {registry : Registry} (sound : registry.Sound) {declared : Function}
    (keeps : declared.Sound) : (registry.register declared).Sound := by
  intro function has signed
  rcases eq_or_get?_of_register has with rfl | before
  · exact keeps
  · exact sound function before signed

/-- Registering functions adds these functions and no others. -/
theorem mem_or_get?_of_registerAll {registry : Registry} {functions : List Function}
    {function : Function} {id : String}
    (found : (registry.registerAll functions).get? id = some function) :
    function ∈ functions ∨ registry.get? id = some function := by
  induction functions generalizing registry with
  | nil => exact .inr found
  | cons first rest ih =>
    rcases ih found with later | earlier
    · exact .inl (List.mem_cons_of_mem _ later)
    · rcases eq_or_get?_of_register earlier with same | before
      · exact .inl (same ▸ List.mem_cons_self)
      · exact .inr before

theorem mem_of_has_standard {function : Function} (has : standard.Has function) :
    function ∈ Function.standard ++ Function.onTexts ++ [Function.parseUrl] := by
  rcases mem_or_get?_of_registerAll has with member | absent
  · exact member
  · simp [get?, empty] at absent

/-- A fact about each function of the standard registry. -/
theorem forall_standard {property : Function → Prop}
    (each : ∀ function ∈ Function.standard ++ Function.onTexts ++ [Function.parseUrl],
      property function) (function : Function) (has : standard.Has function) :
    property function :=
  each function (mem_of_has_standard has)

theorem standard_sound : standard.Sound := by
  refine forall_standard ?_
  simp only [Function.standard, Function.onTexts, List.cons_append, List.nil_append,
    List.forall_mem_cons, List.not_mem_nil, false_implies, implies_true, and_true]
  exact ⟨fun _ => Function.isSet_sound, fun _ => Function.negation_sound,
    fun _ => Function.booleanEquals_sound, fun _ => Function.stringEquals_sound, nofun,
    fun _ => Function.all_sound, fun _ => Function.any_sound, nofun,
    fun _ => Function.substring_sound, fun _ => Function.uriEncode_sound,
    fun _ => Function.isValidHostLabel_sound, fun _ => Function.parseUrlWith_sound _⟩

theorem standard_reserved : standard.Reserved where
  filter := by
    refine forall_standard ?_
    simp only [Function.standard, Function.onTexts, List.cons_append, List.nil_append,
      List.forall_mem_cons, List.not_mem_nil, false_implies, implies_true, and_true]
    exact ⟨nofun, nofun, nofun, nofun, nofun, nofun, nofun, trivial, nofun, nofun, nofun,
      nofun⟩
  follow := by
    refine forall_standard ?_
    simp only [Function.standard, Function.onTexts, List.cons_append, List.nil_append,
      List.forall_mem_cons, List.not_mem_nil, false_implies, implies_true, and_true]
    exact ⟨nofun, nofun, nofun, nofun, trivial, nofun, nofun, nofun, nofun, nofun, nofun,
      nofun⟩

theorem standard_returnsNoAny : standard.ReturnsNoAny := by
  refine forall_standard ?_
  simp only [Function.standard, Function.onTexts, List.cons_append, List.nil_append,
    List.forall_mem_cons, List.not_mem_nil, false_implies, implies_true, and_true]
  exact ⟨fun _ => rfl, fun _ => rfl, fun _ => rfl, fun _ => rfl, nofun, fun _ => rfl,
    fun _ => rfl, nofun, fun _ => rfl, fun _ => rfl, fun _ => rfl, fun _ => rfl⟩

/-- The standard functions keep to their signatures, and return no value of type `Any`. -/
theorem standard_soundUnder (reading : Reading) : standard.SoundUnder reading :=
  ⟨standard_sound, standard_reserved, fun _ => standard_returnsNoAny⟩

end Registry
end EndpointResolution
