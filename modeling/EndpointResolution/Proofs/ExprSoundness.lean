import EndpointResolution.Proofs.Agreement
import EndpointResolution.Proofs.FieldOrder
import EndpointResolution.Proofs.Sequence

/-!
The value of an expression inhabits the type that the checker gives it.
-/
namespace EndpointResolution

variable {registry : Registry} {reading : Reading} {types : Scope Ty} {values : Scope Value}

/-- What is known to be set has its type without the optional wrapper. -/
theorem Scope.Agree.ends_of_settle (agree : types.Agree registry reading values) {expr : Expr}
    (calls : expr.Calls registry.Has) {result : Except TypingError Ty} {ty : Ty}
    (settled : Expr.settle types expr result = .ok ty)
    (plainly : ∀ plain, result = .ok plain →
      reading.Ends (fun value => plain.admitsUnder reading value = true) (expr.eval values)) :
    reading.Ends (fun value => ty.admitsUnder reading value = true) (expr.eval values) := by
  obtain ⟨plain, typed, rfl⟩ := Expr.eq_ok_of_settle settled
  have ends := plainly plain typed
  cases known : types.knows expr with
  | false => exact ends
  | true =>
    obtain ⟨fact, recorded, similar⟩ := Scope.exists_fact_of_knows known
    have same := Expr.eval_eq_of_alike values expr fact similar calls (agree.built fact recorded)
    have set := agree.set fact recorded
    rw [← same] at set
    cases executed : expr.eval values with
    | error failure =>
      rw [executed] at ends
      exact ends
    | ok value =>
      rw [executed] at ends set
      refine Ty.admitsUnder_required ?_ ends
      refine Bool.eq_false_iff.mpr fun empty => set ?_
      rw [(Value.isEmpty_iff value).mp empty]

namespace Function

/-- A function that is mapped over an array has a result for every element. -/
theorem applyEach_of_sound {function : Function} {element : Ty} {others : List Ty}
    (sound : registry.SoundUnder reading) (has : registry.Has function)
    (signed : function.typing = .signature) (declared : function.arguments = element :: others)
    {rest : List Value} (given : List.Forall₂ (fun ty value => ty.admits value = true) others rest)
    {elements : List Value} (typed : ∀ item ∈ elements, element.admits item = true) :
    ∃ results, function.applyEach rest elements = .ok results ∧
      ∀ result ∈ results, function.returns.admitsUnder reading result = true := by
  induction elements with
  | nil => exact ⟨[], rfl, by simp⟩
  | cons item items ih =>
    have all : List.Forall₂ (fun ty value => ty.admits value = true) function.arguments
        (item :: rest) := declared ▸ .cons (typed item List.mem_cons_self) given
    obtain ⟨result, executed, inhabits⟩ := sound.apply has signed all
    obtain ⟨results, mapped, each⟩ := ih fun other member =>
      typed other (List.mem_cons_of_mem _ member)
    refine ⟨result :: results, by simp [applyEach, executed, mapped, Except.map], ?_⟩
    rintro other (_ | ⟨_, member⟩)
    · exact inhabits
    · exact each other member

theorem selectSet_ends {element : Ty} {value : Value}
    (inhabits : (Ty.array element).admitsUnder reading value = true) :
    reading.Ends (fun result => (Ty.array element.required).admitsUnder reading result = true)
      (selectSet.apply [value]) := by
  cases value with
  | array items =>
    simp only [Ty.admitsUnder, List.all_eq_true] at inhabits
    change (Ty.array element.required).admitsUnder reading (.array _) = true
    simp only [Ty.admitsUnder, List.all_eq_true, List.mem_filter, Bool.not_eq_true']
    exact fun item member => Ty.admitsUnder_required member.2 (inhabits item member.1)
  | _ => simp [Ty.admitsUnder] at inhabits

theorem getAttr_apply {text : String} {path : Path} (parsed : Path.parse text = .ok path)
    (value : Value) : getAttr.apply [value, .string text] = value.follow path := by
  simp only [apply, getAttr, withTyping, binary, List.length_cons, List.length_nil, if_true,
    Value.expectString, bind, Except.bind, parsed]

end Function

namespace Expr

section

-- In a mutual block the linter does not see that a theorem needs these for those it calls.
set_option linter.unusedSectionVars false

variable (sound : registry.SoundUnder reading) (agree : types.Agree registry reading values)
include sound agree

mutual

/-- An expression of a type has a value of that type, by the reading of `Any`. -/
theorem eval_ends_of_check : (expr : Expr) → expr.Calls registry.Has → expr.WellFormed →
    (ty : Ty) → expr.check types = .ok ty →
    reading.Ends (fun value => ty.admitsUnder reading value = true) (expr.eval values)
  | .literal value location, calls, wellFormed, ty, checked => by
    rw [check] at checked
    refine agree.ends_of_settle calls checked fun plain typed => ?_
    refine Ty.admitsUnder_of_strict (Value.admitsUnder_literalTy value wellFormed plain ?_)
    simp only [literalTy] at typed
    split at typed
    next found => exact found.trans (congrArg some (Except.ok.inj typed))
    · cases typed
  | .template parts location, calls, wellFormed, ty, checked => by
    rw [check] at checked
    refine agree.ends_of_settle calls checked fun plain typed => ?_
    obtain ⟨⟨⟩, filled, rfl⟩ := exists_of_map_eq_ok typed
    rw [eval]
    exact (evalParts_ends_of_check parts calls wellFormed filled).map fun text _ => rfl
  | .tuple items location, calls, wellFormed, ty, checked => by
    rw [check] at checked
    refine agree.ends_of_settle calls checked fun plain typed => ?_
    obtain ⟨element, listed, rfl⟩ := exists_of_map_eq_ok typed
    rw [eval]
    refine (evalAll_ends_of_checkItems items calls wellFormed none element listed).map
      fun results each => ?_
    simpa [Ty.admitsUnder] using each
  | .record fields location, calls, wellFormed, ty, checked => by
    rw [check] at checked
    refine agree.ends_of_settle calls checked fun plain typed => ?_
    obtain ⟨declared, listed, rfl⟩ := exists_of_map_eq_ok typed
    rw [eval]
    refine (evalFields_ends_of_check fields calls wellFormed.2 declared listed).map
      fun results found => ?_
    obtain ⟨names, fit⟩ := found
    exact Ty.admitsFieldsUnder_of_fits (wellFormed.1.of_keys names) fit
  | .reference name location, calls, wellFormed, ty, checked => by
    rw [check] at checked
    refine agree.ends_of_settle calls checked fun plain typed => ?_
    simp only [referenceTy] at typed
    split at typed
    next found =>
      cases typed
      exact agree.typed name plain found
    · cases typed
  | .attribute target path location, calls, wellFormed, ty, checked => by
    rw [check] at checked
    split at checked
    · cases checked
    next whole found =>
      refine agree.ends_of_settle calls checked fun plain typed => ?_
      rw [eval_attribute]
      exact (eval_ends_of_check target calls wellFormed whole found).bind fun value inhabits =>
        Ty.follow_ends_of_part (part_of_partTy typed) inhabits
  | .call function arguments location, calls, wellFormed, ty, checked => by
    rw [check] at checked
    refine agree.ends_of_settle calls checked fun plain invoked => ?_
    have typed := eq_ok_of_inInvocation invoked
    split at typed
    next signed =>
      split at typed
      next sameLength =>
        obtain ⟨⟨⟩, accepted, rfl⟩ := exists_of_map_eq_ok typed
        rw [eval_call]
        refine (evalAll_ends_of_checkArguments arguments calls.2 wellFormed 1 function.arguments
          sameLength accepted).bind fun given fit => ?_
        obtain ⟨result, applied, inhabits⟩ := sound.apply calls.1 signed fit
        rw [applied]
        exact inhabits
      · cases typed
    next filters =>
      cases sound.reserved.filter function calls.1 filters
      obtain ⟨argument, element, rfl, known, rfl⟩ := eq_of_checkFilter typed
      rw [eval_call_one]
      exact (eval_ends_of_check argument calls.2.1 wellFormed.1 _ known).bind
        fun whole inhabits => Function.selectSet_ends inhabits
    next follows =>
      cases sound.reserved.follow function calls.1 follows
      obtain ⟨target, text, place, path, whole, rfl, parsed, known, part⟩ :=
        eq_of_checkAttribute typed
      rw [eval_call_literal]
      refine (eval_ends_of_check target calls.2.1 wellFormed.1 _ known).bind
        fun value inhabits => ?_
      rw [Function.getAttr_apply parsed]
      exact Ty.follow_ends_of_part part inhabits
  | .mapped function source arguments location, calls, wellFormed, ty, checked => by
    obtain ⟨element, others, found, signed, declared, sameRest, known, expected, given, rfl⟩ :=
      check_mapped_iff.mp checked
    rw [eval_mapped]
    refine (evalAll_ends_of_checkArguments arguments calls.2.2 wellFormed.2 2 others sameRest
      given).bind fun rest fit => ?_
    refine (eval_ends_of_check source calls.2.1 wellFormed.1 found known).bind
      fun whole inhabits => ?_
    obtain ⟨items, rfl, each⟩ :=
      Ty.eq_of_admits_array (Ty.admits_of_accepts _ found whole expected inhabits)
    obtain ⟨results, mapped, all⟩ :=
      Function.applyEach_of_sound sound calls.1 signed declared fit each
    rw [Function.applyOver, mapped]
    simpa [Reading.Ends, Except.map, Ty.admitsUnder] using all

theorem evalParts_ends_of_check : (parts : List (TemplatePart Expr)) →
    PartsCall registry.Has parts → PartsWellFormed parts → checkParts types parts = .ok () →
    reading.Ends (fun _ => True) (evalParts values parts)
  | [], _, _, _ => trivial
  | .text text :: rest, calls, wellFormed, checked => by
    rw [checkParts] at checked
    rw [evalParts]
    exact (evalParts_ends_of_check rest calls wellFormed checked).map fun _ _ => trivial
  | .hole expr :: rest, calls, wellFormed, checked => by
    rw [checkParts] at checked
    split at checked
    · cases checked
    next found known =>
    split at checked
    · cases checked
    next accepted =>
    have text : reading.Ends (fun _ => True) (expr.evalString values) := by
      rw [evalString_eq_bind]
      refine (eval_ends_of_check expr calls.1 wellFormed.1 found known).bind
        fun value inhabits => ?_
      obtain ⟨text, rfl⟩ := Ty.eq_of_admits_string
        (Ty.admits_of_accepts _ found value (accepts_of_accept accepted) inhabits)
      trivial
    rw [evalParts_hole]
    exact text.bind fun _ _ =>
      (evalParts_ends_of_check rest calls.2 wellFormed.2 checked).map fun _ _ => trivial

theorem evalAll_ends_of_checkItems : (items : List Expr) → AllCall registry.Has items →
    AllWellFormed items → (first : Option Ty) → (element : Ty) →
    checkItems types first items = .ok element →
    reading.Ends (fun results => ∀ result ∈ results, element.admitsUnder reading result = true)
      (evalAll values items)
  | [], _, _, _, _, _ => by simp [evalAll, Reading.Ends]
  | item :: rest, calls, wellFormed, first, element, checked => by
    rw [checkItems] at checked
    split at checked
    · cases checked
    next found known =>
      -- The items after this one are checked against its type.
      have later : checkItems types (some found) rest = .ok element := by
        cases first with
        | none => exact checked
        | some ty =>
          simp only at checked
          split at checked
          next same => exact same ▸ checked
          · cases checked
      obtain ⟨rfl, -⟩ := checkItems_some_iff.mp later
      rw [evalAll_cons]
      refine (eval_ends_of_check item calls.1 wellFormed.1 element known).bind
        fun value inhabits => ?_
      refine (evalAll_ends_of_checkItems rest calls.2 wellFormed.2 _ element later).map
        fun results each => ?_
      exact List.forall_mem_cons.mpr ⟨inhabits, each⟩

theorem evalFields_ends_of_check : (fields : List (String × Expr)) →
    FieldsCall registry.Has fields → FieldsWellFormed fields → (declared : List (String × Ty)) →
    checkFields types fields = .ok declared →
    reading.Ends (fun results => results.map Prod.fst = fields.map Prod.fst ∧
      List.Forall₂ (Ty.FieldFits reading) declared results) (evalFields values fields)
  | [], _, _, declared, checked => by
    cases checked
    exact ⟨rfl, .nil⟩
  | (name, expr) :: rest, calls, wellFormed, declared, checked => by
    rw [checkFields] at checked
    split at checked
    · cases checked
    next ty known =>
      obtain ⟨others, listed, rfl⟩ := exists_of_map_eq_ok checked
      rw [evalFields_cons]
      refine (eval_ends_of_check expr calls.1 wellFormed.1 ty known).bind fun value inhabits => ?_
      refine (evalFields_ends_of_check rest calls.2 wellFormed.2 others listed).map
        fun results found => ?_
      obtain ⟨names, fit⟩ := found
      exact ⟨by simp [names], .cons ⟨rfl, inhabits⟩ fit⟩

theorem evalAll_ends_of_checkArguments : (arguments : List Expr) →
    AllCall registry.Has arguments → AllWellFormed arguments → (position : Nat) →
    (expected : List Ty) → expected.length = arguments.length →
    checkArguments types position expected arguments = .ok () →
    reading.Ends (List.Forall₂ (fun ty value => ty.admits value = true) expected)
      (evalAll values arguments)
  | [], _, _, _, expected, sameLength, _ => by
    obtain rfl := List.length_eq_zero_iff.mp sameLength
    exact .nil
  | argument :: rest, calls, wellFormed, position, [], sameLength, checked => by
    simp at sameLength
  | argument :: rest, calls, wellFormed, position, ty :: others, sameLength, checked => by
    rw [checkArguments] at checked
    split at checked
    · cases checked
    next found known =>
    split at checked
    · cases checked
    next accepted =>
    have sameRest : others.length = rest.length := by simpa using sameLength
    rw [evalAll_cons]
    refine (eval_ends_of_check argument calls.1 wellFormed.1 found known).bind
      fun value inhabits => ?_
    have fits := Ty.admits_of_accepts ty found value (accepts_of_accept accepted) inhabits
    exact (evalAll_ends_of_checkArguments rest calls.2 wellFormed.2 (position + 1) others sameRest
      checked).map fun results fit => .cons fits fit

end

end

/-- Every expression that the checker gives a type has a value of that type, if the registry is
sound and `Any` is no part of a type that a function returns or that a name has. Nothing but the
empty value then stands where the type is `Any`, so that no path through it fails. -/
theorem eval_inhabits_static_type :
    (Registry.standard.Sound ∧ Registry.standard.ReturnsNoAny ∧ Registry.standard.Reserved) ∧
    ∀ registry : Registry, registry.Sound → registry.ReturnsNoAny → registry.Reserved →
    ∀ (types : Scope Ty) (values : Scope Value),
    (∀ name ty, types.resolve name = some ty → ty.anyFree = true) →
    (∀ name ty, types.resolve name = some ty → ty.admits (values.valueOf name) = true) →
    (∀ fact ∈ types.facts, fact.Calls registry.Has ∧ fact.eval values ≠ .ok .empty) →
    ∀ expr : Expr, expr.Over registry → ∀ ty, expr.check types = .ok ty →
      ∃ value, expr.eval values = .ok value ∧ ty.admits value = true := by
  refine ⟨⟨Registry.standard_sound, Registry.standard_returnsNoAny, Registry.standard_reserved⟩, ?_⟩
  intro registry sound noAny reserved types values anyFree typed known expr built ty checked
  have agree : types.Agree registry .strict values := {
    typed := fun name ty found =>
      Ty.admitsUnder_of_anyFree (anyFree name ty found) (typed name ty found)
    built := fun fact recorded => (known fact recorded).1
    set := fun fact recorded => (known fact recorded).2 }
  have ends := eval_ends_of_check ⟨sound, reserved, fun _ => noAny⟩ agree expr built.calls
    built.wellFormed ty checked
  obtain ⟨value, executed, inhabits⟩ := ends.exists_ok
  exact ⟨value, executed, Ty.admits_of_admitsUnder inhabits⟩

/-- The first item of `Labels`. -/
def firstLabel : Expr :=
  .attribute (.reference "Labels" .unknown) [.index 0] .unknown

theorem eval_inhabits_static_type_of_known_item :
    ∃ value, (Expr.call .stringEquals [firstLabel, .string "a"] .unknown).eval
        (Scope.empty.insert "Labels" (.array [.string "a"])) = .ok value ∧
      Ty.boolean.admits value = true := by
  refine eval_inhabits_static_type.2 .standard Registry.standard_sound
    Registry.standard_returnsNoAny Registry.standard_reserved
    ((Scope.empty.insert "Labels" (.array .string)).know firstLabel) _ ?_ ?_ ?_ _ ⟨?_, ?_⟩ _ ?_
  · intro name ty found
    obtain ⟨rfl, rfl⟩ := Scope.eq_of_resolve_insert_empty found
    rfl
  · intro name ty found
    obtain ⟨rfl, rfl⟩ := Scope.eq_of_resolve_insert_empty found
    rfl
  · intro fact recorded
    obtain rfl : fact = firstLabel := by simpa using recorded
    exact ⟨trivial, nofun⟩
  · exact ⟨rfl, trivial, trivial, trivial⟩
  · exact ⟨trivial, trivial, trivial⟩
  · cbv

end Expr
end EndpointResolution
