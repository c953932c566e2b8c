import EndpointResolution.EvaluationError
import Mathlib.Data.List.Forall2
import Mathlib.Data.Option.Basic

/-!
Results of computations that may fail: what the parts of one that succeeds are, and what one that
fails may fail with.
-/
namespace EndpointResolution

section

variable {ε α β : Type} {result : Except ε α} {b : β}

theorem map_eq_ok_iff {change : α → β} :
    result.map change = .ok b ↔ ∃ a, result = .ok a ∧ change a = b := by
  cases result <;> simp [Except.map]

theorem bind_eq_ok_iff {next : α → Except ε β} :
    result.bind next = .ok b ↔ ∃ a, result = .ok a ∧ next a = .ok b := by
  cases result <;> simp [Except.bind]

theorem mapM_cons_eq_bind (compute : α → Except ε β) (item : α) (rest : List α) :
    (item :: rest).mapM compute =
      (compute item).bind fun result => (rest.mapM compute).map (result :: ·) :=
  List.mapM_cons

/-- Computations over a list succeed exactly if the one on each item does. -/
theorem mapM_eq_ok_iff {compute : α → Except ε β} {items : List α} {results : List β} :
    items.mapM compute = .ok results ↔
      List.Forall₂ (fun item result => compute item = .ok result) items results := by
  induction items generalizing results with
  | nil => simp [pure, Except.pure, eq_comm]
  | cons item rest ih =>
    simp only [mapM_cons_eq_bind, bind_eq_ok_iff, map_eq_ok_iff, ih, List.forall₂_cons_left_iff]
    grind

/-- Readings over a list give results exactly if the one of each item does. -/
theorem mapM_eq_some_iff {read : α → Option β} {items : List α} {results : List β} :
    items.mapM read = some results ↔
      List.Forall₂ (fun item result => read item = some result) items results := by
  induction items generalizing results with
  | nil => simp [eq_comm]
  | cons item rest ih =>
    simp only [List.mapM_cons, Option.bind_eq_bind, Option.bind_eq_some_iff, Option.pure_def,
      Option.some.injEq, ih, List.forall₂_cons_left_iff]
    grind

theorem exists_mem_of_forall₂ {R : α → β → Prop} {items : List α} {others : List β}
    (each : List.Forall₂ R items others) {item : α} (member : item ∈ items) :
    ∃ other ∈ others, R item other := by
  induction each with
  | nil => simp at member
  | cons first _ ih =>
    rcases List.mem_cons.mp member with rfl | later
    · exact ⟨_, List.mem_cons_self, first⟩
    · obtain ⟨other, present, related⟩ := ih later
      exact ⟨other, List.mem_cons_of_mem _ present, related⟩

theorem exists_of_mem_mapM {read : α → Option β} {items : List α} {results : List β}
    (each : items.mapM read = some results) (member : b ∈ results) :
    ∃ item ∈ items, read item = some b :=
  exists_mem_of_forall₂ (mapM_eq_some_iff.mp each).flip member

theorem guard_eq_some_iff {condition : Prop} [Decidable condition] {done : Unit} :
    (guard condition : Option Unit) = some done ↔ condition := by
  by_cases holds : condition <;> simp [guard, holds]

theorem exists_of_map_eq_ok {change : α → β} (mapped : result.map change = .ok b) :
    ∃ a, result = .ok a ∧ change a = b :=
  map_eq_ok_iff.mp mapped

end

/-- A result, or a failure of a kind. -/
def FailsOnly {α : Type} (kind : EvaluationError → Prop) : Except EvaluationError α → Prop
  | .ok _ => True
  | .error failure => kind failure

variable {kind : EvaluationError → Prop}

theorem FailsOnly.map {α β : Type} {result : Except EvaluationError α}
    (only : FailsOnly kind result) (change : α → β) : FailsOnly kind (result.map change) := by
  cases result with
  | error failure => exact only
  | ok value => trivial

theorem FailsOnly.bind {α β : Type} {result : Except EvaluationError α}
    {next : α → Except EvaluationError β} (only : FailsOnly kind result)
    (others : ∀ value, FailsOnly kind (next value)) : FailsOnly kind (result.bind next) := by
  cases result with
  | error failure => exact only
  | ok value => exact others value

end EndpointResolution
