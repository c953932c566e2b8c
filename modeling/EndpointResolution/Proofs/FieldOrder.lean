import EndpointResolution.Fields
import Mathlib.Data.List.Sort

/-!
Ascending lists as maps. Lookups find exactly the entries of such a list, and two of them are the
same if they have the same entries, in whatever way they were made.
-/
namespace EndpointResolution.Fields

universe u v

variable {α : Type u} {β : Type v}

theorem get?_eq_none_iff {key : String} {fields : Fields α} :
    get? key fields = none ↔ ∀ entry ∈ fields, entry.1 ≠ key := by
  induction fields with
  | nil => simp
  | cons entry rest ih =>
    rw [get?, List.forall_mem_cons]
    split
    next same => simp [same]
    next other => rw [ih, and_iff_right other]

/-- The entry under a key has a property that all entries and the default have. -/
theorem getD_of_forall (property : α → Prop) {fields : Fields α}
    (each : ∀ entry ∈ fields, property entry.2) (default : α) (otherwise : property default)
    (key : String) : property ((get? key fields).getD default) := by
  cases found : get? key fields with
  | none => exact otherwise
  | some value => exact each _ (mem_of_get? found)

theorem Ascending.tail {entry : String × α} {rest : Fields α}
    (ascending : Ascending (entry :: rest)) : Ascending rest :=
  (List.pairwise_cons.mp ascending).2

theorem Ascending.mem_iff {fields : Fields α} (ascending : fields.Ascending) (key : String)
    (value : α) : (key, value) ∈ fields ↔ get? key fields = some value :=
  ⟨ascending.get?_of_mem, mem_of_get?⟩

/-- Two ascending lists with the same entries are the same. -/
theorem Ascending.eq_of_mem_iff {left right : Fields α} (first : left.Ascending)
    (second : right.Ascending) (same : ∀ entry, entry ∈ left ↔ entry ∈ right) : left = right := by
  have irreflexive : Std.Irrefl fun a b : String × α => a.1 < b.1 :=
    ⟨fun entry => String.lt_irrefl entry.1⟩
  have antisymmetric : Std.Antisymm fun a b : String × α => a.1 < b.1 :=
    ⟨fun _ _ below above => absurd above (String.lt_asymm below)⟩
  exact List.Pairwise.eq_of_mem_iff first second same

/-- Two ascending lists have the same entries of a kind if lookups find the same ones of it. -/
theorem Ascending.filter_eq {left right : Fields α} (first : left.Ascending)
    (second : right.Ascending) (keep : String × α → Bool)
    (same : ∀ key value, keep (key, value) = true →
      (get? key left = some value ↔ get? key right = some value)) :
    left.filter keep = right.filter keep := by
  refine eq_of_mem_iff (first.filter keep) (second.filter keep) ?_
  rintro ⟨key, value⟩
  rw [List.mem_filter, List.mem_filter, first.mem_iff, second.mem_iff]
  exact and_congr_left (same key value)

theorem Ascending.of_keys {fields : Fields α} {others : Fields β} (ascending : fields.Ascending)
    (sameKeys : others.map Prod.fst = fields.map Prod.fst) : others.Ascending := by
  rw [Ascending, ← List.pairwise_map (f := Prod.fst)] at ascending ⊢
  rwa [sameKeys]

end EndpointResolution.Fields
