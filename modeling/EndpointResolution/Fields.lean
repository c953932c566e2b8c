/-!
Entries under text keys, listed in ascending order of the key. A lookup after an insertion or an
update sees that entry alone changed, whatever the list, and insertion keeps a list ascending.
-/
namespace EndpointResolution

universe u v

/-- Entries under text keys. -/
abbrev Fields (α : Type u) := List (String × α)

namespace Fields

variable {α : Type u} {β : Type v}

/-- The keys ascend by code point, so that no two entries share one. -/
def Ascending (fields : Fields α) : Prop :=
  fields.Pairwise fun a b => a.1 < b.1

instance (fields : Fields α) : Decidable fields.Ascending :=
  inferInstanceAs (Decidable (List.Pairwise _ _))

/-- The entry under a key: the first one, in a list that repeats it. -/
def get? (key : String) : Fields α → Option α
  | [] => none
  | (k, value) :: rest => if k = key then some value else get? key rest

/-- Sets the entry under a key: in place if there is one, else before the first greater key. -/
def insert (key : String) (value : α) : Fields α → Fields α
  | [] => [(key, value)]
  | (k, old) :: rest =>
    if key = k then (key, value) :: rest
    else if key < k then (key, value) :: (k, old) :: rest
    else (k, old) :: insert key value rest

/-- Replaces the entry under a key by a function of what is there. -/
def modify (key : String) (change : Option α → α) (fields : Fields α) : Fields α :=
  insert key (change (get? key fields)) fields

/-- The entries of a list, a later one replacing an earlier one under the same key. -/
def ofList (entries : List (String × α)) : Fields α :=
  entries.foldl (fun fields entry => insert entry.1 entry.2 fields) []

/-- Changes every value and no key. -/
def mapValues (f : α → β) (fields : Fields α) : Fields β :=
  fields.map fun entry => (entry.1, f entry.2)

@[simp] theorem get?_nil (key : String) : get? key ([] : Fields α) = none := rfl

@[simp] theorem get?_insert_self (key : String) (value : α) (fields : Fields α) :
    get? key (insert key value fields) = some value := by
  induction fields with
  | nil => simp [insert, get?]
  | cons entry rest ih =>
    obtain ⟨k, old⟩ := entry
    by_cases same : key = k
    · simp [insert, get?, same]
    · by_cases less : key < k
      · simp [insert, get?, same, less]
      · simp [insert, get?, same, less, Ne.symm same, ih]

theorem get?_insert_of_ne {key other : String} (distinct : other ≠ key) (value : α)
    (fields : Fields α) : get? other (insert key value fields) = get? other fields := by
  induction fields with
  | nil => simp [insert, get?, Ne.symm distinct]
  | cons entry rest ih =>
    obtain ⟨k, old⟩ := entry
    by_cases same : key = k
    · subst same
      simp [insert, get?, Ne.symm distinct]
    · by_cases less : key < k
      · simp [insert, get?, same, less, Ne.symm distinct]
      · simp [insert, get?, same, less, ih]

theorem get?_mapValues (f : α → β) (key : String) (fields : Fields α) :
    get? key (mapValues f fields) = (get? key fields).map f := by
  induction fields with
  | nil => rfl
  | cons entry rest ih =>
    obtain ⟨k, value⟩ := entry
    by_cases same : k = key
    · simp [mapValues, get?, same]
    · simpa [mapValues, get?, same] using ih

theorem mem_insert {key : String} {value : α} {fields : Fields α} {entry : String × α}
    (member : entry ∈ insert key value fields) : entry = (key, value) ∨ entry ∈ fields := by
  induction fields with
  | nil => simpa [insert] using member
  | cons head rest ih =>
    obtain ⟨k, old⟩ := head
    by_cases same : key = k
    · simp only [insert, same, if_true, List.mem_cons] at member ⊢
      rcases member with member | member
      · exact Or.inl member
      · exact Or.inr (Or.inr member)
    · by_cases less : key < k
      · simpa [insert, same, less] using member
      · simp only [insert, same, less, if_false, List.mem_cons] at member ⊢
        rcases member with member | member
        · exact Or.inr (Or.inl member)
        · rcases ih member with found | found
          · exact Or.inl found
          · exact Or.inr (Or.inr found)

/-- A key that is neither equal to nor below another one is above it. -/
theorem lt_of_not_lt_of_ne {a b : String} (notLess : ¬ a < b) (distinct : a ≠ b) : b < a := by
  by_cases above : b < a
  · exact above
  · exact absurd (String.le_antisymm (String.not_lt.mp above) (String.not_lt.mp notLess)) distinct

theorem Ascending.insert {fields : Fields α} (ascending : fields.Ascending) (key : String)
    (value : α) : Ascending (Fields.insert key value fields) := by
  induction fields with
  | nil => simp [Fields.insert, Ascending]
  | cons entry rest ih =>
    obtain ⟨k, old⟩ := entry
    obtain ⟨first, tail⟩ := List.pairwise_cons.mp ascending
    by_cases same : key = k
    · subst same
      rw [Fields.insert, if_pos rfl]
      exact List.pairwise_cons.mpr ⟨first, tail⟩
    · by_cases less : key < k
      · rw [Fields.insert, if_neg same, if_pos less]
        refine List.pairwise_cons.mpr ⟨?_, ascending⟩
        intro other member
        rcases List.mem_cons.mp member with found | found
        · subst found
          exact less
        · exact String.lt_trans less (first other found)
      · rw [Fields.insert, if_neg same, if_neg less]
        refine List.pairwise_cons.mpr ⟨?_, ih tail⟩
        intro other member
        rcases mem_insert member with found | found
        · subst found
          exact lt_of_not_lt_of_ne less same
        · exact first other found

/-- A lookup finds entries only. -/
theorem mem_of_get? {key : String} {value : α} {fields : Fields α}
    (found : get? key fields = some value) : (key, value) ∈ fields := by
  induction fields with
  | nil => simp at found
  | cons entry rest ih =>
    obtain ⟨k, first⟩ := entry
    by_cases same : k = key
    · rw [get?, if_pos same] at found
      rw [same, Option.some.inj found]
      exact List.mem_cons_self
    · rw [get?, if_neg same] at found
      exact List.mem_cons_of_mem _ (ih found)

/-- A lookup in an ascending list finds every entry of it. -/
theorem Ascending.get?_of_mem {fields : Fields α} (ascending : fields.Ascending) {key : String}
    {value : α} (member : (key, value) ∈ fields) : get? key fields = some value := by
  induction fields with
  | nil => simp at member
  | cons entry rest ih =>
    obtain ⟨k, first⟩ := entry
    obtain ⟨below, tail⟩ := List.pairwise_cons.mp ascending
    rcases List.mem_cons.mp member with same | later
    · cases same
      simp [get?]
    · have distinct : k ≠ key := by
        rintro rfl
        exact String.lt_irrefl _ (below (k, value) later)
      rw [get?, if_neg distinct]
      exact ih tail later

end Fields
end EndpointResolution
