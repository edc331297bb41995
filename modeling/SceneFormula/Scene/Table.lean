set_option autoImplicit false

namespace SceneFormula

/-- What has another key is found as well without what has a key. -/
theorem find?_filter_of_ne {α κ : Type} [DecidableEq κ] (entries : List α) (keyOf : α → κ)
    {key other : κ} (ne : other ≠ key) :
    (entries.filter fun entry => keyOf entry ≠ key).find? (fun entry => keyOf entry = other) =
      entries.find? fun entry => keyOf entry = other := by
  rw [List.find?_filter]
  congr 1
  funext entry
  by_cases same : keyOf entry = other
  · simp [same, ne]
  · simp [same]

/-- Entries with their keys, of which no two are equal. -/
structure Table (κ α : Type) where
  entries : List (κ × α)
  distinct : (entries.map (·.1)).Nodup

namespace Table

variable {κ α : Type}

def empty : Table κ α := ⟨[], .nil⟩

def keys (table : Table κ α) : List κ := table.entries.map (·.1)

def size (table : Table κ α) : Nat := table.entries.length

variable [DecidableEq κ]

def get? (table : Table κ α) (key : κ) : Option α :=
  (table.entries.find? fun entry => entry.1 = key).map (·.2)

/-- The table without the entry of a key, if there is one. -/
def erase (table : Table κ α) (key : κ) : Table κ α where
  entries := table.entries.filter fun entry => entry.1 ≠ key
  distinct := table.distinct.sublist (List.filter_sublist.map _)

/-- The table with an entry for a key, in place of any other. -/
def set (table : Table κ α) (key : κ) (value : α) : Table κ α where
  entries := (table.erase key).entries ++ [(key, value)]
  distinct := by
    rw [List.map_append, List.nodup_append]
    refine ⟨(table.erase key).distinct, by simp, ?_⟩
    simp [erase]

theorem get?_eq_none_iff {table : Table κ α} {key : κ} :
    table.get? key = none ↔ key ∉ table.keys := by
  simp only [get?, keys, Option.map_eq_none_iff, List.find?_eq_none, List.mem_map,
    decide_eq_true_eq, not_exists, not_and]

theorem get?_erase (table : Table κ α) (key other : κ) :
    (table.erase key).get? other = if other = key then none else table.get? other := by
  unfold get? erase
  by_cases same : other = key
  · rw [if_pos same, same, Option.map_eq_none_iff, List.find?_eq_none]
    simp
  · rw [if_neg same, find?_filter_of_ne _ _ same]

theorem get?_set (table : Table κ α) (key other : κ) (value : α) :
    (table.set key value).get? other = if other = key then some value else table.get? other := by
  have split : (table.set key value).get? other =
      ((table.erase key).get? other).or (if other = key then some value else none) := by
    simp only [get?, set, List.find?_append, List.find?_singleton, Option.map_or]
    by_cases same : key = other <;> simp [same, eq_comm]
  rw [split, get?_erase]
  by_cases same : other = key <;> simp [same]

end Table
end SceneFormula
