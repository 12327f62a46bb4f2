import Mathlib.Data.String.Basic
import SourceLint.Settings.Config

/-!
# Values under keys in ascending order

Tables, and the tables of rules in a configuration, list their keys in ascending order.  Both get new keys
in the same way, so what is known about one holds of the other.

* **`putKey`** — a list of keys and values with a value for a key; `insertTable_eq_putKey` and
  `Table.insert_eq_putKey` say that it is how tables change.
* **`lookup_putKey`** — what is found afterwards.
* **`pairwise_putKey`** — the order is kept.
* **`putKey_eq_append`** — where the key stands.
-/

namespace SourceLint

variable {α : Type} {key : String} {value : α} {entries : List (String × α)}

/-- The entries with a value for the key, in front of the first greater key. -/
def putKey (key : String) (value : α) : List (String × α) → List (String × α)
  | [] => [(key, value)]
  | (k, v) :: rest =>
    if key < k then (key, value) :: (k, v) :: rest
    else if key = k then (key, value) :: rest
    else (k, v) :: putKey key value rest

theorem Config.insertTable_eq_putKey (rule : String) (table : Toml.Table)
    (tables : List (String × Toml.Table)) : insertTable rule table tables = putKey rule table tables := by
  induction tables with
  | nil => rfl
  | cons first rest ih => rw [insertTable, putKey, ih]

theorem Toml.Table.insert_eq_putKey (key : String) (value : Value) (table : Table) :
    insert key value table = putKey key value table := by
  induction table with
  | nil => rfl
  | cons first rest ih => rw [insert, putKey, ih]

/-! ### Keys -/

theorem mem_keys_putKey {name : String} :
    name ∈ (putKey key value entries).map (·.1) ↔ name = key ∨ name ∈ entries.map (·.1) := by
  induction entries with
  | nil => simp [putKey]
  | cons first rest ih =>
    rw [putKey]
    by_cases hlt : key < first.1
    · simp [hlt]
    · by_cases heq : key = first.1
      · simp [heq]
      · simp only [hlt, heq, if_false, List.map_cons, List.mem_cons, ih]
        tauto

theorem eq_or_mem_of_mem_putKey {entry : String × α} (h : entry ∈ putKey key value entries) :
    entry = (key, value) ∨ entry ∈ entries := by
  induction entries with
  | nil => exact .inl (List.mem_singleton.1 h)
  | cons first rest ih =>
    rw [putKey] at h
    split at h
    · exact List.mem_cons.1 h
    · split at h
      · rcases List.mem_cons.1 h with h | h
        · exact .inl h
        · exact .inr (List.mem_cons_of_mem first h)
      · rcases List.mem_cons.1 h with rfl | h
        · exact .inr List.mem_cons_self
        · exact (ih h).imp_right (List.mem_cons_of_mem first)

/-- The order of the keys is kept. -/
theorem pairwise_putKey (h : (entries.map (·.1)).Pairwise (· < ·)) :
    ((putKey key value entries).map (·.1)).Pairwise (· < ·) := by
  induction entries with
  | nil => exact List.pairwise_singleton _ _
  | cons first rest ih =>
    obtain ⟨hfirst, hrest⟩ := List.pairwise_cons.1 h
    rw [putKey]
    split
    · rename_i hlt
      refine List.pairwise_cons.2 ⟨fun name hname => ?_, h⟩
      rcases List.mem_cons.1 hname with rfl | hname
      · exact hlt
      · exact lt_trans hlt (hfirst name hname)
    · rename_i hnlt
      split
      · rename_i heq
        subst heq
        exact h
      · rename_i hne
        refine List.pairwise_cons.2 ⟨fun name hname => ?_, ih hrest⟩
        rcases mem_keys_putKey.1 hname with rfl | hname
        · exact lt_of_le_of_ne (not_lt.1 hnlt) (Ne.symm hne)
        · exact hfirst name hname

/-- Tables that are made of entries are in order. -/
theorem Toml.Table.pairwise_ofList (entries : List (String × Value)) :
    ((ofList entries).map (·.1)).Pairwise (· < ·) := by
  have hfold : ∀ table : Table, (table.map (·.1)).Pairwise (· < ·) →
      ((entries.foldl (fun t e => insert e.1 e.2 t) table).map (·.1)).Pairwise (· < ·) := by
    induction entries with
    | nil => exact fun table h => h
    | cons entry rest ih =>
      intro table h
      refine ih _ ?_
      show ((insert entry.1 entry.2 table).map (·.1)).Pairwise (· < ·)
      rw [insert_eq_putKey]
      exact pairwise_putKey h
  exact hfold [] List.Pairwise.nil

/-! ### Values -/

theorem lookup_cons_ite (name k : String) (v : α) (rest : List (String × α)) :
    ((k, v) :: rest).lookup name = if name = k then some v else rest.lookup name := by
  by_cases h : name = k
  · simp [h]
  · have hbeq : (name == k) = false := by simp [h]
    simp [List.lookup_cons, hbeq, h]

/-- The key has the new value, all other keys have the values that they had. -/
theorem lookup_putKey (name : String) :
    (putKey key value entries).lookup name = if name = key then some value else entries.lookup name := by
  induction entries with
  | nil => exact lookup_cons_ite name key value []
  | cons first rest ih =>
    obtain ⟨k, v⟩ := first
    rw [putKey]
    by_cases hlt : key < k
    · rw [if_pos hlt, lookup_cons_ite]
    · by_cases heq : key = k
      · rw [if_neg hlt, if_pos heq, lookup_cons_ite, lookup_cons_ite, heq]
        split <;> rfl
      · rw [if_neg hlt, if_neg heq, lookup_cons_ite, lookup_cons_ite, ih]
        by_cases hk : name = k
        · have hne : name ≠ key := fun h => heq (h.symm.trans hk)
          simp [hk, Ne.symm heq]
        · simp [hk]

/-- Giving a key the value that it has changes nothing. -/
theorem putKey_putKey : putKey key value (putKey key value entries) = putKey key value entries := by
  induction entries with
  | nil => simp [putKey]
  | cons first rest ih =>
    obtain ⟨k, v⟩ := first
    by_cases hlt : key < k
    · simp [putKey, hlt]
    · by_cases heq : key = k
      · simp [putKey, heq]
      · simp [putKey, hlt, heq, ih]

/-- The key stands between the smaller and the greater ones; all other entries are those that were there. -/
theorem putKey_eq_append (h : (entries.map (·.1)).Pairwise (· < ·)) :
    ∃ before after, putKey key value entries = before ++ (key, value) :: after ∧
      entries.filter (·.1 ≠ key) = before ++ after := by
  induction entries with
  | nil => exact ⟨[], [], rfl, rfl⟩
  | cons first rest ih =>
    obtain ⟨hfirst, hrest⟩ := List.pairwise_cons.1 h
    have hgreater : first.1 = key ∨ key < first.1 → rest.filter (·.1 ≠ key) = rest := by
      intro hle
      refine List.filter_eq_self.2 fun entry hentry => ?_
      have hlt : first.1 < entry.1 := hfirst entry.1 (List.mem_map.2 ⟨entry, hentry, rfl⟩)
      have hne : entry.1 ≠ key := by
        rcases hle with rfl | hkey
        · exact hlt.ne'
        · exact (hkey.trans hlt).ne'
      simp [hne]
    by_cases hlt : key < first.1
    · refine ⟨[], first :: rest, by simp [putKey, hlt], ?_⟩
      rw [List.filter_cons_of_pos (by simp [hlt.ne']), hgreater (.inr hlt)]
      rfl
    · by_cases heq : key = first.1
      · refine ⟨[], rest, by simp [putKey, heq], ?_⟩
        rw [List.filter_cons_of_neg (by simp [heq]), hgreater (.inl heq.symm)]
        rfl
      · obtain ⟨before, after, hput, hfilter⟩ := ih hrest
        refine ⟨first :: before, after, by simp [putKey, hlt, heq, hput], ?_⟩
        rw [List.filter_cons_of_pos (by simp [Ne.symm heq]), hfilter]
        rfl

end SourceLint
