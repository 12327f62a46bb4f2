import SourceLint.Proofs.Data.Steps
import SourceLint.Toml.Decoding

/-!
# Documents without places

Where a part stands in a text shows in errors only.

* **`Item.bare`** — a part without its place.
* **`Placeless`** — what is decoded from a part does not depend on places; `toOption_toValue_bare` says so
  of values.
* **`Item.Ordinary`** — no table in the part could be a date; such parts are values in any case.
-/

namespace SourceLint.Toml

open SourceLint.Data

namespace Item

mutual

/-- The part without its place and without the way in which its tables came about. -/
def bare : Item → Item
  | scalar s _ => scalar s default
  | array elements _ | tables elements _ => array (bareAll elements) default
  | table _ entries _ => table .header (bareEntries entries) none

/-- The parts without their places. -/
def bareAll : List Item → List Item
  | [] => []
  | i :: is => bare i :: bareAll is

/-- The entries without the places of their keys and parts. -/
def bareEntries : List (Key × Item) → List (Key × Item)
  | [] => []
  | (key, item) :: rest => (⟨key.name, default⟩, bare item) :: bareEntries rest

end

end Item

open Item

/-- What is decoded from a part does not depend on places. -/
def Placeless {α : Type} (decode : Item → Decoded α) : Prop :=
  ∀ item, (decode item.bare).toOption = (decode item).toOption

theorem Placeless.eq_ok {α : Type} {decode : Item → Decoded α} (h : Placeless decode) {item other : Item}
    (hbare : item.bare = other.bare) {a : α} (ha : decode item = .ok a) : decode other = .ok a := by
  refine eq_ok_of_toOption_eq ?_ ha
  rw [← h item, ← h other, hbare]

theorem toOption_under {α : Type} (result : Decoded α) (key : Key) (item : Item) :
    (result.under key item).toOption = result.toOption := by
  cases result with
  | error e => rfl
  | ok a => rfl

/-! ### Values -/

theorem placeless_toDatetime : Placeless toDatetime := by
  intro item
  cases item with
  | scalar s stretch =>
    cases s with
    | string text =>
      rw [bare, toDatetime, toDatetime]
      cases datetimeOfText text with
      | error e => rfl
      | ok date => rfl
    | integer | float | boolean | datetime => rfl
  | array | tables | table => rfl

mutual

/-- Values do not depend on places. -/
theorem toOption_toValue_bare : ∀ item : Item, (toValue item.bare).toOption = (toValue item).toOption
  | .scalar s stretch => by rw [bare, toValue, toValue]
  | .array elements stretch | .tables elements stretch => by
    rw [bare, toValue, toValue, toOption_map, toOption_map, toOption_toValues_bareAll elements]
  -- Whether a table is a date is decided by its first key, so the list of entries is taken apart here.
  | .table form [] stretch => by rw [bare, bareEntries, toValue, toValue]
  | .table form ((key, item) :: rest) stretch => by
    rw [bare, bareEntries, toValue, toValue, dateEntry?, dateEntry?]
    by_cases hkey : key.name = dateKey
    · rw [if_pos hkey, if_pos hkey]
      dsimp only
      rw [toOption_under, toOption_under, placeless_toDatetime item]
    · rw [if_neg hkey, if_neg hkey]
      dsimp only
      rw [← bareEntries, toOption_map, toOption_map, toTable, toTable, toOption_map, toOption_map,
        toOption_toEntries_bareEntries ((key, item) :: rest)]

theorem toOption_toValues_bareAll : ∀ elements : List Item,
    (toValues (bareAll elements)).toOption = (toValues elements).toOption
  | [] => rfl
  | i :: is => by
    rw [bareAll, toValues, toValues, toOption_bind, toOption_bind, toOption_toValue_bare i]
    simp only [toOption_bind, toOption_toValues_bareAll is]

theorem toOption_toEntries_bareEntries : ∀ entries : List (Key × Item),
    (toEntries (bareEntries entries)).toOption = (toEntries entries).toOption
  | [] => rfl
  | (key, item) :: rest => by
    rw [bareEntries, toEntries, toEntries, toOption_bind, toOption_bind, toOption_under, toOption_under,
      toOption_toValue_bare item]
    simp only [toOption_bind, toOption_toEntries_bareEntries rest]

end

theorem toOption_toTable_bareEntries (entries : List (Key × Item)) :
    (toTable (bareEntries entries)).toOption = (toTable entries).toOption := by
  rw [toTable, toTable, toOption_map, toOption_map, toOption_toEntries_bareEntries]

/-! ### Parts that are values in any case -/

/-- No table in the part begins with the key of dates. -/
inductive Item.Ordinary : Item → Prop where
  | scalar (value : Scalar) (stretch : Stretch) : Ordinary (.scalar value stretch)
  | array {elements : List Item} (h : ∀ i ∈ elements, Ordinary i) (stretch : Stretch) :
      Ordinary (.array elements stretch)
  | tables {elements : List Item} (h : ∀ i ∈ elements, Ordinary i) (stretch : Option Stretch) :
      Ordinary (.tables elements stretch)
  | table {entries : List (Key × Item)} (hfirst : dateEntry? entries = none)
      (h : ∀ e ∈ entries, Ordinary e.2) (form : TableForm) (stretch : Option Stretch) :
      Ordinary (.table form entries stretch)

theorem exists_toValues {elements : List Item} (h : ∀ i ∈ elements, ∃ v, toValue i = .ok v) :
    ∃ vs, toValues elements = .ok vs := by
  induction elements with
  | nil => exact ⟨[], by rw [toValues]⟩
  | cons i is ih =>
    obtain ⟨⟨v, hv⟩, his⟩ := List.forall_mem_cons.1 h
    obtain ⟨vs, hvs⟩ := ih his
    exact ⟨v :: vs, by rw [toValues, hv, hvs]; rfl⟩

theorem exists_toTable {entries : List (Key × Item)} (h : ∀ e ∈ entries, ∃ v, toValue e.2 = .ok v) :
    ∃ table, toTable entries = .ok table := by
  have hentries : ∃ vs, toEntries entries = .ok vs := by
    induction entries with
    | nil => exact ⟨[], by rw [toEntries]⟩
    | cons e rest ih =>
      obtain ⟨⟨v, hv⟩, hrest⟩ := List.forall_mem_cons.1 h
      obtain ⟨vs, hvs⟩ := ih hrest
      exact ⟨(e.1.name, v) :: vs, by rw [toEntries, hv, hvs]; rfl⟩
  obtain ⟨vs, hvs⟩ := hentries
  exact ⟨Table.ofList vs, by rw [toTable, hvs]; rfl⟩

theorem Item.Ordinary.exists_toValue {item : Item} (h : item.Ordinary) : ∃ v, toValue item = .ok v := by
  induction h with
  | scalar s stretch => exact ⟨.scalar s, by rw [toValue]⟩
  | array _ stretch ih | tables _ stretch ih =>
    obtain ⟨vs, hvs⟩ := exists_toValues ih
    exact ⟨.array vs, by rw [toValue, hvs]; rfl⟩
  | table hfirst _ form stretch ih =>
    obtain ⟨table, htable⟩ := exists_toTable ih
    exact ⟨.table table, by rw [toValue, hfirst, htable]; rfl⟩

end SourceLint.Toml
