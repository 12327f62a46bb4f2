import SourceLint.Json.Decode
import SourceLint.Proofs.Data.Ascending
import SourceLint.Proofs.Data.Steps

/-!
# What is written as JSON is read back

Severities, locations, violations, reports and substitutions are written as JSON by functions that know
nothing of those that read them.  Each record is written as an object, so the other form in which a record
can be read, a list, does not matter here.

* **`checkEntries_sortedEntries_eq_ok_iff`** — when all entries of an object have values of the right form.
* **`Location.ofJson_object_eq_ok_iff`** and its like — which records an object is read as.
* **`ReadsBack`** — values survive being written and read, and what is read and written again stays the same.
* **`IgnoresOtherKeys`** — what an object says under keys that the record does not have makes no difference.
* **`written_values_read_back`** — this is so of all five types.
-/

namespace SourceLint

open Data Json

namespace Json

variable {α : Type}

/-! ### Objects -/

/-- The value of an object at a key. -/
def value? (j : Json) (key : String) : Option Json :=
  match j with
  | object entries => get? entries key
  | _ => none

/-- The object without a key. -/
def without (key : String) : Json → Json
  | object entries => object (entries.filter (·.1 != key))
  | j => j

/-- The entries at the given keys. -/
def known (keys : List String) (entries : List (String × Json)) : List (String × Json) :=
  entries.filter fun e => keys.contains e.1

theorem checkEntries_eq_ok_iff {check : String → Json → Decoded Unit}
    {entries : List (String × Json)} :
    checkEntries check entries = .ok () ↔ ∀ e ∈ entries, check e.1 e.2 = .ok () := by
  induction entries with
  | nil => simp [checkEntries]
  | cons e rest ih =>
    rw [List.forall_mem_cons, ← ih, checkEntries]
    constructor
    · intro h
      obtain ⟨⟨⟩, hfirst, hrest⟩ := exists_of_bind_ok h
      exact ⟨hfirst, hrest⟩
    · rintro ⟨hfirst, hrest⟩
      rw [hfirst]
      exact hrest

/-- The order in which entries are checked only matters for errors. -/
theorem checkEntries_sortedEntries_eq_ok_iff {check : String → Json → Decoded Unit}
    {entries : List (String × Json)} :
    checkEntries check (sortedEntries entries) = .ok () ↔ ∀ e ∈ entries, check e.1 e.2 = .ok () := by
  have hperm : (sortedEntries entries).Perm entries := List.mergeSort_perm _ _
  rw [checkEntries_eq_ok_iff]
  exact ⟨fun h e he => h e (hperm.mem_iff.2 he), fun h e he => h e (hperm.mem_iff.1 he)⟩

section Known

variable {keys : List String} {entries : List (String × Json)} {key : String}

theorem get?_known (h : key ∈ keys) : get? (known keys entries) key = get? entries key := by
  simp only [get?, known]
  induction entries with
  | nil => rfl
  | cons e rest ih =>
    obtain ⟨name, value⟩ := e
    by_cases hname : keys.contains name = true
    · rw [List.filter_cons_of_pos (by exact hname), lookup_cons_ite, lookup_cons_ite, ih]
    · have hne : key ≠ name := fun heq => hname (heq ▸ List.contains_iff_mem.2 h)
      rw [List.filter_cons_of_neg (by exact hname), lookup_cons_ite, if_neg hne, ih]

theorem required_known (h : key ∈ keys) (decode : Json → Decoded α) :
    required (known keys entries) key decode = required entries key decode := by
  rw [required, required, get?_known h]

theorem defaulted_known (h : key ∈ keys) (decode : Json → Decoded α) (default : α) :
    defaulted (known keys entries) key decode default = defaulted entries key decode default := by
  rw [defaulted, defaulted, get?_known h]

/-- Nothing is asked of the values at keys that a record does not have. -/
theorem checkEntries_known_eq_ok_iff {check : String → Json → Decoded Unit}
    (h : ∀ name ∉ keys, ∀ value, check name value = .ok ()) :
    checkEntries check (sortedEntries (known keys entries)) = .ok () ↔
      checkEntries check (sortedEntries entries) = .ok () := by
  rw [checkEntries_sortedEntries_eq_ok_iff, checkEntries_sortedEntries_eq_ok_iff]
  constructor
  · intro hknown e he
    by_cases hkey : e.1 ∈ keys
    · exact hknown e (List.mem_filter.2 ⟨he, List.contains_iff_mem.2 hkey⟩)
    · exact h e.1 hkey e.2
  · exact fun hall e he => hall e (List.mem_filter.1 he).1

end Known

/-! ### Simple values -/

@[simp] theorem discard_ok (a : α) : discard (Except.ok a : Decoded α) = .ok () := rfl

@[simp] theorem decodeString_string (s : String) : decodeString (string s) = .ok s := rfl

@[simp] theorem decodePath_string (s : String) : decodePath (string s) = .ok s := rfl

@[simp] theorem decodeOptionalString_string (s : String) :
    decodeOptionalString (string s) = .ok (some s) := rfl

@[simp] theorem decodeCount_natural (n : Nat) : decodeCount (natural n) = .ok n := by
  simp [natural, decodeCount]

/-- A list is read back if its elements are. -/
theorem decodeElements_map {toJson : α → Json} {ofJson : Json → Decoded α}
    (h : ∀ a, ofJson (toJson a) = .ok a) (values : List α) :
    decodeElements ofJson (values.map toJson) = .ok values := by
  induction values with
  | nil => rfl
  | cons a rest ih =>
    rw [List.map_cons, decodeElements, h, ih]
    rfl

theorem decodeList_array {toJson : α → Json} {ofJson : Json → Decoded α}
    (h : ∀ a, ofJson (toJson a) = .ok a) (values : List α) :
    decodeList ofJson (array (values.map toJson)) = .ok values :=
  decodeElements_map h values

/-! ### Writing and reading -/

/-- The JSON that is written for the value that a JSON is read as. -/
def rewrite (toJson : α → Json) (ofJson : Json → Decoded α) (j : Json) : Decoded Json :=
  toJson <$> ofJson j

/-- Values survive being written and read, and a JSON that can be read at all is written again as one that
stays as it is. -/
structure ReadsBack (toJson : α → Json) (ofJson : Json → Decoded α) : Prop where
  ofJson_toJson : ∀ a, ofJson (toJson a) = .ok a
  rewrite_rewrite : ∀ j a, ofJson j = .ok a →
    ∃ k, rewrite toJson ofJson j = .ok k ∧ rewrite toJson ofJson k = .ok k

/-- An object is read as it would be without what it says at other keys than the given ones. -/
def IgnoresOtherKeys (keys : List String) (ofJson : Json → Decoded α) : Prop :=
  ∀ entries a, ofJson (object entries) = .ok a ↔ ofJson (object (known keys entries)) = .ok a

/-- What is written for a value is read as the same value, and so written in the same way. -/
theorem ReadsBack.of_ofJson_toJson {toJson : α → Json} {ofJson : Json → Decoded α}
    (h : ∀ a, ofJson (toJson a) = .ok a) : ReadsBack toJson ofJson where
  ofJson_toJson := h
  rewrite_rewrite j a hj := by
    refine ⟨toJson a, ?_, ?_⟩
    · rw [rewrite, hj]
      rfl
    · rw [rewrite, h]
      rfl

end Json

/-! ### Severities -/

theorem Severity.ofJson_toJson (s : Severity) : Severity.ofJson s.toJson = .ok s := by
  rw [toJson, ofJson, decodeName, ofName?_name]

/-! ### Locations -/

namespace Location

/-- The keys of a location. -/
def keys : List String := ["file", "line", "column", "offset", "length"]

theorem checkField_of_notMem {key : String} (h : key ∉ keys) (value : Json) :
    checkField key value = .ok () := by
  simp only [keys, List.mem_cons, not_or] at h
  simp [checkField, h]

theorem ofJson_object_eq_ok_iff {entries : List (String × Json)} {l : Location} :
    ofJson (.object entries) = .ok l ↔
      checkEntries checkField (sortedEntries entries) = .ok () ∧
        required entries "file" decodePath = .ok l.file ∧
        required entries "line" decodeCount = .ok l.line ∧
        required entries "column" decodeCount = .ok l.column ∧
        required entries "offset" decodeCount = .ok l.offset ∧
        required entries "length" decodeCount = .ok l.length := by
  rw [ofJson]
  constructor
  · intro h
    obtain ⟨⟨⟩, hcheck, h⟩ := exists_of_bind_ok h
    obtain ⟨file, hfile, h⟩ := exists_of_bind_ok h
    obtain ⟨line, hline, h⟩ := exists_of_bind_ok h
    obtain ⟨column, hcolumn, h⟩ := exists_of_bind_ok h
    obtain ⟨offset, hoffset, h⟩ := exists_of_bind_ok h
    obtain ⟨length, hlength, h⟩ := exists_of_bind_ok h
    cases h
    exact ⟨hcheck, hfile, hline, hcolumn, hoffset, hlength⟩
  · rintro ⟨hcheck, hfile, hline, hcolumn, hoffset, hlength⟩
    rw [hcheck, hfile, hline, hcolumn, hoffset, hlength]
    rfl

theorem ofJson_toJson (l : Location) : ofJson l.toJson = .ok l := by
  rw [toJson, ofJson_object_eq_ok_iff, checkEntries_sortedEntries_eq_ok_iff]
  simp [checkField, required, get?, lookup_cons_ite]

theorem ignoresOtherKeys : IgnoresOtherKeys keys ofJson := by
  intro entries l
  simp only [ofJson_object_eq_ok_iff, checkEntries_known_eq_ok_iff fun _ => checkField_of_notMem,
    required_known (show "file" ∈ keys by decide), required_known (show "line" ∈ keys by decide),
    required_known (show "column" ∈ keys by decide), required_known (show "offset" ∈ keys by decide),
    required_known (show "length" ∈ keys by decide)]

end Location

/-! ### Violations -/

namespace Violation

/-- The keys of a violation. -/
def keys : List String := ["rule", "severity", "location", "reason"]

theorem checkField_of_notMem {key : String} (h : key ∉ keys) (value : Json) :
    checkField key value = .ok () := by
  simp only [keys, List.mem_cons, not_or] at h
  simp [checkField, h]

theorem ofJson_object_eq_ok_iff {entries : List (String × Json)} {v : Violation} :
    ofJson (.object entries) = .ok v ↔
      checkEntries checkField (sortedEntries entries) = .ok () ∧
        required entries "rule" decodeString = .ok v.rule ∧
        required entries "severity" Severity.ofJson = .ok v.severity ∧
        required entries "location" Location.ofJson = .ok v.location ∧
        defaulted entries "reason" decodeOptionalString none = .ok v.reason := by
  rw [ofJson]
  constructor
  · intro h
    obtain ⟨⟨⟩, hcheck, h⟩ := exists_of_bind_ok h
    obtain ⟨rule, hrule, h⟩ := exists_of_bind_ok h
    obtain ⟨severity, hseverity, h⟩ := exists_of_bind_ok h
    obtain ⟨location, hlocation, h⟩ := exists_of_bind_ok h
    obtain ⟨reason, hreason, h⟩ := exists_of_bind_ok h
    cases h
    exact ⟨hcheck, hrule, hseverity, hlocation, hreason⟩
  · rintro ⟨hcheck, hrule, hseverity, hlocation, hreason⟩
    rw [hcheck, hrule, hseverity, hlocation, hreason]
    rfl

theorem ofJson_toJson (v : Violation) : ofJson v.toJson = .ok v := by
  obtain ⟨rule, severity, location, reason⟩ := v
  rw [toJson, ofJson_object_eq_ok_iff, checkEntries_sortedEntries_eq_ok_iff]
  cases reason with
  | none =>
    simp [checkField, required, defaulted, get?, lookup_cons_ite, Severity.ofJson_toJson,
      Location.ofJson_toJson]
  | some reason =>
    simp [checkField, required, defaulted, get?, lookup_cons_ite, Severity.ofJson_toJson,
      Location.ofJson_toJson]

theorem ignoresOtherKeys : IgnoresOtherKeys keys ofJson := by
  intro entries v
  simp only [ofJson_object_eq_ok_iff, checkEntries_known_eq_ok_iff fun _ => checkField_of_notMem,
    required_known (show "rule" ∈ keys by decide), required_known (show "severity" ∈ keys by decide),
    required_known (show "location" ∈ keys by decide), defaulted_known (show "reason" ∈ keys by decide)]

/-- The reason is written if there is one. -/
theorem value?_reason_toJson (v : Violation) : v.toJson.value? "reason" = v.reason.map .string := by
  obtain ⟨rule, severity, location, reason⟩ := v
  cases reason <;> simp [toJson, value?, get?, lookup_cons_ite]

/-- Without its key the reason is missing. -/
theorem ofJson_without_reason (v : Violation) :
    ofJson (v.toJson.without "reason") = .ok { v with reason := none } := by
  have hsame : v.toJson.without "reason" = toJson { v with reason := none } := by
    obtain ⟨rule, severity, location, reason⟩ := v
    cases reason <;> rfl
  rw [hsame, ofJson_toJson]

end Violation

/-! ### Reports -/

namespace Report

/-- The keys of a report. -/
def keys : List String := ["violations", "files_checked", "corrections_applied"]

theorem checkField_of_notMem {key : String} (h : key ∉ keys) (value : Json) :
    checkField key value = .ok () := by
  simp only [keys, List.mem_cons, not_or] at h
  simp [checkField, h]

theorem ofJson_object_eq_ok_iff {entries : List (String × Json)} {r : Report} :
    ofJson (.object entries) = .ok r ↔
      checkEntries checkField (sortedEntries entries) = .ok () ∧
        required entries "violations" (decodeList Violation.ofJson) = .ok r.violations ∧
        required entries "files_checked" decodeCount = .ok r.filesChecked ∧
        defaulted entries "corrections_applied" decodeCount 0 = .ok r.correctionsApplied := by
  rw [ofJson]
  constructor
  · intro h
    obtain ⟨⟨⟩, hcheck, h⟩ := exists_of_bind_ok h
    obtain ⟨violations, hviolations, h⟩ := exists_of_bind_ok h
    obtain ⟨files, hfiles, h⟩ := exists_of_bind_ok h
    obtain ⟨corrections, hcorrections, h⟩ := exists_of_bind_ok h
    cases h
    exact ⟨hcheck, hviolations, hfiles, hcorrections⟩
  · rintro ⟨hcheck, hviolations, hfiles, hcorrections⟩
    rw [hcheck, hviolations, hfiles, hcorrections]
    rfl

theorem ofJson_toJson (r : Report) : ofJson r.toJson = .ok r := by
  rw [toJson, ofJson_object_eq_ok_iff, checkEntries_sortedEntries_eq_ok_iff]
  simp [checkField, required, defaulted, get?, lookup_cons_ite,
    decodeList_array Violation.ofJson_toJson]

theorem ignoresOtherKeys : IgnoresOtherKeys keys ofJson := by
  intro entries r
  simp only [ofJson_object_eq_ok_iff, checkEntries_known_eq_ok_iff fun _ => checkField_of_notMem,
    required_known (show "violations" ∈ keys by decide),
    required_known (show "files_checked" ∈ keys by decide),
    defaulted_known (show "corrections_applied" ∈ keys by decide)]

/-- Without its key the number of edits is zero. -/
theorem ofJson_without_corrections (r : Report) :
    ofJson (r.toJson.without "corrections_applied") = .ok { r with correctionsApplied := 0 } := by
  have hleft : r.toJson.without "corrections_applied" =
      .object [("violations", .array (r.violations.map Violation.toJson)),
        ("files_checked", natural r.filesChecked)] := rfl
  rw [hleft, ofJson_object_eq_ok_iff, checkEntries_sortedEntries_eq_ok_iff]
  simp [checkField, required, defaulted, get?, lookup_cons_ite,
    decodeList_array Violation.ofJson_toJson]

end Report

/-! ### Substitutions -/

namespace ByteRange

theorem ofJson_object_eq_ok_iff {entries : List (String × Json)} {r : ByteRange} :
    ofJson (.object entries) = .ok r ↔
      checkEntries checkField (sortedEntries entries) = .ok () ∧
        required entries "start" decodeCount = .ok r.start ∧
        required entries "end" decodeCount = .ok r.stop := by
  rw [ofJson]
  constructor
  · intro h
    obtain ⟨⟨⟩, hcheck, h⟩ := exists_of_bind_ok h
    obtain ⟨start, hstart, h⟩ := exists_of_bind_ok h
    obtain ⟨stop, hstop, h⟩ := exists_of_bind_ok h
    cases h
    exact ⟨hcheck, hstart, hstop⟩
  · rintro ⟨hcheck, hstart, hstop⟩
    rw [hcheck, hstart, hstop]
    rfl

theorem ofJson_toJson (r : ByteRange) : ofJson r.toJson = .ok r := by
  rw [toJson, ofJson_object_eq_ok_iff, checkEntries_sortedEntries_eq_ok_iff]
  simp [checkField, required, get?, lookup_cons_ite]

end ByteRange

namespace Substitution

/-- The keys of a substitution. -/
def keys : List String := ["range", "replacement"]

theorem checkField_of_notMem {key : String} (h : key ∉ keys) (value : Json) :
    checkField key value = .ok () := by
  simp only [keys, List.mem_cons, not_or] at h
  simp [checkField, h]

theorem ofJson_object_eq_ok_iff {entries : List (String × Json)} {s : Substitution} :
    ofJson (.object entries) = .ok s ↔
      checkEntries checkField (sortedEntries entries) = .ok () ∧
        required entries "range" ByteRange.ofJson = .ok ⟨s.start, s.stop⟩ ∧
        required entries "replacement" decodeString = .ok s.replacement := by
  rw [ofJson]
  constructor
  · intro h
    obtain ⟨⟨⟩, hcheck, h⟩ := exists_of_bind_ok h
    obtain ⟨range, hrange, h⟩ := exists_of_bind_ok h
    obtain ⟨replacement, hreplacement, h⟩ := exists_of_bind_ok h
    cases h
    exact ⟨hcheck, hrange, hreplacement⟩
  · rintro ⟨hcheck, hrange, hreplacement⟩
    rw [hcheck, hrange, hreplacement]
    rfl

theorem ofJson_toJson (s : Substitution) : ofJson s.toJson = .ok s := by
  rw [toJson, ofJson_object_eq_ok_iff, checkEntries_sortedEntries_eq_ok_iff]
  simp [checkField, required, get?, lookup_cons_ite, ByteRange.ofJson_toJson]

theorem ignoresOtherKeys : IgnoresOtherKeys keys ofJson := by
  intro entries s
  simp only [ofJson_object_eq_ok_iff, checkEntries_known_eq_ok_iff fun _ => checkField_of_notMem,
    required_known (show "range" ∈ keys by decide),
    required_known (show "replacement" ∈ keys by decide)]

end Substitution

/-! ### All five types -/

/-- **What is written is read back.**  Severities, locations, violations, reports and substitutions are read
from the JSON that is written for them, and whatever JSON can be read as one of them is written again as one
that stays as it is when it is read and written once more.  The key of a reason is there exactly if the
violation has a reason.  An object from which the key of the reason or that of the number of edits is missing
can be read, and so can one with other keys: these make no difference. -/
theorem written_values_read_back :
    ReadsBack Severity.toJson Severity.ofJson ∧
      ReadsBack Location.toJson Location.ofJson ∧
      ReadsBack Violation.toJson Violation.ofJson ∧
      ReadsBack Report.toJson Report.ofJson ∧
      ReadsBack Substitution.toJson Substitution.ofJson ∧
      (∀ v : Violation, v.toJson.value? "reason" = v.reason.map .string ∧
        Violation.ofJson (v.toJson.without "reason") = .ok { v with reason := none }) ∧
      (∀ r : Report, Report.ofJson (r.toJson.without "corrections_applied") =
        .ok { r with correctionsApplied := 0 }) ∧
      IgnoresOtherKeys Location.keys Location.ofJson ∧
      IgnoresOtherKeys Violation.keys Violation.ofJson ∧
      IgnoresOtherKeys Report.keys Report.ofJson ∧
      IgnoresOtherKeys Substitution.keys Substitution.ofJson := by
  refine ⟨.of_ofJson_toJson Severity.ofJson_toJson, .of_ofJson_toJson Location.ofJson_toJson,
    .of_ofJson_toJson Violation.ofJson_toJson, .of_ofJson_toJson Report.ofJson_toJson,
    .of_ofJson_toJson Substitution.ofJson_toJson, fun v => ?_, Report.ofJson_without_corrections,
    Location.ignoresOtherKeys, Violation.ignoresOtherKeys, Report.ignoresOtherKeys,
    Substitution.ignoresOtherKeys⟩
  exact ⟨v.value?_reason_toJson, v.ofJson_without_reason⟩

end SourceLint
