import SourceLint.Files.Tree
import SourceLint.Proofs.Files.Names

/-!
# Where names lead

What a name leads to is found step by step, and a step can be made from a directory only.  Trees are given
by lists, so not all of them are such as there can be: nothing keeps a list from putting something below a
file.

* **`Tree.places`** — where the files of a tree are.
* **`Tree.Lawful`** — one file at a place, nothing below a file, names that entries can have;
  **`Tree.NamesAreTexts`** — names that are texts.
* **`Tree.locate_join`** — the name of an entry leads from the directory to the entry; `exists_of_locate_join`
  says that it leads to nothing else, and `Lawful.locate_foldl_join` goes on to any file below the directory.
-/

namespace SourceLint.Files

open PathName

namespace Tree

/-! ### Places -/

/-- Where the files of a tree are. -/
def places (t : Tree) : List Place :=
  t.files.map (·.1)

theorem isFileAt_iff {t : Tree} {place : Place} : t.isFileAt place = true ↔ place ∈ t.places := by
  rw [isFileAt, content?, List.lookup_isSome_iff, places, List.mem_map]
  simp only [beq_iff_eq, eq_comm (a := place)]

theorem isDirectoryAt_iff {t : Tree} {place : Place} :
    t.isDirectoryAt place = true ↔
      place ∉ t.places ∧ ∃ below ∈ t.workingDirectory :: t.directories ++ t.places, place <+: below := by
  have hany : (t.files.any fun f => place.isPrefixOf f.1) = t.places.any place.isPrefixOf := by
    rw [places, List.any_map]
    rfl
  rw [isDirectoryAt, hany, Bool.and_eq_true, Bool.not_eq_true', Bool.eq_false_iff, Ne, isFileAt_iff]
  simp only [Bool.or_eq_true, List.any_eq_true, List.isPrefixOf_iff_prefix, List.cons_append,
    List.mem_cons, List.mem_append, or_and_right, exists_or, exists_eq_left, or_assoc]

/-- The tree is such as there can be. -/
structure Lawful (t : Tree) : Prop where
  /-- There is one file at a place. -/
  nodup_places : t.places.Nodup
  isEntryName_of_mem : ∀ place ∈ t.workingDirectory :: t.places, ∀ name ∈ place, IsEntryName name
  /-- Nothing is below a file. -/
  eq_of_prefix : ∀ file ∈ t.places, ∀ place ∈ t.places, file <+: place → file = place
  /-- Names begin in a directory. -/
  not_prefix_workingDirectory : ∀ file ∈ t.places, ¬ file <+: t.workingDirectory

instance (t : Tree) : Decidable t.Lawful :=
  decidable_of_iff
    (t.places.Nodup ∧ (∀ place ∈ t.workingDirectory :: t.places, ∀ name ∈ place, IsEntryName name) ∧
      (∀ file ∈ t.places, ∀ place ∈ t.places, file <+: place → file = place) ∧
      ∀ file ∈ t.places, ¬ file <+: t.workingDirectory)
    ⟨fun ⟨hnodup, hnames, hprefix, hworking⟩ => ⟨hnodup, hnames, hprefix, hworking⟩,
      fun h => ⟨h.nodup_places, h.isEntryName_of_mem, h.eq_of_prefix, h.not_prefix_workingDirectory⟩⟩

/-- What is above a file is a directory. -/
theorem Lawful.isDirectoryAt {t : Tree} (ht : t.Lawful) {place : Place} {name : String}
    {rest : List String} (h : place ++ name :: rest ∈ t.places) : t.isDirectoryAt place = true := by
  have hprefix : place <+: place ++ name :: rest := List.prefix_append place _
  rw [isDirectoryAt_iff]
  refine ⟨fun hfile => ?_, _, List.mem_append_right _ h, hprefix⟩
  have heq := congrArg List.length (ht.eq_of_prefix place hfile _ h hprefix)
  rw [List.length_append, List.length_cons] at heq
  omega

/-! ### Steps -/

section Steps

variable {t : Tree}

theorem checkDirectory_eq_ok_iff {place : Place} :
    t.checkDirectory place = .ok () ↔ t.isDirectoryAt place = true := by
  rw [checkDirectory]
  split
  · simp only [*]
  · simp only [reduceCtorEq, *]

/-- Every step begins in a directory. -/
theorem step_eq_ok_iff {place after : Place} {piece : String} :
    t.step place piece = .ok after ↔
      t.isDirectoryAt place = true ∧
        after = match component? piece with
          | some (.entry name) => place ++ [name]
          | some .up => place.dropLast
          | _ => place := by
  rw [← checkDirectory_eq_ok_iff, step]
  cases t.checkDirectory place with
  | error fault => simp [bind, Except.bind]
  | ok =>
    cases component? piece with
    | none => simp [bind, Except.bind, pure, Except.pure, eq_comm]
    | some c => cases c <;> simp [bind, Except.bind, pure, Except.pure, eq_comm]

theorem steps_append {place after : Place} {as bs : List String} :
    t.steps place (as ++ bs) = .ok after ↔
      ∃ between, t.steps place as = .ok between ∧ t.steps between bs = .ok after := by
  induction as generalizing place with
  | nil => simp [steps]
  | cons piece as ih =>
    rw [List.cons_append, steps, steps]
    cases t.step place piece with
    | error fault => simp [bind, Except.bind]
    | ok next => exact ih

theorem steps_singleton {place after : Place} {piece : String} :
    t.steps place [piece] = .ok after ↔ t.step place piece = .ok after := by
  rw [steps]
  cases t.step place piece with
  | error fault => simp [bind, Except.bind]
  | ok next => simp [bind, Except.bind, steps]

theorem steps_entry {place after : Place} {name : String} (hname : IsEntryName name) :
    t.steps place [name] = .ok after ↔ t.isDirectoryAt place = true ∧ after = place ++ [name] := by
  rw [steps_singleton, step_eq_ok_iff, hname.component?]

theorem steps_idle {place after : Place} :
    t.steps place [""] = .ok after ↔ t.isDirectoryAt place = true ∧ after = place :=
  steps_singleton.trans step_eq_ok_iff

end Steps

/-! ### Names of entries -/

variable {t : Tree} {directory name : String}

theorem locate_eq_ok_iff {place : Place} :
    t.locate name = .ok place ↔ name ≠ "" ∧
      t.steps (if Text.beginsWith name "/" then [] else t.workingDirectory) (pieces name) = .ok place := by
  rw [locate]
  by_cases h : name = ""
  · simp [h]
  · simp [h]

/-- The name of an entry leads to this entry of what the name of the directory leads to. -/
theorem locate_join_iff (hdirectory : directory ≠ "") (hname : IsEntryName name) {after : Place} :
    t.locate (join directory name) = .ok after ↔
      ∃ place, t.locate directory = .ok place ∧ t.isDirectoryAt place = true ∧ after = place ++ [name] := by
  obtain ⟨above, hpieces, hjoin⟩ := exists_pieces_join hdirectory hname
  simp only [locate_eq_ok_iff, join_ne_empty hname, hdirectory, beginsWith_join hdirectory hname, hjoin,
    ne_eq, not_false_eq_true, true_and, steps_append, steps_entry hname]
  rcases hpieces with h | h
  · rw [h]
  · simp only [h, steps_append, steps_idle]
    constructor
    · rintro ⟨place, habove, hplace, rfl⟩
      exact ⟨place, ⟨place, habove, hplace, rfl⟩, hplace, rfl⟩
    · rintro ⟨place, ⟨_, habove, -, rfl⟩, hplace, rfl⟩
      exact ⟨place, habove, hplace, rfl⟩

theorem locate_join {place : Place} (hlocate : t.locate directory = .ok place)
    (hplace : t.isDirectoryAt place = true) (hname : IsEntryName name) :
    t.locate (join directory name) = .ok (place ++ [name]) :=
  (locate_join_iff (locate_eq_ok_iff.1 hlocate).1 hname).2 ⟨place, hlocate, hplace, rfl⟩

/-- Where the name of an entry leads, the last step is the entry. -/
theorem exists_of_locate_join (hname : IsEntryName name) {after : Place}
    (h : t.locate (join directory name) = .ok after) : ∃ place, after = place ++ [name] := by
  by_cases hdirectory : directory = ""
  · have hjoin : join directory name = name := by
      rw [join, hdirectory, beq_self_eq_true, Bool.or_true, if_pos rfl]
    rw [hjoin, locate_eq_ok_iff, hname.pieces, steps_entry hname] at h
    exact ⟨_, h.2.2⟩
  · obtain ⟨place, -, -, hafter⟩ := (locate_join_iff hdirectory hname).1 h
    exact ⟨place, hafter⟩

/-- **The name of a file below a directory leads to the file.** -/
theorem Lawful.locate_foldl_join (ht : t.Lawful) {below : List String} {place : Place}
    (hlocate : t.locate directory = .ok place) (hbelow : place ++ below ∈ t.places) :
    t.locate (below.foldl join directory) = .ok (place ++ below) := by
  induction below generalizing directory place with
  | nil => rwa [List.append_nil]
  | cons name rest ih =>
    have hname : IsEntryName name :=
      ht.isEntryName_of_mem _ (List.mem_cons_of_mem _ hbelow) name (by simp)
    have hnext := locate_join hlocate (ht.isDirectoryAt hbelow) hname
    rw [List.append_cons] at hbelow ⊢
    exact ih hnext hbelow

end Tree

end SourceLint.Files
