import SourceLint.Proofs.Data.Steps
import SourceLint.Proofs.Files.Ways

/-!
# Files that are rewritten

Writing to files that are there changes their contents and nothing else: names lead where they led before,
and other files can be read as before.

* **`Tree.RewrittenAt`** — the trees differ in the contents of some files only.
* **`Tree.RewrittenAt.locate`**, **`read`**, **`lawful`** — what does not depend on these contents.
* **`Tree.rewrittenAt_put`** — writing to a file rewrites this file.
-/

namespace SourceLint.Files.Tree

/-- One tree is the other one with other contents of files at places that satisfy the condition. -/
structure RewrittenAt (p : Place → Prop) (t t' : Tree) : Prop where
  directories : t'.directories = t.directories
  workingDirectory : t'.workingDirectory = t.workingDirectory
  places : t'.places = t.places
  content? : ∀ place, ¬ p place → t'.content? place = t.content? place

namespace RewrittenAt

theorem refl (p : Place → Prop) (t : Tree) : RewrittenAt p t t :=
  ⟨rfl, rfl, rfl, fun _ _ => rfl⟩

theorem mono {p q : Place → Prop} {t t' : Tree} (h : RewrittenAt p t t') (hpq : ∀ place, p place → q place) :
    RewrittenAt q t t' :=
  ⟨h.directories, h.workingDirectory, h.places, fun place hplace =>
    h.content? place fun hp => hplace (hpq place hp)⟩

theorem trans {p : Place → Prop} {t t' t'' : Tree} (h : RewrittenAt p t t') (h' : RewrittenAt p t' t'') :
    RewrittenAt p t t'' :=
  ⟨h'.directories.trans h.directories, h'.workingDirectory.trans h.workingDirectory,
    h'.places.trans h.places, fun place hplace =>
      (h'.content? place hplace).trans (h.content? place hplace)⟩

variable {p : Place → Prop} {t t' : Tree} (h : RewrittenAt p t t')

include h

/-! ### What is where -/

theorem isFileAt (place : Place) : t'.isFileAt place = t.isFileAt place := by
  rw [Bool.eq_iff_iff, isFileAt_iff, isFileAt_iff, h.places]

theorem isDirectoryAt (place : Place) : t'.isDirectoryAt place = t.isDirectoryAt place := by
  rw [Bool.eq_iff_iff, isDirectoryAt_iff, isDirectoryAt_iff, h.places, h.directories, h.workingDirectory]

theorem existsAt (place : Place) : t'.existsAt place = t.existsAt place := by
  rw [Tree.existsAt, Tree.existsAt, h.isFileAt, h.isDirectoryAt]

theorem lawful (ht : t.Lawful) : t'.Lawful where
  nodup_places := h.places ▸ ht.nodup_places
  isEntryName_of_mem := by
    rw [h.workingDirectory, h.places]
    exact ht.isEntryName_of_mem
  eq_of_prefix := h.places ▸ ht.eq_of_prefix
  not_prefix_workingDirectory := by
    rw [h.workingDirectory, h.places]
    exact ht.not_prefix_workingDirectory

/-! ### Where names lead -/

theorem step (place : Place) (piece : String) : t'.step place piece = t.step place piece := by
  rw [Tree.step, Tree.step, checkDirectory, checkDirectory, h.isFileAt, h.isDirectoryAt]

theorem steps (place : Place) (pieces : List String) : t'.steps place pieces = t.steps place pieces := by
  induction pieces generalizing place with
  | nil => rfl
  | cons piece pieces ih =>
    rw [Tree.steps, Tree.steps, h.step]
    exact bind_congr ih

/-- Names lead where they led before. -/
theorem locate (name : String) : t'.locate name = t.locate name := by
  simp only [Tree.locate, h.workingDirectory, h.steps]

theorem isFile (name : String) : t'.isFile name = t.isFile name := by
  simp only [Tree.isFile, leadsTo, h.locate, h.isFileAt]

theorem hasEntry (name : String) : t'.hasEntry name = t.hasEntry name := by
  simp only [Tree.hasEntry, leadsTo, h.locate, h.existsAt]

/-- Other files can be read as before. -/
theorem read {name : String} (hname : ∀ place, t.locate name = .ok place → ¬ p place) :
    t'.read name = t.read name := by
  rw [Tree.read, Tree.read, h.locate]
  cases hlocate : t.locate name with
  | error fault => rfl
  | ok place =>
    simp only [bind, Except.bind, h.content? place (hname place hlocate), h.isDirectoryAt]

end RewrittenAt

/-! ### Reading and writing -/

theorem read_eq_ok_iff {t : Tree} {name : String} {text : List Char} :
    t.read name = .ok text ↔ ∃ place, t.locate name = .ok place ∧ t.content? place = some (.text text) := by
  rw [read]
  constructor
  · intro h
    obtain ⟨place, hlocate, h⟩ := exists_of_bind_ok h
    split at h
    · cases h
      exact ⟨place, hlocate, ‹_›⟩
    · cases h
    · cases h
  · rintro ⟨place, hlocate, hcontent⟩
    simp only [hlocate, bind, Except.bind, hcontent]
    rfl

theorem write_eq_ok_iff {t t' : Tree} {name : String} {text : List Char} :
    t.write name text = .ok t' ↔
      ∃ place, t.locate name = .ok place ∧ t.isDirectoryAt place = false ∧ t' = t.put place (.text text) := by
  rw [write]
  constructor
  · intro h
    obtain ⟨place, hlocate, h⟩ := exists_of_bind_ok h
    split at h
    · cases h
    · rename_i hplace
      cases h
      exact ⟨place, hlocate, Bool.eq_false_iff.2 hplace, rfl⟩
  · rintro ⟨place, hlocate, hplace, rfl⟩
    simp only [hlocate, bind, Except.bind, hplace]
    rfl

theorem places_put (t : Tree) (place : Place) (content : Content) :
    (t.put place content).places = if place ∈ t.places then t.places else t.places ++ [place] := by
  rw [put, places, places]
  induction t.files with
  | nil => rfl
  | cons f rest ih =>
    obtain ⟨other, _⟩ := f
    rw [putFile]
    by_cases hplace : other = place
    · simp [hplace]
    · simp only [hplace, if_false, List.map_cons, List.mem_cons, Ne.symm hplace, false_or, ih]
      split <;> rfl

/-- **Writing to a file that is there rewrites this file.** -/
theorem rewrittenAt_put {t : Tree} {place : Place} (hplace : place ∈ t.places) (content : Content) :
    RewrittenAt (· = place) t (t.put place content) where
  directories := rfl
  workingDirectory := rfl
  places := by rw [places_put, if_pos hplace]
  content? := fun _ hother => content?_put_of_ne hother t content

/-- A file that can be read can be written: the text is there then, and no other file is rewritten. -/
theorem exists_write {t : Tree} {name : String} {text : List Char} (hread : t.read name = .ok text)
    (newText : List Char) :
    ∃ t', t.write name newText = .ok t' ∧ RewrittenAt (fun place => t.locate name = .ok place) t t' ∧
      t'.read name = .ok newText := by
  obtain ⟨place, hlocate, hcontent⟩ := read_eq_ok_iff.1 hread
  have hplace : place ∈ t.places := by
    rw [← isFileAt_iff, Tree.isFileAt, hcontent]
    rfl
  have hfile : t.isDirectoryAt place = false := by
    rw [Bool.eq_false_iff]
    exact fun hdirectory => (isDirectoryAt_iff.1 hdirectory).1 hplace
  have hput := rewrittenAt_put hplace (.text newText)
  refine ⟨t.put place (.text newText), write_eq_ok_iff.2 ⟨place, hlocate, hfile, rfl⟩,
    hput.mono fun _ h => h ▸ hlocate, read_eq_ok_iff.2 ⟨place, ?_, content?_put_self ..⟩⟩
  rw [hput.locate, hlocate]

/-- A file can be put where names begin, unless there is a directory. -/
theorem Lawful.put {t : Tree} (ht : t.Lawful) {name : String} (hname : PathName.IsEntryName name)
    (hdirectory : t.isDirectoryAt (t.workingDirectory ++ [name]) = false) (content : Content) :
    (t.put (t.workingDirectory ++ [name]) content).Lawful := by
  by_cases hplace : t.workingDirectory ++ [name] ∈ t.places
  · exact (rewrittenAt_put hplace content).lawful ht
  · obtain ⟨place, hnew⟩ : ∃ place, place = t.workingDirectory ++ [name] := ⟨_, rfl⟩
    rw [← hnew] at hdirectory hplace ⊢
    have hplaces : (t.put place content).places = t.places ++ [place] := by
      rw [places_put, if_neg hplace]
    have hnotAbove : ∀ file ∈ t.places, ¬ place <+: file := by
      intro file hfile habove
      have habove' := isDirectoryAt_iff.2 ⟨hplace, file, List.mem_append_right _ hfile, habove⟩
      rw [hdirectory] at habove'
      cases habove'
    have hnotBelow : ∀ file ∈ t.places, ¬ file <+: place := by
      intro file hfile hbelow
      rw [hnew, List.prefix_concat_iff, ← hnew] at hbelow
      rcases hbelow with rfl | hbelow
      · exact hplace hfile
      · exact ht.not_prefix_workingDirectory file hfile hbelow
    have hnames : ∀ step ∈ place, PathName.IsEntryName step := by
      rw [hnew, List.forall_mem_append]
      exact ⟨ht.isEntryName_of_mem _ List.mem_cons_self, fun step hstep => List.mem_singleton.1 hstep ▸ hname⟩
    have hlonger : ¬ place <+: t.workingDirectory := by
      intro hprefix
      have hlength := hprefix.length_le
      rw [hnew, List.length_append, List.length_singleton] at hlength
      omega
    constructor
    · rw [hplaces]
      refine List.nodup_append.2 ⟨ht.nodup_places, List.pairwise_singleton _ _, fun file hfile other hother => ?_⟩
      rintro rfl
      exact hplace (List.mem_singleton.1 hother ▸ hfile)
    · rw [hplaces, ← List.cons_append, List.forall_mem_append]
      exact ⟨ht.isEntryName_of_mem, fun file hfile => List.mem_singleton.1 hfile ▸ hnames⟩
    · rw [hplaces]
      intro file hfile other hother hprefix
      rcases List.mem_append.1 hfile with hfile | hfile
      · rcases List.mem_append.1 hother with hother | hother
        · exact ht.eq_of_prefix file hfile other hother hprefix
        · exact absurd (List.mem_singleton.1 hother ▸ hprefix) (hnotBelow file hfile)
      · rcases List.mem_append.1 hother with hother | hother
        · exact absurd (List.mem_singleton.1 hfile ▸ hprefix) (hnotAbove other hother)
        · rw [List.mem_singleton.1 hfile, List.mem_singleton.1 hother]
    · rw [hplaces, List.forall_mem_append]
      exact ⟨ht.not_prefix_workingDirectory, fun file hfile => List.mem_singleton.1 hfile ▸ hlonger⟩

end SourceLint.Files.Tree
