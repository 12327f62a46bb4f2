import SourceLint.Command.Check
import SourceLint.Proofs.Files.Found

/-!
# The files of a check

A check is about the file that is named, or about the files with the ending below the directory that is
named.

* **`Files.Tree.LedToBy`** — where some names lead.
* **`discover_spec`** — the files are in strict order, and the names lead to different files.
* **`isText_of_discover`** — where names are texts, theirs are.
* **`discover_rewritten`** — they are the same after they were rewritten.
-/

namespace SourceLint

open SourceLint.Files

/-- One of the names leads to the place. -/
def Files.Tree.LedToBy (t : Tree) (names : List String) (place : Place) : Prop :=
  ∃ name ∈ names, t.locate name = .ok place

/-- A name of a file leads to it. -/
theorem Files.Tree.isFile_iff {t : Tree} {name : String} :
    t.isFile name = true ↔ ∃ place ∈ t.places, t.locate name = .ok place := by
  rw [isFile, leadsTo]
  cases t.locate name with
  | error fault => simp
  | ok place => simp [isFileAt_iff]

section Discover

variable {t : Tree} {root : String} {selection : FileSelection} {exclude files : List String}

/-- What a check is about: the file that is named, nothing, or what a search finds below the directory that
is named. -/
theorem discover_cases (h : discover t root selection exclude = .ok files) :
    t.isFile root = true ∧ files = [root] ∨ files = [] ∨
      ∃ place excluded, t.locate root = .ok place ∧ t.isDirectoryAt place = true ∧
        files = filesBelow t root place excluded selection.respectsIgnoreFiles "rs" := by
  rw [discover] at h
  split at h
  · rename_i hfile
    cases h
    exact .inl ⟨hfile, rfl⟩
  · split at h
    · cases h
    · rename_i excluded _
      split at h
      · cases h
        exact .inr (.inl rfl)
      · split at h
        · cases h
        · rename_i place hlocate
          split at h
          · rename_i hplace
            cases h
            exact .inr (.inr ⟨place, excluded, hlocate, hplace, rfl⟩)
          · cases h

/-- **The files of a check are in strict order**, and their names lead to different files. -/
theorem discover_spec (ht : t.Lawful) (h : discover t root selection exclude = .ok files) :
    files.Pairwise (fun a b => PathName.order a b = .lt) ∧
      files.Pairwise (fun a b => t.locate a ≠ t.locate b) ∧
      ∀ name ∈ files, ∃ place ∈ t.places, t.locate name = .ok place := by
  rcases discover_cases h with ⟨hfile, rfl⟩ | rfl | ⟨place, excluded, hlocate, hplace, rfl⟩
  · refine ⟨List.pairwise_singleton _ _, List.pairwise_singleton _ _, fun name hname => ?_⟩
    cases List.mem_singleton.1 hname
    exact Tree.isFile_iff.1 hfile
  · exact ⟨.nil, .nil, fun name hname => absurd hname List.not_mem_nil⟩
  · set s : Search := ⟨t, root, place, excluded, selection.respectsIgnoreFiles⟩
    refine ⟨s.pairwise_found ht hlocate, s.pairwise_locate_found ht hlocate, fun name hname => ?_⟩
    obtain ⟨file, hfile, hleads, -⟩ := s.exists_of_mem_found ht hlocate hplace hname
    exact ⟨file, hfile, hleads⟩

/-- Files with the ending can be rewritten without the check noticing. -/
theorem discover_eq_of_rewrittenAt {t' : Tree} (h' : Tree.RewrittenAt (HasEnding "rs") t t') :
    discover t' root selection exclude = discover t root selection exclude := by
  simp only [discover, h'.isFile, h'.locate, h'.isDirectoryAt, h'.filesBelow]

/-- **Rewriting the files of a check does not change which files these are.** -/
theorem discover_rewritten (ht : t.Lawful) (h : discover t root selection exclude = .ok files) {t' : Tree}
    (h' : Tree.RewrittenAt (t.LedToBy files) t t') : discover t' root selection exclude = .ok files := by
  rcases discover_cases h with ⟨hfile, rfl⟩ | rfl | ⟨place, excluded, hlocate, hplace, rfl⟩
  · rw [discover, h'.isFile, if_pos hfile]
  · rw [← h]
    refine discover_eq_of_rewrittenAt (h'.mono fun place hled => ?_)
    obtain ⟨name, hname, -⟩ := hled
    exact absurd hname List.not_mem_nil
  · rw [← h]
    refine discover_eq_of_rewrittenAt (h'.mono fun file hled => ?_)
    obtain ⟨name, hname, hleads⟩ := hled
    obtain ⟨found, -, hfound, hending⟩ := Search.exists_of_mem_found ht hlocate hplace hname
    cases hleads.symm.trans hfound
    exact hending

end Discover

end SourceLint
