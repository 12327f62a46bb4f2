import Mathlib.Data.List.Nodup
import SourceLint.Files.Discovery
import SourceLint.Proofs.Files.Rewriting
import SourceLint.Proofs.Report.Stability

/-!
# What a search finds

A search begins in a directory and finds files below it by their endings.  Whether it finds a file depends
on where files are and on the contents of lists, and lists have no such endings.

* **`PathName.order`** is a total preorder, under which names are equivalent if they have the same steps.
* **`Search.nameAt?`** — the name under which a search finds the file at a place.
* **`Search.pairwise_found`**, **`exists_of_mem_found`** — the names are in strict order, and lead to files;
  **`isText_of_mem_found`** says when they are texts.
* **`Tree.RewrittenAt.found`** — files with the ending can be rewritten without the search noticing.
-/

namespace SourceLint.Files

/-! ### Names in order -/

namespace PathName

theorem order_ne_gt_iff {a b : String} :
    (order a b != .gt) = true ↔ (compare (components a) (components b)).isLE = true := by
  rw [order]
  cases compare (components a) (components b) <;> decide

theorem order_eq_lt {a b : String} (hle : (order a b != .gt) = true) (hne : components a ≠ components b) :
    order a b = .lt := by
  cases horder : order a b with
  | lt => rfl
  | eq => exact absurd (Std.LawfulEqOrd.eq_of_compare horder) hne
  | gt =>
    rw [horder] at hle
    cases hle

/-- Sorted names with different steps are in strict order. -/
theorem pairwise_mergeSort {names : List String} (h : (names.map components).Nodup) :
    (names.mergeSort fun a b => order a b != .gt).Pairwise fun a b => order a b = .lt := by
  have htrans (a b c : String) (hab : (order a b != .gt) = true) (hbc : (order b c != .gt) = true) :
      (order a c != .gt) = true := by
    rw [order_ne_gt_iff] at hab hbc ⊢
    exact Std.TransCmp.isLE_trans hab hbc
  have htotal (a b : String) : ((order a b != .gt) || (order b a != .gt)) = true := by
    have hswap : compare (components b) (components a) =
        (compare (components a) (components b)).swap := Std.OrientedCmp.eq_swap
    rw [Bool.or_eq_true, order_ne_gt_iff, order_ne_gt_iff, hswap]
    cases compare (components a) (components b) <;> decide
  have hnodup : ((names.mergeSort fun a b => order a b != .gt).map components).Nodup :=
    ((List.mergeSort_perm names _).map components).nodup_iff.2 h
  exact (List.pairwise_mergeSort htrans htotal names).imp₂ (fun _ _ hle hne => order_eq_lt hle hne)
    (List.pairwise_map.1 hnodup)

end PathName

/-- The last step to the place has an ending. -/
def HasEnding (extension : String) (place : Place) : Prop :=
  ∃ last, place.getLast? = some last ∧ Text.endsIn last ("." ++ extension) = true

theorem hasEnding_append {extension name : String} {place : Place} :
    HasEnding extension (place ++ [name]) ↔ Text.endsIn name ("." ++ extension) = true := by
  simp [HasEnding]

/-! ### Names that are found -/

namespace Search

/-- The name under which the search finds the file at a place, if it does. -/
def nameAt? (s : Search) (extension : String) (place : Place) : Option String := do
  let steps ← s.stepsTo? place
  let name := s.nameOf steps
  if PathName.hasExtension name extension && s.isReached steps then some name else none

theorem found_eq (s : Search) (extension : String) :
    s.found extension = (s.tree.places.filterMap (s.nameAt? extension)).mergeSort
      fun a b => PathName.order a b != .gt := by
  rw [Tree.places, List.filterMap_map]
  rfl

theorem exists_of_nameAt? {s : Search} {extension : String} {place : Place} {name : String}
    (h : s.nameAt? extension place = some name) :
    ∃ steps, place = s.place ++ steps ∧ name = s.nameOf steps ∧
      PathName.hasExtension name extension = true := by
  rw [nameAt?, Option.bind_eq_bind, Option.bind_eq_some_iff] at h
  obtain ⟨steps, hsteps, hname⟩ := h
  rw [stepsTo?] at hsteps
  split at hsteps
  · rename_i hprefix
    obtain ⟨rest, rfl⟩ := List.isPrefixOf_iff_prefix.1 hprefix
    rw [List.drop_left, Option.some.injEq] at hsteps
    subst hsteps
    dsimp only at hname
    split at hname
    · rename_i hfound
      cases hname
      exact ⟨rest, rfl, rfl, (Bool.and_eq_true_iff.1 hfound).1⟩
    · cases hname
  · cases hsteps

section Lawful

variable {s : Search} {extension : String} (ht : s.tree.Lawful)
  (hlocate : s.tree.locate s.root = .ok s.place)

include ht hlocate

/-- The steps of a name that is found, and where it leads. -/
theorem spec_of_nameAt? {place : Place} {name : String} (hplace : place ∈ s.tree.places)
    (h : s.nameAt? extension place = some name) :
    ∃ steps, place = s.place ++ steps ∧ s.tree.locate name = .ok place ∧
      PathName.components name = PathName.components s.root ++ steps.map .entry ∧
      PathName.hasExtension name extension = true := by
  obtain ⟨steps, rfl, rfl, hextension⟩ := exists_of_nameAt? h
  have hnames : ∀ name ∈ steps, PathName.IsEntryName name := fun name hname =>
    ht.isEntryName_of_mem _ (List.mem_cons_of_mem _ hplace) name (List.mem_append_right _ hname)
  exact ⟨steps, rfl, ht.locate_foldl_join hlocate hplace,
    PathName.components_foldl_join (Tree.locate_eq_ok_iff.1 hlocate).1 hnames, hextension⟩

theorem spec_of_mem_found {name : String} (h : name ∈ s.found extension) :
    ∃ steps, s.place ++ steps ∈ s.tree.places ∧ s.tree.locate name = .ok (s.place ++ steps) ∧
      PathName.components name = PathName.components s.root ++ steps.map .entry ∧
      PathName.hasExtension name extension = true := by
  rw [found_eq, List.mem_mergeSort, List.mem_filterMap] at h
  obtain ⟨place, hplace, hname⟩ := h
  obtain ⟨steps, rfl, hspec⟩ := spec_of_nameAt? ht hlocate hplace hname
  exact ⟨steps, hplace, hspec⟩

/-- **The names that a search finds are in strict order.** -/
theorem pairwise_found : (s.found extension).Pairwise fun a b => PathName.order a b = .lt := by
  rw [found_eq]
  apply PathName.pairwise_mergeSort
  rw [List.Nodup, List.pairwise_map, List.pairwise_filterMap]
  refine List.Pairwise.imp_of_mem ?_ ht.nodup_places
  intro place other hplace hother hne name hname otherName hotherName heq
  obtain ⟨steps, rfl, -, hsteps, -⟩ := spec_of_nameAt? ht hlocate hplace hname
  obtain ⟨otherSteps, rfl, -, hotherSteps, -⟩ := spec_of_nameAt? ht hlocate hother hotherName
  rw [hsteps, hotherSteps, List.append_cancel_left_eq] at heq
  have hinjective : Function.Injective Component.entry := fun _ _ h => Component.entry.inj h
  exact hne (congrArg (s.place ++ ·) (List.map_injective_iff.2 hinjective heq))

/-- The names lead to different files, since the place of a file below the directory gives the steps of its
name. -/
theorem pairwise_locate_found :
    (s.found extension).Pairwise fun a b => s.tree.locate a ≠ s.tree.locate b := by
  refine (pairwise_found ht hlocate).imp_of_mem fun {a b} ha hb hlt hsame => ?_
  obtain ⟨steps, -, hleads, hcomponents, -⟩ := spec_of_mem_found ht hlocate ha
  obtain ⟨otherSteps, -, hotherLeads, hotherComponents, -⟩ := spec_of_mem_found ht hlocate hb
  rw [hleads, hotherLeads, Except.ok.injEq, List.append_cancel_left_eq] at hsame
  have heq : PathName.order a b = .eq := by
    rw [PathName.order, hcomponents, hotherComponents, hsame]
    exact Std.ReflOrd.compare_self
  rw [heq] at hlt
  cases hlt

/-- What is found is a file with the ending. -/
theorem exists_of_mem_found (hdirectory : s.tree.isDirectoryAt s.place = true) {name : String}
    (h : name ∈ s.found extension) :
    ∃ place ∈ s.tree.places, s.tree.locate name = .ok place ∧ HasEnding extension place := by
  obtain ⟨steps, hplace, hleads, hcomponents, hextension⟩ := spec_of_mem_found ht hlocate h
  refine ⟨_, hplace, hleads, ?_⟩
  rw [PathName.hasExtension, hcomponents] at hextension
  rcases List.eq_nil_or_concat steps with rfl | ⟨above, last, rfl⟩
  · rw [List.append_nil] at hplace
    exact absurd hplace (Tree.isDirectoryAt_iff.1 hdirectory).1
  · rw [List.concat_eq_append, ← List.append_assoc, hasEnding_append]
    rw [List.concat_eq_append, List.map_append, List.map_singleton, ← List.append_assoc,
      List.getLast?_concat] at hextension
    exact (Bool.and_eq_true_iff.1 hextension).1

end Lawful

end Search

/-! ### Rewriting what is found -/

namespace Tree.RewrittenAt

variable {t t' : Tree} (h : RewrittenAt (HasEnding "rs") t t')

include h

theorem content?_append (place : Place) (name : String) (hname : Text.endsIn name ".rs" = false) :
    t'.content? (place ++ [name]) = t.content? (place ++ [name]) := by
  refine h.content? _ fun hending => ?_
  rw [hasEnding_append] at hending
  cases hname.symm.trans hending

theorem listIn (directory : String) (place : Place) (name : String)
    (hname : Text.endsIn name ".rs" = false) :
    t'.listIn directory (place ++ [name]) = t.listIn directory (place ++ [name]) := by
  rw [Tree.listIn, Tree.listIn, h.content?_append place name hname]

theorem isRepository (place : Place) : t'.isRepository place = t.isRepository place := by
  rw [Tree.isRepository, Tree.isRepository, h.existsAt, h.existsAt]

theorem repositoryPlace (place : Place) : t'.repositoryPlace place = t.repositoryPlace place := by
  have hcommon {directory : String} {file : Place}
      (hfile : (t.locate (PathName.join directory "commondir")).toOption = some file) :
      t'.content? file = t.content? file := by
    cases hlocate : t.locate (PathName.join directory "commondir") with
    | error fault =>
      rw [hlocate] at hfile
      cases hfile
    | ok place =>
      rw [hlocate] at hfile
      cases hfile
      obtain ⟨above, rfl⟩ := exists_of_locate_join (by decide) hlocate
      exact h.content?_append above "commondir" (by decide)
  simp only [Tree.repositoryPlace, h.isFileAt, h.content?_append place ".git" (by decide), h.locate]
  congr 2
  refine bind_congr fun content => bind_congr fun line => bind_congr fun target => ?_
  refine Option.bind_congr fun file hfile => ?_
  rw [hcommon hfile]

theorem level (respectsShared isRepository : Bool) (place : Place) (directory name : String) :
    t'.level respectsShared isRepository place directory name =
      t.level respectsShared isRepository place directory name := by
  have hexclude : ∀ above : Place, above ++ ["info", "exclude"] = (above ++ ["info"]) ++ ["exclude"] :=
    fun above => List.append_cons above "info" ["exclude"]
  simp only [Tree.level, h.repositoryPlace, hexclude, h.listIn directory _ ".ignore" (by decide),
    h.listIn directory _ ".gitignore" (by decide),
    h.listIn directory _ "exclude" (by decide)]

/-- **Files with the ending can be rewritten without the search noticing.** -/
theorem filesBelow (root : String) (place : Place) (excluded : IgnoreList) (respectsShared : Bool) :
    filesBelow t' root place excluded respectsShared "rs" =
      filesBelow t root place excluded respectsShared "rs" := by
  have hname : Search.nameAt? ⟨t', root, place, excluded, respectsShared⟩ "rs" =
      Search.nameAt? ⟨t, root, place, excluded, respectsShared⟩ "rs" := by
    funext file
    simp only [Search.nameAt?, Search.isReached, Search.isLeftOut, Search.innerLevels, Search.outerLevels,
      h.level, h.isRepository]
    rfl
  rw [Files.filesBelow, Files.filesBelow, Search.found_eq, Search.found_eq, hname, h.places]

end Tree.RewrittenAt

end SourceLint.Files
