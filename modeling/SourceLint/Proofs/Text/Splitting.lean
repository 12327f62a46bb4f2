import SourceLint.Text.Split

/-!
# Pieces of texts

The pieces between the occurrences of a mark, in a text that is put together from others.

* **`splitOn_append_cons`** — the pieces on both sides of a mark.
* **`splitOn_of_notMem`**, **`splitOn_cons_of_ne`** — characters that are no marks.
* **`splitOn_intercalate`** — pieces that were joined are found again.
* **`breakAt?_append`** — the first mark.
-/

namespace SourceLint.Text

/-- The pieces on both sides of a mark. -/
theorem splitOn_append_cons (mark : Char) (as bs : List Char) :
    splitOn mark (as ++ mark :: bs) = splitOn mark as ++ splitOn mark bs := by
  induction as with
  | nil =>
    cases h : splitOn mark bs with
    | nil => exact absurd h (splitOn_ne_nil mark bs)
    | cons piece pieces => simp [splitOn, h]
  | cons a as ih =>
    rw [List.cons_append, splitOn, ih, splitOn]
    cases h : splitOn mark as with
    | nil => exact absurd h (splitOn_ne_nil mark as)
    | cons piece pieces =>
      rw [List.cons_append]
      by_cases ha : a = mark
      · simp only [ha, if_true, List.cons_append]
      · simp only [ha, if_false, List.cons_append]

/-- A text without the mark is one piece. -/
theorem splitOn_of_notMem {mark : Char} {cs : List Char} (h : mark ∉ cs) : splitOn mark cs = [cs] := by
  induction cs with
  | nil => rfl
  | cons c cs ih =>
    rw [List.mem_cons, not_or] at h
    rw [splitOn, ih h.2]
    simp only [Ne.symm h.1, if_false]

theorem splitOn_cons_of_ne {mark c : Char} (hc : c ≠ mark) (cs : List Char) :
    ∃ piece pieces, splitOn mark cs = piece :: pieces ∧
      splitOn mark (c :: cs) = (c :: piece) :: pieces := by
  cases h : splitOn mark cs with
  | nil => exact absurd h (splitOn_ne_nil mark cs)
  | cons piece pieces =>
    refine ⟨piece, pieces, rfl, ?_⟩
    rw [splitOn, h]
    simp only [hc, if_false]

/-- Pieces without the mark are found again after they were joined by it. -/
theorem splitOn_intercalate {mark : Char} {pieces : List (List Char)} (hne : pieces ≠ [])
    (h : ∀ piece ∈ pieces, mark ∉ piece) : splitOn mark ([mark].intercalate pieces) = pieces := by
  induction pieces with
  | nil => exact absurd rfl hne
  | cons piece pieces ih =>
    obtain ⟨hpiece, hpieces⟩ := List.forall_mem_cons.1 h
    cases pieces with
    | nil =>
      rw [List.intercalate_singleton]
      exact splitOn_of_notMem hpiece
    | cons next pieces =>
      rw [List.intercalate_cons_cons, List.append_assoc, List.singleton_append, splitOn_append_cons,
        splitOn_of_notMem hpiece, ih (List.cons_ne_nil next pieces) hpieces]
      rfl

/-- A text is cut at the first mark in it. -/
theorem breakAt?_append {mark : Char} {before : List Char} (h : mark ∉ before) (after : List Char) :
    breakAt? mark (before ++ mark :: after) = some (before, after) := by
  induction before with
  | nil => exact if_pos rfl
  | cons c cs ih =>
    rw [List.mem_cons, not_or] at h
    rw [List.cons_append, breakAt?, if_neg (Ne.symm h.1), ih h.2]
    rfl

end SourceLint.Text
