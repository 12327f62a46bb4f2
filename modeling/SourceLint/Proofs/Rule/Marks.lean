import SourceLint.Proofs.Text.Boundary
import SourceLint.Rule.Description

/-!
# Marks in examples

The text of an example is its code without the marks.  The offset of a mark in that text is found in the
code: the mark is as many bytes further on there as the marks before it take up.  What is said here of
offsets is said of a text that goes on after some first part, since the induction leaves a first part behind.

* **`placesFrom`** — the offsets of the marks, counted in the text without them.
* **`zipIdx_markOffsetsFrom`** — how far each mark is further on in the code.
* **`markers_eq_placesFrom`** — the offsets that are computed are those counted in the text.
* **`foldr_insertMark_placesFrom`** — marks that are put back at their offsets, the last one first.
* **`marks_put_back`** — what is true of the offsets, for every code.
-/

namespace SourceLint.Example

open Text

/-- The characters of a code that are no marks. -/
def unmarked (cs : List Char) : List Char :=
  cs.filter (· != marker)

/-- The offsets of the marks in the text without them, which begins at the given offset. -/
def placesFrom (offset : Nat) : List Char → List Nat
  | [] => []
  | c :: cs =>
    if c = marker then offset :: placesFrom offset cs else placesFrom (offset + c.utf8Size) cs

/-- A text with a mark put in at an offset. -/
def insertMark (offset : Nat) (text : List Char) : List Char :=
  takeBytes offset text ++ marker :: dropBytes offset text

@[simp] theorem unmarked_marker_cons (cs : List Char) : unmarked (marker :: cs) = unmarked cs := by
  simp [unmarked]

theorem unmarked_cons_of_ne {c : Char} (h : c ≠ marker) (cs : List Char) :
    unmarked (c :: cs) = c :: unmarked cs := by
  simp [unmarked, h]

/-! ### Offsets in the code -/

/-- Each mark is further on in the code than in the text by what the marks before it take up.  The number
of marks that were seen before is arbitrary. -/
theorem zipIdx_markOffsetsFrom (offset seen : Nat) (cs : List Char) :
    (markOffsetsFrom (offset + seen * marker.utf8Size) cs).zipIdx seen =
      ((placesFrom offset cs).zipIdx seen).map fun m => (m.1 + m.2 * marker.utf8Size, m.2) := by
  induction cs generalizing offset seen with
  | nil => rfl
  | cons c cs ih =>
    by_cases hc : c = marker
    · have hnext : offset + seen * marker.utf8Size + c.utf8Size =
          offset + (seen + 1) * marker.utf8Size := by
        rw [hc, Nat.succ_mul, Nat.add_assoc]
      simp only [markOffsetsFrom, placesFrom, if_pos hc, List.zipIdx_cons, List.map_cons, hnext, ih]
    · have hnext : offset + seen * marker.utf8Size + c.utf8Size =
          offset + c.utf8Size + seen * marker.utf8Size := by
        omega
      simp only [markOffsetsFrom, placesFrom, if_neg hc, hnext, ih]

theorem zipIdx_markOffsets (e : Example) :
    e.markOffsets.zipIdx =
      (placesFrom 0 e.code.toList).zipIdx.map fun m => (m.1 + m.2 * marker.utf8Size, m.2) := by
  have h := zipIdx_markOffsetsFrom 0 0 e.code.toList
  rwa [Nat.zero_mul] at h

/-- The offset of a mark in the code is not less than what is taken off it. -/
theorem le_of_mem_zipIdx_markOffsets {e : Example} {m : Nat × Nat} (h : m ∈ e.markOffsets.zipIdx) :
    m.2 * marker.utf8Size ≤ m.1 := by
  rw [zipIdx_markOffsets] at h
  obtain ⟨place, _, rfl⟩ := List.mem_map.1 h
  exact Nat.le_add_left _ _

/-- The offsets that are computed are those counted in the text. -/
theorem markers_eq_placesFrom (e : Example) : e.markers = placesFrom 0 e.code.toList := by
  have hoffset : ∀ m : Nat × Nat, m.1 + m.2 * marker.utf8Size - m.2 * marker.utf8Size = m.1 :=
    fun _ => Nat.add_sub_cancel ..
  rw [markers, zipIdx_markOffsets, List.map_map]
  simp only [Function.comp_def, hoffset]
  exact List.zipIdx_map_fst 0 _

/-! ### Offsets in the text -/

theorem length_placesFrom (offset : Nat) (cs : List Char) :
    (placesFrom offset cs).length = cs.count marker := by
  induction cs generalizing offset with
  | nil => rfl
  | cons c cs ih =>
    rw [placesFrom]
    split
    · rename_i hc
      rw [List.length_cons, ih, hc, List.count_cons_self]
    · rename_i hc
      rw [ih, List.count_cons_of_ne hc]

theorem le_of_mem_placesFrom {offset place : Nat} {cs : List Char} (h : place ∈ placesFrom offset cs) :
    offset ≤ place := by
  induction cs generalizing offset with
  | nil => cases h
  | cons c cs ih =>
    rw [placesFrom] at h
    split at h
    · rcases List.mem_cons.1 h with rfl | h
      · exact Nat.le_refl place
      · exact ih h
    · exact Nat.le_trans (Nat.le_add_right _ _) (ih h)

theorem pairwise_placesFrom (offset : Nat) (cs : List Char) :
    (placesFrom offset cs).Pairwise (· ≤ ·) := by
  induction cs generalizing offset with
  | nil => exact List.Pairwise.nil
  | cons c cs ih =>
    rw [placesFrom]
    split
    · exact List.pairwise_cons.2 ⟨fun _ h => le_of_mem_placesFrom h, ih offset⟩
    · exact ih _

theorem pairwise_markers (e : Example) : e.markers.Pairwise (· ≤ ·) := by
  rw [markers_eq_placesFrom]
  exact pairwise_placesFrom 0 _

/-- No mark stands within a character. -/
theorem isBoundary_of_mem_placesFrom {before cs : List Char} {place : Nat}
    (h : place ∈ placesFrom (byteLength before) cs) :
    isBoundary (before ++ unmarked cs) place = true := by
  induction cs generalizing before with
  | nil => cases h
  | cons c cs ih =>
    rw [placesFrom] at h
    split at h
    · rename_i hc
      rw [hc, unmarked_marker_cons]
      rcases List.mem_cons.1 h with rfl | h
      · exact isBoundary_append before _
      · exact ih h
    · rename_i hc
      have hlength : byteLength before + c.utf8Size = byteLength (before ++ [c]) := by simp
      rw [hlength] at h
      rw [unmarked_cons_of_ne hc, List.append_cons]
      exact ih h

/-- Marks that are put back at their offsets, the last one first, stand where they stood. -/
theorem foldr_insertMark_placesFrom (before cs : List Char) :
    (placesFrom (byteLength before) cs).foldr insertMark (before ++ unmarked cs) = before ++ cs := by
  induction cs generalizing before with
  | nil => rfl
  | cons c cs ih =>
    rw [placesFrom]
    split
    · rename_i hc
      rw [List.foldr_cons, hc, unmarked_marker_cons, ih, insertMark, takeBytes_append, dropBytes_append]
    · rename_i hc
      have hlength : byteLength before + c.utf8Size = byteLength (before ++ [c]) := by simp
      rw [hlength, unmarked_cons_of_ne hc, List.append_cons, ih, ← List.append_cons]

/-- **Marks are taken out without loss.**  The text of an example has no mark.  There is an offset for every
mark of the code, in ascending order, each at a boundary of the text, and none of them is computed by taking
off more than there is.  Marks that are put into the text at these offsets, the last one first, give the code
back. -/
theorem marks_put_back (e : Example) :
    marker ∉ e.text ∧
      e.markers.length = e.code.toList.count marker ∧
      e.markers.Pairwise (· ≤ ·) ∧
      (∀ offset ∈ e.markers, isBoundary e.text offset = true ∧ offset ≤ byteLength e.text) ∧
      (∀ m ∈ e.markOffsets.zipIdx, m.2 * marker.utf8Size ≤ m.1) ∧
      e.markers.foldr insertMark e.text = e.code.toList := by
  have hboundary : ∀ offset ∈ e.markers, isBoundary e.text offset = true := by
    intro offset h
    rw [markers_eq_placesFrom] at h
    exact @isBoundary_of_mem_placesFrom [] _ _ h
  refine ⟨?_, ?_, e.pairwise_markers, fun offset h => ⟨hboundary offset h, ?_⟩,
    fun m h => le_of_mem_zipIdx_markOffsets h, ?_⟩
  · simp [text]
  · rw [markers_eq_placesFrom, length_placesFrom]
  · exact le_byteLength_of_isBoundary (hboundary offset h)
  · rw [markers_eq_placesFrom]
    exact foldr_insertMark_placesFrom [] e.code.toList

/-- Two marks at one place, and one after a character of two bytes. -/
example : markers ⟨"a↓↓é↓"⟩ = [1, 1, 3] := by decide

end SourceLint.Example
