import SourceLint.Proofs.Edit.OnePass
import SourceLint.Text.Blank

/-!
# Deletions that take the blanks after them along

* **`blanksFrom`** — the number of bytes of all the blanks that follow an offset.
* **`deletionWithBlanks`** — the deletion of a stretch together with the blanks after it.
* **`overlaps_deletionWithBlanks`** — two of them do not overlap if the stretches share no byte and
  neither is empty or begins with a blank: the blanks after one stretch stop where the other begins.
* **`utf8_splice_of_deletions`** — a pass of deletions leaves the bytes outside of them and no others.
-/

namespace SourceLint

open SourceLint.Text

/-! ### Runs of blanks -/

/-- The number of bytes of the blanks that follow the offset, up to the first other character. -/
def blanksFrom (text : List Char) (offset : Nat) : Nat :=
  byteLength ((dropBytes offset text).takeWhile isBlank)

theorem byteLength_sub_trimStart (cs : List Char) :
    byteLength cs - byteLength (trimStart cs) = byteLength (cs.takeWhile isBlank) := by
  have h : byteLength (cs.takeWhile isBlank ++ trimStart cs) = byteLength cs := by
    rw [trimStart, List.takeWhile_append_dropWhile]
  rw [byteLength_append] at h
  omega

/-- No blank is cut. -/
theorem isBoundary_add_blanksFrom {text : List Char} {offset : Nat}
    (h : isBoundary text offset = true) :
    isBoundary text (offset + blanksFrom text offset) = true := by
  obtain ⟨before, after, rfl, rfl⟩ := exists_append_of_isBoundary h
  rw [isBoundary_append_add, blanksFrom, dropBytes_append]
  have hsplit := isBoundary_append (after.takeWhile isBlank) (after.dropWhile isBlank)
  rwa [List.takeWhile_append_dropWhile] at hsplit

/-- A character that follows an offset in a run of blanks is blank. -/
theorem isBlank_head_dropBytes {cs : List Char} {n : Nat} (h : isBoundary cs n = true)
    (hn : n < byteLength (cs.takeWhile isBlank)) :
    ∃ c rest, dropBytes n cs = c :: rest ∧ isBlank c = true := by
  obtain ⟨before, after, rfl, rfl⟩ := exists_append_of_isBoundary h
  rw [dropBytes_append]
  induction before with
  | nil =>
    cases after with
    | nil => simp at hn
    | cons c rest =>
      refine ⟨c, rest, rfl, ?_⟩
      by_contra hc
      rw [List.nil_append, List.takeWhile_cons_of_neg hc] at hn
      simp at hn
  | cons b before ih =>
    by_cases hb : isBlank b = true
    · rw [List.cons_append, List.takeWhile_cons_of_pos hb, byteLength_cons, byteLength_cons] at hn
      exact ih (isBoundary_append before after) (by omega)
    · rw [List.cons_append, List.takeWhile_cons_of_neg hb] at hn
      simp at hn

/-- A run of blanks stops before a character that is not blank. -/
theorem add_blanksFrom_le {text : List Char} {offset place : Nat} {c : Char} {rest : List Char}
    (ho : isBoundary text offset = true) (hp : isBoundary text place = true) (hle : offset ≤ place)
    (hc : dropBytes place text = c :: rest) (hblank : isBlank c = false) :
    offset + blanksFrom text offset ≤ place := by
  obtain ⟨before, after, rfl, rfl⟩ := exists_append_of_isBoundary ho
  obtain ⟨k, rfl⟩ := Nat.exists_eq_add_of_le hle
  rw [isBoundary_append_add] at hp
  rw [dropBytes_append_add] at hc
  rw [blanksFrom, dropBytes_append]
  by_contra hlt
  obtain ⟨c', rest', hhead, hc'⟩ := isBlank_head_dropBytes hp (by omega)
  rw [hc] at hhead
  cases hhead
  rw [hblank] at hc'
  cases hc'

/-! ### Deletions -/

/-- The deletion of a stretch and of the blanks after it. -/
def deletionWithBlanks (text : List Char) (start stop : Nat) : Substitution :=
  .deletion start (stop + blanksFrom text stop)

theorem validate_deletionWithBlanks {text : List Char} {start stop : Nat}
    (hstart : isBoundary text start = true) (hstop : isBoundary text stop = true)
    (hle : start ≤ stop) : (deletionWithBlanks text start stop).validate text = .ok () := by
  rw [Substitution.validate_eq_ok_iff]
  exact ⟨Nat.le_add_right_of_le hle, hstart, isBoundary_add_blanksFrom hstop⟩

/-- A stretch that ends before another one begins does not reach it with the blanks that follow. -/
theorem overlaps_deletionWithBlanks {text : List Char} {start stop start' stop' : Nat} {c : Char}
    {rest : List Char} (hstop : isBoundary text stop = true)
    (hstart' : isBoundary text start' = true) (hlt : start < stop) (hle : stop ≤ start')
    (hc : dropBytes start' text = c :: rest) (hblank : isBlank c = false) :
    (deletionWithBlanks text start stop).overlaps (deletionWithBlanks text start' stop') = false := by
  have hreach := add_blanksFrom_le hstop hstart' hle hc hblank
  refine Substitution.overlaps_eq_false_iff.2 ⟨?_, .inr hreach⟩
  exact Nat.ne_of_lt (Nat.lt_of_lt_of_le hlt hle)

/-- A pass of deletions leaves the bytes outside of them. -/
theorem utf8_splice_of_deletions {text : List Char} {done : Nat} {subs : List Substitution}
    (h : Laid text done subs) (hs : ∀ s ∈ subs, s.replacement = "") :
    utf8 (splice text done subs) = outside subs done (utf8 (dropBytes done text)) := by
  induction subs generalizing done with
  | nil => rw [splice, outside_eq_self _ (by simp)]
  | cons s rest ih =>
    have hempty : s.replacement.toList = [] := by
      rw [hs s List.mem_cons_self]
      rfl
    rw [outside_cons_of_laid h, splice, hempty, List.append_nil, utf8_append,
      ih h.tail fun t ht => hs t (List.mem_cons_of_mem s ht)]

/-- Deletions that can be made together leave the bytes of the text outside of them. -/
theorem Compatible.utf8_splice {text : List Char} {subs : List Substitution}
    (h : Compatible text subs) (hs : ∀ s ∈ subs, s.replacement = "") :
    utf8 (splice text 0 (inTextOrder subs)) = untouched text subs := by
  have hperm := inTextOrder_perm subs
  rw [utf8_splice_of_deletions h.laid fun s hmem => hs s (hperm.mem_iff.1 hmem), untouched,
    dropBytes_zero, outside_perm hperm]

end SourceLint
