import SourceLint.Text.Blank

/-!
# Trimmed texts

Blanks at the ends of a text that is put together from others.  A character that is not blank stops the
trimming from either side.

* **`trimStart_append_cons`**, **`trimEnd_append_cons`** — what stands behind or before such a character
  stays; `trim_cons_append_cons` is about what stands between two of them.
* **`trim_padded`** — a word with blanks around it.
-/

namespace SourceLint.Text

theorem trimStart_append_of_blank {blanks : List Char} (h : ∀ c ∈ blanks, isBlank c = true)
    (cs : List Char) : trimStart (blanks ++ cs) = trimStart cs :=
  List.dropWhile_append_of_pos h

theorem trimStart_cons {c : Char} (hc : isBlank c = false) (cs : List Char) :
    trimStart (c :: cs) = c :: cs :=
  List.dropWhile_cons_of_neg (by rw [hc]; exact Bool.false_ne_true)

theorem trimStart_append_cons {c : Char} (hc : isBlank c = false) (as bs : List Char) :
    trimStart (as ++ c :: bs) = trimStart as ++ c :: bs := by
  rw [trimStart, List.dropWhile_append]
  split
  · rename_i hempty
    rw [trimStart, List.isEmpty_iff.1 hempty]
    exact trimStart_cons hc bs
  · rfl

theorem trimEnd_append_cons {c : Char} (hc : isBlank c = false) (as bs : List Char) :
    trimEnd (as ++ c :: bs) = as ++ c :: trimEnd bs := by
  have hreverse : (as ++ c :: bs).reverse = bs.reverse ++ c :: as.reverse := by simp
  have hstart := trimStart_append_cons hc bs.reverse as.reverse
  rw [trimStart, trimStart] at hstart
  rw [trimEnd, hreverse, hstart, trimEnd]
  simp

/-- Between two characters that are not blank nothing is trimmed. -/
theorem trim_cons_append_cons {c d : Char} (hc : isBlank c = false) (hd : isBlank d = false)
    (as bs : List Char) : trim (c :: (as ++ d :: bs)) = c :: (as ++ d :: trimEnd bs) := by
  rw [trim, trimStart_cons hc, ← List.cons_append, trimEnd_append_cons hd, List.cons_append]

theorem trim_append_of_blank {blanks : List Char} (h : ∀ c ∈ blanks, isBlank c = true)
    (cs : List Char) : trim (blanks ++ cs) = trim cs := by
  rw [trim, trimStart_append_of_blank h, trim]

theorem trim_space_cons (cs : List Char) : trim (' ' :: cs) = trim cs :=
  @trim_append_of_blank [' '] (List.forall_mem_singleton.2 rfl) cs

theorem trimEnd_append_of_blank {blanks : List Char} (h : ∀ c ∈ blanks, isBlank c = true)
    (cs : List Char) : trimEnd (cs ++ blanks) = trimEnd cs := by
  have hreverse : ∀ c ∈ blanks.reverse, isBlank c = true := fun c hc => h c (List.mem_reverse.1 hc)
  rw [trimEnd, trimEnd, List.reverse_append, List.dropWhile_append_of_pos hreverse]

theorem trimEnd_of_forall {cs : List Char} (h : ∀ c ∈ cs, isBlank c = false) : trimEnd cs = cs := by
  rw [trimEnd]
  cases hcs : cs.reverse with
  | nil => rw [List.reverse_eq_nil_iff.1 hcs]; rfl
  | cons c rest =>
    have hc : isBlank c = false := h c (List.mem_reverse.1 (hcs ▸ List.mem_cons_self))
    have hstart := trimStart_cons hc rest
    rw [trimStart] at hstart
    rw [hstart, ← hcs, List.reverse_reverse]

/-- A text that holds no blanks is all that is left of it between blanks. -/
theorem trim_padded {before word after : List Char} (hbefore : ∀ c ∈ before, isBlank c = true)
    (hword : ∀ c ∈ word, isBlank c = false) (hafter : ∀ c ∈ after, isBlank c = true) :
    trim (before ++ (word ++ after)) = word := by
  rw [trim, trimStart_append_of_blank hbefore]
  cases word with
  | nil =>
    have hnone := trimStart_append_of_blank hafter []
    rw [List.append_nil] at hnone
    rw [List.nil_append, hnone]
    rfl
  | cons c cs =>
    rw [List.cons_append, trimStart_cons (hword c List.mem_cons_self), ← List.cons_append,
      trimEnd_append_of_blank hafter, trimEnd_of_forall hword]

end SourceLint.Text
