import SourceLint.Proofs.Data.Steps
import SourceLint.Proofs.Text.Boundary
import SourceLint.Source.SourceFile

/-!
# Offsets of positions

A position that no character has is moved to one that a character has.  So the offset of a position never
cuts a character, whatever the position.

* **`isBoundary_byteOffset`** — the offset of a position is a boundary of the text.
* **`SourceFile.exists_of_parseProgram`** — the file with a fixed text.
* **`SourceFile.stop_location`**, **`SourceFile.isBoundary_stop_location`** — where a location ends.
-/

namespace SourceLint

open SourceLint.Text

theorem dropMark_suffix (cs : List Char) : dropMark cs <:+ cs := by
  rw [dropMark]
  split
  · exact List.drop_suffix 1 cs
  · exact List.suffix_rfl

theorem fromLine?_suffix {n : Nat} {cs rest : List Char} (h : fromLine? n cs = some rest) :
    rest <:+ cs := by
  induction cs generalizing n with
  | nil =>
    cases n with
    | zero =>
      cases h
      exact List.suffix_rfl
    | succ n => cases h
  | cons c cs ih =>
    cases n with
    | zero =>
      cases h
      exact List.suffix_rfl
    | succ n =>
      rw [fromLine?] at h
      split at h
      · exact (ih h).trans (List.suffix_cons c cs)
      · exact (ih h).trans (List.suffix_cons c cs)

theorem linePart_prefix (column : Nat) (cs : List Char) : linePart column cs <+: cs :=
  (List.take_prefix _ _).trans (List.takeWhile_prefix _)

theorem isBoundary_markLength (cs : List Char) : isBoundary cs (markLength cs) = true := by
  obtain ⟨mark, hmark⟩ := dropMark_suffix cs
  have hlength := markLength_add_byteLength_dropMark cs
  have hbytes : markLength cs = byteLength mark := by
    rw [← hmark, byteLength_append, hmark] at hlength
    omega
  rw [hbytes, ← hmark]
  exact isBoundary_append mark (dropMark cs)

/-- **The offset of a position is a boundary of the text.** -/
theorem isBoundary_byteOffset (text : List Char) (p : Position) :
    isBoundary text (byteOffset text p) = true := by
  obtain ⟨line, column⟩ := p
  cases line with
  | zero => exact isBoundary_markLength text
  | succ line =>
    rw [byteOffset]
    cases h : fromLine? line (dropMark text) with
    | none => exact isBoundary_byteLength text
    | some rest =>
      -- the text is what precedes the line, the part of the line up to the column, and what follows
      obtain ⟨before, hbefore⟩ := (fromLine?_suffix h).trans (dropMark_suffix text)
      obtain ⟨after, hafter⟩ := linePart_prefix column rest
      have hoffset : byteLength text - byteLength rest + byteLength (linePart column rest) =
          byteLength (before ++ linePart column rest) := by
        rw [← hbefore, byteLength_append, byteLength_append]
        omega
      have htext : text = before ++ linePart column rest ++ after := by
        rw [List.append_assoc, hafter, hbefore]
      simp only [hoffset]
      rw [htext]
      exact isBoundary_append _ after

namespace SourceFile

open SourceLint.Syntax in
/-- A property of the tree of a fixed text can be decided by parsing the text. -/
theorem exists_of_parseProgram (text : List Char) (P : Node → Prop) [DecidablePred P]
    (h : ((parseProgram text).toOption.any fun tree => decide (P tree)) = true) :
    ∃ source : SourceFile, source.text = text ∧ P source.tree := by
  obtain ⟨tree, hparsed, htree⟩ := exists_of_any_toOption h
  exact ⟨⟨snippetPath, text, tree, hparsed⟩, rfl, of_decide_eq_true htree⟩

theorem isBoundary_offset (source : SourceFile) (p : Position) :
    isBoundary source.text (source.offset p) = true :=
  isBoundary_byteOffset source.text p

/-- A location ends at the offset of the end of its span, or where it begins if that comes later. -/
theorem stop_location (source : SourceFile) (s : Span) :
    (source.location s).stop = max (source.offset s.stop) (source.offset s.start) := by
  simp only [Location.stop, location]
  omega

theorem isBoundary_stop_location (source : SourceFile) (s : Span) :
    isBoundary source.text (source.location s).stop = true := by
  rw [stop_location]
  rcases Nat.le_total (source.offset s.stop) (source.offset s.start) with h | h
  · rw [Nat.max_eq_right h]
    exact source.isBoundary_offset s.start
  · rw [Nat.max_eq_left h]
    exact source.isBoundary_offset s.stop

end SourceFile

end SourceLint
