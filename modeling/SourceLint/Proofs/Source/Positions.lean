import Mathlib.Data.List.DropRight
import SourceLint.Proofs.Edit.Compatible
import SourceLint.Proofs.Source.Offset

/-!
# Positions and the offsets they stand for

A place in a text is known by its line and column, by the characters before it, and by the bytes before
it.  The offset of a position finds the way back from the first to the last, on whatever line the place is
and however wide the characters before it are, and it keeps the order of places.

* **`Position.behind`** — the position of the place that some characters precede;
  `Position.advance_first` says that going through the characters leads there.
* **`fromLine?_add`**, **`fromLine?_succ`** — lines are found one behind the other.
* **`byteOffset_positionAt`** — the offset of the position of a place is the offset of the place.
* **`byteOffset_mono`** — of two positions the later one does not have the smaller offset.
* **`offsets_sliceable_ordered`** — offsets and locations can be used to cut the text.
-/

namespace SourceLint

open SourceLint.Text

/-! ### The position of a place -/

/-- The characters after the last line feed. -/
def lastLine (cs : List Char) : List Char :=
  cs.rtakeWhile (· != '\n')

/-- The position of the place that the characters precede: the line has a number greater by one than the
line feeds among them. -/
def Position.behind (before : List Char) : Position :=
  ⟨1 + before.count '\n', (lastLine before).length⟩

theorem lastLine_concat_feed (cs : List Char) : lastLine (cs ++ ['\n']) = [] :=
  List.rtakeWhile_concat_neg _ _ _ (by simp)

theorem lastLine_concat_of_ne {c : Char} (hc : c ≠ '\n') (cs : List Char) :
    lastLine (cs ++ [c]) = lastLine cs ++ [c] :=
  List.rtakeWhile_concat_pos _ _ _ (by simpa using hc)

theorem feed_notMem_lastLine (cs : List Char) : '\n' ∉ lastLine cs := by
  intro h
  simpa using List.mem_rtakeWhile_imp h

/-- Going through the characters of a text leads to the position of its end. -/
theorem Position.advance_first (before : List Char) : first.advance before = behind before := by
  induction before using List.reverseRecOn with
  | nil => rfl
  | append_singleton before c ih =>
    rw [advance_append, ih, advance, List.foldl_cons, List.foldl_nil, next, behind, behind,
      List.count_append]
    by_cases hc : c = '\n'
    · rw [if_pos hc, hc, lastLine_concat_feed, List.count_singleton_self, Nat.add_comm 1, Nat.add_comm 1]
      rfl
    · have hnone : [c].count '\n' = 0 := List.count_eq_zero_of_not_mem (by simpa using Ne.symm hc)
      rw [if_neg hc, lastLine_concat_of_ne hc, hnone, List.length_append]
      rfl

/-! ### Lines behind one another -/

theorem fromLine?_zero (cs : List Char) : fromLine? 0 cs = some cs := by
  rw [fromLine?]

/-- The lines behind the first one begin behind its line feed. -/
theorem fromLine?_succ (n : Nat) (cs : List Char) :
    fromLine? (n + 1) cs = (cs.dropWhile (· != '\n')).tail?.bind (fromLine? n) := by
  induction cs with
  | nil => rfl
  | cons c cs ih =>
    by_cases hc : c = '\n'
    · rw [fromLine?, if_pos hc, hc]
      rfl
    · rw [fromLine?, if_neg hc, ih, List.dropWhile_cons_of_pos (by simpa using hc)]

theorem fromLine?_add (m n : Nat) (cs : List Char) :
    fromLine? (m + n) cs = (fromLine? m cs).bind (fromLine? n) := by
  induction cs generalizing m with
  | nil =>
    cases m with
    | zero => rw [Nat.zero_add, fromLine?_zero, Option.bind_some]
    | succ m => rw [Nat.succ_add, fromLine?, fromLine?, Option.bind_none]
  | cons c cs ih =>
    cases m with
    | zero => rw [Nat.zero_add, fromLine?_zero, Option.bind_some]
    | succ m =>
      rw [Nat.succ_add, fromLine?, fromLine?]
      by_cases hc : c = '\n'
      · rw [if_pos hc, if_pos hc, ih]
      · rw [if_neg hc, if_neg hc, ← ih, Nat.add_right_comm]

/-- Behind some characters, the line on which they end begins with the last of them. -/
theorem fromLine?_count (before after : List Char) :
    fromLine? (before.count '\n') (before ++ after) = some (lastLine before ++ after) := by
  induction before using List.reverseRecOn generalizing after with
  | nil => exact fromLine?_zero after
  | append_singleton before c ih =>
    rw [List.append_assoc, List.count_append]
    by_cases hc : c = '\n'
    · have hline : (lastLine before ++ '\n' :: after).dropWhile (· != '\n') = '\n' :: after := by
        rw [List.dropWhile_append_of_pos]
        · exact List.dropWhile_cons_of_neg (by simp)
        · intro d hd
          simpa using fun h : d = '\n' => feed_notMem_lastLine before (h ▸ hd)
      rw [hc, List.count_singleton_self, fromLine?_add, List.singleton_append, ih, Option.bind_some,
        fromLine?_succ, hline, lastLine_concat_feed]
      exact fromLine?_zero after
    · have hnone : [c].count '\n' = 0 := List.count_eq_zero_of_not_mem (by simpa using Ne.symm hc)
      rw [hnone, Nat.add_zero, List.singleton_append, ih, lastLine_concat_of_ne hc, List.append_assoc,
        List.singleton_append]

/-! ### From places to offsets and back -/

/-- The position of the place at an offset. -/
def positionAt (text : List Char) (offset : Nat) : Position :=
  .behind (slice (markLength text) offset text)

theorem dropBytes_markLength (text : List Char) : dropBytes (markLength text) text = dropMark text := by
  obtain ⟨mark, hmark⟩ := dropMark_suffix text
  have hlength := markLength_add_byteLength_dropMark text
  have hbytes : markLength text = byteLength mark := by
    rw [← hmark, byteLength_append, hmark] at hlength
    omega
  rw [hbytes]
  nth_rewrite 1 [← hmark]
  exact dropBytes_append mark (dropMark text)

/-- The characters of a line before a place are its part up to the column of the place. -/
theorem linePart_length_append {line : List Char} (hline : '\n' ∉ line) (after : List Char) :
    linePart line.length (line ++ after) = line := by
  have hall : ∀ c ∈ line, (c != '\n') = true := fun c hc => by
    simpa using fun h : c = '\n' => hline (h ▸ hc)
  rw [linePart, List.takeWhile_append_of_pos hall, List.take_left']
  rfl

/-- **The offset of a position finds the place back.**  For every place behind the byte order mark, if a
text has one: take the number of line feeds before it, and one, for the line, and the number of characters
between the beginning of the line and the place for the column.  The offset of this position is the offset
of the place. -/
theorem byteOffset_positionAt {text : List Char} {offset : Nat} (hplace : isBoundary text offset = true)
    (hmark : markLength text ≤ offset) : byteOffset text (positionAt text offset) = offset := by
  obtain ⟨mark, before, after, htext, hbytes, hoffset⟩ :=
    exists_append_append_of_isBoundary (isBoundary_markLength text) hplace hmark
  have hbefore : slice (markLength text) offset text = before := by
    rw [← hbytes, ← hoffset, htext, slice_append]
  have hrest : dropMark text = before ++ after := by
    rw [← dropBytes_markLength, ← hbytes, htext, List.append_assoc, dropBytes_append]
  -- the last line of what precedes the place is a suffix of it
  obtain ⟨lines, hlines⟩ : lastLine before <:+ before := List.rtakeWhile_suffix _ _
  have hlengths := congrArg byteLength hlines
  have hall := congrArg byteLength htext
  rw [positionAt, hbefore, Position.behind, Nat.add_comm 1, byteOffset, hrest, fromLine?_count]
  simp only [linePart_length_append (feed_notMem_lastLine before)]
  simp only [byteLength_append] at hlengths hall hoffset ⊢
  omega

/-- A text with a mark, a wide character, an empty line and a line that ends with a carriage return: the
place before the carriage return is on the third line. -/
theorem byteOffset_positionAt_beforeReturn :
    isBoundary (byteOrderMark :: "é\n\nab\r\n".toList) 9 = true ∧
      markLength (byteOrderMark :: "é\n\nab\r\n".toList) ≤ 9 ∧
      positionAt (byteOrderMark :: "é\n\nab\r\n".toList) 9 = ⟨3, 2⟩ ∧
      byteOffset (byteOrderMark :: "é\n\nab\r\n".toList)
        (positionAt (byteOrderMark :: "é\n\nab\r\n".toList) 9) = 9 :=
  ⟨by decide, by decide, by decide, byteOffset_positionAt (by decide) (by decide)⟩

/-! ### The order of positions -/

/-- A position on an earlier line comes first, and on the same line the one with the smaller column. -/
instance : LE Position :=
  ⟨fun p q => p.line < q.line ∨ p.line = q.line ∧ p.column ≤ q.column⟩

theorem Position.le_iff {p q : Position} :
    p ≤ q ↔ p.line < q.line ∨ p.line = q.line ∧ p.column ≤ q.column :=
  Iff.rfl

instance (p q : Position) : Decidable (p ≤ q) :=
  decidable_of_iff _ Position.le_iff.symm

theorem byteOffset_le (text : List Char) (p : Position) : byteOffset text p ≤ byteLength text :=
  le_byteLength_of_isBoundary (isBoundary_byteOffset text p)

/-- No position is in the mark. -/
theorem markLength_le_byteOffset (text : List Char) (p : Position) :
    markLength text ≤ byteOffset text p := by
  have hlength := markLength_add_byteLength_dropMark text
  obtain ⟨line, column⟩ := p
  cases line with
  | zero => exact Nat.le_refl _
  | succ line =>
    rw [byteOffset]
    cases h : fromLine? line (dropMark text) with
    | none =>
      show markLength text ≤ byteLength text
      omega
    | some rest =>
      have hrest := byteLength_le_of_sublist (fromLine?_suffix h).sublist
      show markLength text ≤ byteLength text - byteLength rest + byteLength (linePart column rest)
      omega

/-- A part of a line and what follows the line share no byte. -/
theorem byteLength_linePart_add_le {n : Nat} {cs rest : List Char} (h : fromLine? (n + 1) cs = some rest)
    (column : Nat) : byteLength (linePart column cs) + byteLength rest ≤ byteLength cs := by
  induction cs generalizing column with
  | nil => cases h
  | cons c cs ih =>
    by_cases hc : c = '\n'
    · have hnone : linePart column (c :: cs) = [] := by
        rw [linePart, hc, List.takeWhile_cons_of_neg (by simp), List.take_nil]
      rw [fromLine?, if_pos hc] at h
      have hrest := byteLength_le_of_sublist (fromLine?_suffix h).sublist
      rw [hnone, byteLength_nil, byteLength_cons]
      omega
    · rw [fromLine?, if_neg hc] at h
      have hline : (c :: cs).takeWhile (· != '\n') = c :: cs.takeWhile (· != '\n') :=
        List.takeWhile_cons_of_pos (by simpa using hc)
      cases column with
      | zero =>
        have hrest := ih h 0
        rw [linePart, List.take_zero, byteLength_nil] at hrest ⊢
        rw [byteLength_cons]
        omega
      | succ column =>
        have hrest := ih h column
        rw [linePart, hline, List.take_succ_cons, byteLength_cons, byteLength_cons]
        rw [linePart] at hrest
        omega

/-- **A later position does not have a smaller offset**, wherever the two have to be moved to. -/
theorem byteOffset_mono (text : List Char) {p q : Position} (h : p ≤ q) :
    byteOffset text p ≤ byteOffset text q := by
  obtain ⟨line, column⟩ := p
  obtain ⟨line', column'⟩ := q
  cases line with
  | zero => exact markLength_le_byteOffset text ⟨line', column'⟩
  | succ line =>
    obtain ⟨k, rfl⟩ : ∃ k, line' = line + k + 1 := by
      rcases h with hline | ⟨hline, -⟩
      · exact ⟨line' - line - 1, by simp only at hline; omega⟩
      · exact ⟨0, hline.symm⟩
    cases hlater : fromLine? (line + k) (dropMark text) with
    | none =>
      have hend : byteOffset text ⟨line + k + 1, column'⟩ = byteLength text := by
        rw [byteOffset, hlater]
      rw [hend]
      exact byteOffset_le text _
    | some rest' =>
      rw [fromLine?_add] at hlater
      obtain ⟨rest, hrest, hbehind⟩ := Option.bind_eq_some_iff.1 hlater
      rw [byteOffset, byteOffset, fromLine?_add, hrest, Option.bind_some, hbehind]
      have hle := byteLength_le_of_sublist ((fromLine?_suffix hrest).trans (dropMark_suffix text)).sublist
      cases k with
      | zero =>
        -- both on one line: the part up to the smaller column is part of the other
        obtain rfl : rest = rest' := Option.some.inj ((fromLine?_zero rest).symm.trans hbehind)
        have hcolumn : column ≤ column' := by
          rcases h with hline | ⟨-, hcolumn⟩
          · exact absurd hline (Nat.lt_irrefl _)
          · exact hcolumn
        have hpart := byteLength_le_of_sublist
          (List.take_sublist_take_left (l := rest.takeWhile (· != '\n')) hcolumn)
        show _ - _ + byteLength (linePart column rest) ≤ _ - _ + byteLength (linePart column' rest)
        exact Nat.add_le_add_left hpart _
      | succ k =>
        have hapart := byteLength_linePart_add_le hbehind column
        show byteLength text - byteLength rest + byteLength (linePart column rest) ≤
          byteLength text - byteLength rest' + byteLength (linePart column' rest')
        omega

/-! ### Locations -/

/-- Where a span does not end before it begins, its location ends where the span does. -/
theorem SourceFile.stop_location_of_le (source : SourceFile) {s : Span} (h : s.start ≤ s.stop) :
    (source.location s).stop = source.offset s.stop :=
  (source.stop_location s).trans (Nat.max_eq_left (byteOffset_mono source.text h))

/-- A location can be cut out of the text and replaced. -/
theorem SourceFile.validate_location (source : SourceFile) (s : Span) (replacement : String) :
    (Substitution.mk (source.location s).offset (source.location s).stop replacement).validate
      source.text = .ok () :=
  Substitution.validate_eq_ok_iff.2
    ⟨Nat.le_add_right _ _, source.isBoundary_offset s.start, source.isBoundary_stop_location s⟩

/-- **Offsets and locations can be used to cut the text, and are in order.**  The offset of any position,
also of one that no character has, falls between two characters behind the byte order mark, and a later
position has no smaller offset.  So the location of any span is a stretch of the text that begins and ends
between characters, and a substitution for it is valid; and where a span does not end before it begins, its
location begins and ends where the span does, without being cut off. -/
theorem offsets_sliceable_ordered :
    (∀ (text : List Char) (p : Position), isBoundary text (byteOffset text p) = true ∧
      markLength text ≤ byteOffset text p ∧ byteOffset text p ≤ byteLength text) ∧
    (∀ (text : List Char) (p q : Position), p ≤ q → byteOffset text p ≤ byteOffset text q) ∧
    ∀ (source : SourceFile) (s : Span),
      (source.location s).offset ≤ (source.location s).stop ∧
      (source.location s).stop ≤ byteLength source.text ∧
      isBoundary source.text (source.location s).offset = true ∧
      isBoundary source.text (source.location s).stop = true ∧
      (∀ replacement, (Substitution.mk (source.location s).offset (source.location s).stop
        replacement).validate source.text = .ok ()) ∧
      (s.start ≤ s.stop → (source.location s).offset = source.offset s.start ∧
        (source.location s).stop = source.offset s.stop) := by
  refine ⟨fun text p => ?_, fun text p q h => byteOffset_mono text h, fun source s => ?_⟩
  · exact ⟨isBoundary_byteOffset text p, markLength_le_byteOffset text p, byteOffset_le text p⟩
  · have hstop := source.isBoundary_stop_location s
    exact ⟨Nat.le_add_right _ _, le_byteLength_of_isBoundary hstop, source.isBoundary_offset s.start, hstop,
      source.validate_location s, fun h => ⟨rfl, source.stop_location_of_le h⟩⟩

/-- Two positions past the ends of their lines, and a span that goes from the one to the other. -/
theorem offsets_sliceable_ordered_pastLineEnds :
    (⟨1, 90⟩ : Position) ≤ ⟨2, 70⟩ ∧ ∃ source : SourceFile,
      source.text = "use é;\nuse b;\n".toList ∧
      byteOffset source.text ⟨1, 90⟩ = 7 ∧ byteOffset source.text ⟨2, 70⟩ = 14 ∧
      byteOffset source.text ⟨1, 90⟩ ≤ byteOffset source.text ⟨2, 70⟩ ∧
      (source.location ⟨⟨1, 90⟩, ⟨2, 70⟩⟩).offset = 7 ∧
      (source.location ⟨⟨1, 90⟩, ⟨2, 70⟩⟩).stop = 14 := by
  have hle : (⟨1, 90⟩ : Position) ≤ ⟨2, 70⟩ := by decide
  obtain ⟨source, htext, -⟩ :=
    SourceFile.exists_of_parseProgram "use é;\nuse b;\n".toList (fun _ => True) (by decide +kernel)
  have hfirst : byteOffset source.text ⟨1, 90⟩ = 7 := by rw [htext]; decide
  have hsecond : byteOffset source.text ⟨2, 70⟩ = 14 := by rw [htext]; decide
  obtain ⟨-, hmono, hlocation⟩ := offsets_sliceable_ordered
  obtain ⟨-, -, -, -, -, hends⟩ := hlocation source ⟨⟨1, 90⟩, ⟨2, 70⟩⟩
  obtain ⟨hoffset, hstop⟩ := hends hle
  exact ⟨hle, source, htext, hfirst, hsecond, hmono source.text _ _ hle, hoffset.trans hfirst,
    hstop.trans hsecond⟩

end SourceLint
