import Mathlib.Data.List.Infix
import SourceLint.Proofs.Directive.Reading

/-!
# Directives and line comments

A directive belongs into a line comment, but the line is searched for it without regard to what is a comment
and what is not.  The first two slashes of a line begin its line comment, unless two slashes stand in a row
in front of it within a literal, within a block comment or in the line for the shell.

* **`lineAt`**, **`lineComments`** — the line of a place, and the line comments that begin on a line.
* **`HidesSlashes`** — on the line two slashes stand in a row where they begin no line comment.
* **`lineComments_eq_nil_or_singleton`** — a line has one line comment at most.
* **`comment?_line`** — it begins at the first two slashes of the line.
* **`directives_are_line_comments`** — elsewhere the directives are the line comments that are directives.
* **`directives_outside_line_comments`** — a directive that is missed, and one that is none.
-/

namespace SourceLint

open SourceLint.Text SourceLint.Syntax

/-! ### Places and their lines -/

/-- The line of the place that the given number of characters precedes. -/
def lineAt (text : List Char) (i : Nat) : Nat :=
  (Position.behind (text.take i)).line

theorem lineAt_eq (text : List Char) (i : Nat) : lineAt text i = 1 + (text.take i).count '\n' :=
  rfl

/-- Places between which there is no line feed are on the same line. -/
theorem lineAt_add {text : List Char} {i n : Nat} (h : '\n' ∉ (text.drop i).take n) :
    lineAt text (i + n) = lineAt text i := by
  rw [lineAt_eq, lineAt_eq, List.take_add, List.count_append, List.count_eq_zero_of_not_mem h, Nat.add_zero]

/-- What comes behind a line feed is on a later line. -/
theorem lineAt_lt {text : List Char} {i j : Nat} (hfeed : text[i]? = some '\n') (h : i < j) :
    lineAt text i < lineAt text j := by
  obtain ⟨m, rfl⟩ := Nat.exists_eq_add_of_lt h
  rw [lineAt_eq, lineAt_eq, Nat.add_right_comm, List.take_add, List.take_add_one, hfeed, List.count_append,
    List.count_append, Option.toList_some, List.count_singleton_self]
  omega

/-- The text from the beginning of the line of a place. -/
theorem fromLine?_of_lineAt {text : List Char} {i k : Nat} (h : lineAt text i = k + 1) :
    fromLine? k text = some (lastLine (text.take i) ++ text.drop i) := by
  have hcount : (text.take i).count '\n' = k := by
    rw [lineAt_eq] at h
    omega
  have hfrom := fromLine?_count (text.take i) (text.drop i)
  rwa [hcount, List.take_append_drop] at hfrom

/-- The columns of two places on a line are as far apart as the places. -/
theorem column_add {text : List Char} {i j n : Nat} (hi : lineAt text i = n) (hj : lineAt text j = n)
    (hle : i ≤ j) (hlength : j ≤ text.length) :
    (lastLine (text.take i)).length + (j - i) = (lastLine (text.take j)).length := by
  obtain ⟨k, rfl⟩ : ∃ k, n = k + 1 := ⟨(text.take i).count '\n', by rw [← hi, lineAt_eq, Nat.add_comm]⟩
  have hsame := Option.some.inj ((fromLine?_of_lineAt hi).symm.trans (fromLine?_of_lineAt hj))
  have hlengths := congrArg List.length hsame
  rw [List.length_append, List.length_append, List.length_drop, List.length_drop] at hlengths
  omega

theorem exists_of_fromLine? {text rest : List Char} {k : Nat} (h : fromLine? k text = some rest) :
    ∃ before, text = before ++ rest ∧ before.count '\n' = k := by
  induction text generalizing k with
  | nil =>
    cases k with
    | zero => exact ⟨[], Option.some.inj h, rfl⟩
    | succ k => cases h
  | cons c text ih =>
    cases k with
    | zero => exact ⟨[], Option.some.inj h, rfl⟩
    | succ k =>
      rw [fromLine?] at h
      split at h
      · rename_i hc
        obtain ⟨before, rfl, hcount⟩ := ih h
        exact ⟨c :: before, rfl, by rw [hc, List.count_cons_self, hcount]⟩
      · rename_i hc
        obtain ⟨before, rfl, hcount⟩ := ih h
        exact ⟨c :: before, rfl, by rw [List.count_cons_of_ne hc, hcount]⟩

/-! ### Line comments -/

/-- The line comments that begin on a line. -/
def lineComments (text : List Char) (n : Nat) : List Stretch :=
  (stretchesOf text).filter fun s => lineAt text s.start = n && startsSlashes (text.drop s.start)

/-- On the line two slashes stand in a row in a literal, in a block comment or in front of the code. -/
def HidesSlashes (text : List Char) (n : Nat) : Prop :=
  ∃ i < text.length, lineAt text i = n ∧ startsSlashes (text.drop i) = true ∧
    (i < codeStart text ∨ ∃ s ∈ stretchesOf text,
      (s.isLiteral = true ∨ startsBlockComment (text.drop s.start) = true) ∧ s.start ≤ i ∧ i < s.stop)

instance (text : List Char) (n : Nat) : Decidable (HidesSlashes text n) :=
  inferInstanceAs (Decidable (∃ i < text.length, lineAt text i = n ∧ startsSlashes (text.drop i) = true ∧
    (i < codeStart text ∨ ∃ s ∈ stretchesOf text,
      (s.isLiteral = true ∨ startsBlockComment (text.drop s.start) = true) ∧ s.start ≤ i ∧ i < s.stop)))

theorem mem_lineComments {text : List Char} {n : Nat} {s : Stretch} :
    s ∈ lineComments text n ↔
      s ∈ stretchesOf text ∧ lineAt text s.start = n ∧ startsSlashes (text.drop s.start) = true := by
  rw [lineComments, List.mem_filter, Bool.and_eq_true, decide_eq_true_iff]

section LineComments

variable {text : List Char} {n : Nat} {s : Stretch}

theorem feed_notMem_lineComment (hs : s ∈ lineComments text n) {m : Nat} (hm : m ≤ s.length) :
    '\n' ∉ (text.drop s.start).take m := by
  obtain ⟨hmem, -, hslashes⟩ := mem_lineComments.1 hs
  have htext := text_of_mem_stretchesOf hmem hslashes
  intro hfeed
  have hin : '\n' ∈ s.text text := (List.take_prefix_take_left hm).subset hfeed
  rw [htext] at hin
  simpa using List.mem_takeWhile_imp hin

/-- A line comment ends with the text or in front of a line feed. -/
theorem getElem?_stop_lineComment (hs : s ∈ lineComments text n) :
    text[s.stop]? = none ∨ text[s.stop]? = some '\n' := by
  obtain ⟨hmem, -, hslashes⟩ := mem_lineComments.1 hs
  have hdrop : text.drop s.stop = (text.drop s.start).dropWhile (· != '\n') := by
    rw [Stretch.stop, ← List.drop_drop, length_of_mem_stretchesOf hmem hslashes]
    nth_rewrite 2 [← List.takeWhile_append_dropWhile (p := (· != '\n')) (l := text.drop s.start)]
    exact List.drop_left
  have hhead := List.head?_dropWhile_not (· != '\n') (text.drop s.start)
  rw [← hdrop, List.head?_drop] at hhead
  cases hat : text[s.stop]? with
  | none => exact .inl rfl
  | some c =>
    rw [hat] at hhead
    exact .inr (by simpa using hhead)

/-- Every place in a line comment is on its line. -/
theorem lineAt_of_mem_lineComments (hs : s ∈ lineComments text n) {i : Nat} (hstart : s.start ≤ i)
    (hstop : i ≤ s.stop) : lineAt text i = n := by
  rw [← (mem_lineComments.1 hs).2.1, ← Nat.add_sub_cancel' hstart]
  refine lineAt_add (feed_notMem_lineComment hs ?_)
  rw [Stretch.stop] at hstop
  omega

/-- **Two slashes in a row begin or continue a line comment**, unless they are hidden. -/
theorem exists_lineComment {tree : Node} (hparsed : parseProgram text = .ok tree)
    (hhides : ¬HidesSlashes text n) {i : Nat} (hline : lineAt text i = n)
    (hslashes : startsSlashes (text.drop i) = true) :
    ∃ s ∈ lineComments text n, s.start ≤ i ∧ i < s.stop := by
  have hi : i < text.length := lt_length_of_startsSlashes hslashes
  by_cases hcode : i < codeStart text
  · exact absurd ⟨i, hi, hline, hslashes, .inl hcode⟩ hhides
  obtain ⟨s, hs, hstart, hstop⟩ := exists_stretch_of_parseProgram hparsed (Nat.le_of_not_lt hcode) hi
  have hhidden (h : s.isLiteral = true ∨ startsBlockComment (text.drop s.start) = true) :
      HidesSlashes text n :=
    ⟨i, hi, hline, hslashes, .inr ⟨s, hs, h, hstart, hstop⟩⟩
  rcases isLiteral_or_startsComment hs hstart hstop hslashes with hliteral | hcomment
  · exact absurd (hhidden (.inl hliteral)) hhides
  rcases startsComment_iff.1 hcomment with hline' | hblock
  · have hmem : s ∈ lineComments text (lineAt text s.start) := mem_lineComments.2 ⟨hs, rfl, hline'⟩
    have hsame := lineAt_of_mem_lineComments hmem hstart (Nat.le_of_lt hstop)
    rw [← hsame, hline] at hmem
    exact ⟨s, hmem, hstart, hstop⟩
  · exact absurd (hhidden (.inr hblock)) hhides

/-- No line comment comes behind another one on its line: there is a line feed in between. -/
theorem not_stop_le_start {t : Stretch} (hs : s ∈ lineComments text n) (ht : t ∈ lineComments text n) :
    ¬s.stop ≤ t.start := by
  intro hle
  obtain ⟨-, hline, hslashes⟩ := mem_lineComments.1 ht
  obtain ⟨rest, hrest⟩ := startsSlashes_iff.1 hslashes
  have hslash : text[t.start]? = some '/' := by rw [← List.head?_drop, hrest, List.head?_cons]
  rcases getElem?_stop_lineComment hs with hend | hfeed
  · have hlength := (List.getElem?_eq_none_iff.1 hend).trans hle
    rw [List.getElem?_eq_none_iff.2 hlength] at hslash
    cases hslash
  · rcases Nat.eq_or_lt_of_le hle with heq | hlt
    · rw [← heq, hfeed] at hslash
      cases hslash
    · have hlater := lineAt_lt hfeed hlt
      have hsame : lineAt text s.stop = n :=
        lineAt_of_mem_lineComments hs (Nat.le_add_right _ _) (Nat.le_refl _)
      omega

/-- **A line has one line comment at most.** -/
theorem lineComments_eq_nil_or_singleton (text : List Char) (n : Nat) :
    lineComments text n = [] ∨ ∃ s, lineComments text n = [s] := by
  cases h : lineComments text n with
  | nil => exact .inl rfl
  | cons s rest =>
    cases rest with
    | nil => exact .inr ⟨s, rfl⟩
    | cons t rest =>
      have hpairwise : (lineComments text n).Pairwise fun s t => s.stop ≤ t.start :=
        (pairwise_stretches _ _ _).filter _
      have hs : s ∈ lineComments text n := by simp [h]
      have ht : t ∈ lineComments text n := by simp [h]
      rw [h] at hpairwise
      exact absurd (List.rel_of_pairwise_cons hpairwise List.mem_cons_self) (not_stop_le_start hs ht)

theorem eq_of_mem_lineComments {t : Stretch} (hs : s ∈ lineComments text n) (ht : t ∈ lineComments text n) :
    s = t := by
  rcases lineComments_eq_nil_or_singleton text n with h | ⟨u, h⟩
  · rw [h] at hs
    cases hs
  · rw [h] at hs ht
    rw [List.mem_singleton.1 hs, List.mem_singleton.1 ht]

/-! ### The first slashes of a line -/

/-- A line comment stands on its line behind what comes before it there. -/
theorem line_of_mem_lineComments {rest : List Char} {k : Nat} (hrest : fromLine? k text = some rest)
    (hs : s ∈ lineComments text (k + 1)) :
    rest.takeWhile (· != '\n') = lastLine (text.take s.start) ++ s.text text := by
  obtain ⟨hmem, hline, hslashes⟩ := mem_lineComments.1 hs
  have hfrom := fromLine?_of_lineAt hline
  rw [hrest] at hfrom
  rw [Option.some.inj hfrom, text_of_mem_stretchesOf hmem hslashes]
  exact List.takeWhile_append_of_pos fun c hc => by
    simpa using fun h : c = '\n' => feed_notMem_lastLine _ (h ▸ hc)

/-- A place on a line is a place in the text. -/
theorem exists_place_of_fromLine? {rest : List Char} {k j : Nat} (hrest : fromLine? k text = some rest)
    (hj : j ≤ (rest.takeWhile (· != '\n')).length) :
    ∃ i, lineAt text i = k + 1 ∧ text.drop i = rest.drop j ∧ (lastLine (text.take i)).length = j := by
  obtain ⟨before, rfl, hcount⟩ := exists_of_fromLine? hrest
  have hline : lineAt (before ++ rest) (before.length + j) = k + 1 := by
    have hnone : '\n' ∉ rest.take j := by
      intro hfeed
      have hpart : rest.take j <+: rest.takeWhile (· != '\n') :=
        List.prefix_of_prefix_length_le (List.take_prefix j rest) (List.takeWhile_prefix _)
          ((List.length_take_le j rest).trans hj)
      simpa using List.mem_takeWhile_imp (hpart.subset hfeed)
    rw [lineAt_eq, List.take_length_add_append, List.count_append, hcount, List.count_eq_zero_of_not_mem hnone]
    omega
  have hdrop : (before ++ rest).drop (before.length + j) = rest.drop j := List.drop_length_add_append j
  refine ⟨before.length + j, hline, hdrop, ?_⟩
  have hfrom := fromLine?_of_lineAt hline
  rw [hrest, hdrop] at hfrom
  have hlength := congrArg List.length (Option.some.inj hfrom)
  have hshort : j ≤ rest.length := hj.trans (List.takeWhile_prefix _).length_le
  rw [List.length_append, List.length_drop] at hlength
  omega

theorem startsSlashes_text (hs : s ∈ lineComments text n) : startsSlashes (s.text text) = true := by
  obtain ⟨hmem, -, hslashes⟩ := mem_lineComments.1 hs
  rw [text_of_mem_stretchesOf hmem hslashes]
  obtain ⟨rest, hrest⟩ := startsSlashes_iff.1 hslashes
  rw [hrest]
  rfl

section Parsed

variable {tree : Node} (hparsed : parseProgram text = .ok tree) {rest : List Char} {k : Nat}
  (hrest : fromLine? k text = some rest) (hhides : ¬HidesSlashes text (k + 1))

include hparsed hrest hhides

/-- **The first two slashes of a line begin its line comment**, unless two slashes are hidden on the line. -/
theorem exists_lineComment_of_comment? {w : List Char}
    (h : Directive.comment? (rest.takeWhile (· != '\n')) = some w) :
    ∃ s ∈ lineComments text (k + 1), w = Directive.words (s.text text) := by
  obtain ⟨j, hj, hfirst, rfl⟩ := Directive.comment?_eq_some h
  have hshort : j ≤ (rest.takeWhile (· != '\n')).length := Nat.le_of_lt (lt_length_of_startsSlashes hj)
  obtain ⟨i, hline, hdrop, hcolumn⟩ := exists_place_of_fromLine? hrest hshort
  have hslashes : startsSlashes (text.drop i) = true := by
    rw [hdrop]
    exact startsSlashes_of_prefix (List.IsPrefix.drop (List.takeWhile_prefix _) j) hj
  obtain ⟨s, hs, hstart, hstop⟩ := exists_lineComment hparsed hhides hline hslashes
  have hwhole := line_of_mem_lineComments hrest hs
  have hfurther : (lastLine (text.take s.start)).length + (i - s.start) = j := by
    rw [← hcolumn]
    exact column_add (mem_lineComments.1 hs).2.1 hline hstart
      (Nat.le_of_lt (lt_length_of_startsSlashes hslashes))
  -- the comment begins at the first slashes, not before them, as there are slashes where it begins
  have hcomment : (lastLine (text.take s.start)).length = j := by
    by_contra hne
    have hnone := hfirst (lastLine (text.take s.start)).length (by omega)
    rw [hwhole, List.drop_left, startsSlashes_text hs] at hnone
    cases hnone
  refine ⟨s, hs, ?_⟩
  rw [hwhole, ← hcomment, List.drop_left]

theorem comment?_line {w : List Char} :
    Directive.comment? (rest.takeWhile (· != '\n')) = some w ↔
      ∃ s ∈ lineComments text (k + 1), w = Directive.words (s.text text) := by
  refine ⟨exists_lineComment_of_comment? hparsed hrest hhides, ?_⟩
  rintro ⟨s, hs, rfl⟩
  have hslashes : startsSlashes ((rest.takeWhile (· != '\n')).drop (lastLine (text.take s.start)).length) =
      true := by
    rw [line_of_mem_lineComments hrest hs, List.drop_left]
    exact startsSlashes_text hs
  obtain ⟨w, hw⟩ := Option.isSome_iff_exists.1 (Directive.comment?_isSome hslashes)
  obtain ⟨t, ht, rfl⟩ := exists_lineComment_of_comment? hparsed hrest hhides hw
  rw [hw, eq_of_mem_lineComments ht hs]

/-- The directive of the line is that of its line comment. -/
theorem ofLine?_line {d : Directive} :
    Directive.ofLine? (rest.takeWhile (· != '\n')) = some d ↔
      ∃ s ∈ lineComments text (k + 1), Directive.ofComment? (s.text text) = some d := by
  rw [Directive.ofLine?_eq, Option.bind_eq_some_iff]
  constructor
  · rintro ⟨w, hw, hd⟩
    obtain ⟨s, hs, rfl⟩ := (comment?_line hparsed hrest hhides).1 hw
    exact ⟨s, hs, hd⟩
  · rintro ⟨s, hs, hd⟩
    exact ⟨_, (comment?_line hparsed hrest hhides).2 ⟨s, hs, rfl⟩, hd⟩

end Parsed

end LineComments

/-! ### Directives -/

/-- The directives among the line comments that begin on a line. -/
def directivesOn (text : List Char) (n : Nat) : List Directive :=
  (lineComments text n).filterMap fun s => Directive.ofComment? (s.text text)

/-- What is read from a line are the directives among its line comments, unless slashes are hidden on it. -/
theorem directivesOn_eq {text : List Char} {tree : Node} (hparsed : parseProgram text = .ok tree) {n : Nat}
    (hhides : ¬HidesSlashes text n) :
    directivesOn text n = ((line? text n).bind Directive.ofLine?).toList := by
  cases n with
  | zero =>
    have hnone : lineComments text 0 = [] := List.filter_eq_nil_iff.2 fun s _ => by simp [lineAt_eq]
    rw [directivesOn, hnone]
    rfl
  | succ k =>
    rw [line?, Directive.ofLine?_of_lines]
    cases hrest : fromLine? k text with
    | none =>
      have hnone : lineComments text (k + 1) = [] := by
        refine List.eq_nil_iff_forall_not_mem.2 fun s hs => ?_
        have hfrom := fromLine?_of_lineAt (mem_lineComments.1 hs).2.1
        rw [hrest] at hfrom
        cases hfrom
      rw [directivesOn, hnone]
      rfl
    | some rest =>
      have hline {d : Directive} := ofLine?_line hparsed hrest hhides (d := d)
      rw [Option.bind_some, directivesOn]
      rcases lineComments_eq_nil_or_singleton text (k + 1) with h | ⟨s, h⟩
      · have hnone : Directive.ofLine? (rest.takeWhile (· != '\n')) = none := by
          refine Option.eq_none_iff_forall_ne_some.2 fun d hd => ?_
          obtain ⟨s, hs, -⟩ := hline.1 hd
          rw [h] at hs
          cases hs
        rw [h, hnone]
        rfl
      · have hsame : Directive.ofLine? (rest.takeWhile (· != '\n')) = Directive.ofComment? (s.text text) := by
          refine Option.ext fun d => hline.trans ?_
          rw [h]
          simp
        rw [h, hsame, List.filterMap_cons, List.filterMap_nil]
        cases Directive.ofComment? (s.text text) <;> rfl

/-- **Directives are read from line comments, where no slashes are hidden.**  A line comment is a stretch of a
program that begins with two slashes; a line has one at most.  On a line of the program, unless two slashes
stand in a row in a literal, in a block comment or in front of the code there, a directive is read exactly if
the line comment that begins on the line is one behind its slashes, and it has the rules and the reason that
stand in the comment.  So if this holds of a line and of the one before it, a rule is allowed on the line by
the first of the directives in their line comments that is about the rule. -/
theorem directives_are_line_comments (source : SourceFile) :
    (∀ n, (lineComments source.text n).length ≤ 1) ∧
    (∀ k line, (lines source.text)[k]? = some line → ¬HidesSlashes source.text (k + 1) →
      ∀ d, Directive.ofLine? line = some d ↔
        ∃ s ∈ lineComments source.text (k + 1), Directive.ofComment? (s.text source.text) = some d) ∧
    ∀ n rule, ¬HidesSlashes source.text (n - 1) → ¬HidesSlashes source.text n →
      allowance source.text n rule = allowanceOf rule ([n - 1, n].flatMap (directivesOn source.text)) := by
  refine ⟨fun n => ?_, fun k line hline hhides d => ?_, fun n rule hbefore hhides => ?_⟩
  · rcases lineComments_eq_nil_or_singleton source.text n with h | ⟨s, h⟩
    · rw [h]
      decide
    · rw [h]
      exact Nat.le_refl 1
  · have hread := directivesOn_eq source.parsed hhides
    have hnumbered : line? source.text (k + 1) = some line := hline
    rw [hnumbered, Option.bind_some] at hread
    rw [← Option.mem_toList, ← hread, directivesOn, List.mem_filterMap]
  · rw [allowance_eq, List.filterMap_eq_flatMap_toList, List.flatMap_cons, List.flatMap_cons, List.flatMap_nil,
      List.flatMap_cons, List.flatMap_cons, List.flatMap_nil, directivesOn_eq source.parsed hbefore,
      directivesOn_eq source.parsed hhides]

/-- Two slashes in a literal, and a comment on the next line. -/
def commentBelowLiteral : List Char :=
  "let url = \"http://x\";\nlet shared = url; //// lintel: allow(all) reason=\"shared\"\n".toList

theorem directives_are_line_comments_belowLiteral :
    ∃ source : SourceFile, source.text = commentBelowLiteral ∧ HidesSlashes source.text 1 ∧
      ¬HidesSlashes source.text 2 ∧
      (∀ d, Directive.ofLine? "let shared = url; //// lintel: allow(all) reason=\"shared\"".toList = some d ↔
        ∃ s ∈ lineComments source.text 2, Directive.ofComment? (s.text source.text) = some d) ∧
      ∀ rule, allowance source.text 3 rule = allowanceOf rule ([2, 3].flatMap (directivesOn source.text)) := by
  -- what is asked about the text is decided together with the parsing, so that it is read once
  obtain ⟨source, htext, hhidden, hsecond, hthird, hline⟩ :=
    SourceFile.exists_of_parseProgram commentBelowLiteral (fun _ =>
      HidesSlashes commentBelowLiteral 1 ∧ ¬HidesSlashes commentBelowLiteral 2 ∧
        ¬HidesSlashes commentBelowLiteral 3 ∧ (lines commentBelowLiteral)[1]? =
          some "let shared = url; //// lintel: allow(all) reason=\"shared\"".toList)
      (by decide +kernel)
  rw [← htext] at hhidden hsecond hthird hline
  obtain ⟨-, hread, hallowed⟩ := directives_are_line_comments source
  exact ⟨source, htext, hhidden, hsecond, hread 1 _ hline hsecond, fun rule => hallowed 3 rule hsecond hthird⟩

/-- A comment behind a literal with slashes in it, and a literal that looks like a comment. -/
def slashesInLiterals : List Char :=
  ("let url = \"http://x\"; // lintel: allow(all)\n" ++
    "let doc = \"// lintel: allow(all)\";\nlet end = 0;\n").toList

/-- The directive in the line comment of the first line is not read, so the rule is denied there, and one is
read from the literal on the second line, so the rule is allowed on the third. -/
theorem directives_outside_line_comments : ∃ source : SourceFile, source.text = slashesInLiterals ∧
    directivesOn source.text 1 = [⟨["all"], none⟩] ∧ directivesOn source.text 2 = [] ∧
    directivesOn source.text 3 = [] ∧
    (lines source.text).map Directive.ofLine? = [none, some ⟨["all"], none⟩, none] ∧
    allowance source.text 1 "r" = .denied ∧ allowance source.text 3 "r" = .allowed none := by
  obtain ⟨source, htext, hdirectives⟩ := SourceFile.exists_of_parseProgram slashesInLiterals (fun _ =>
    directivesOn slashesInLiterals 1 = [⟨["all"], none⟩] ∧ directivesOn slashesInLiterals 2 = [] ∧
      directivesOn slashesInLiterals 3 = [] ∧
      (lines slashesInLiterals).map Directive.ofLine? = [none, some ⟨["all"], none⟩, none] ∧
      allowance slashesInLiterals 1 "r" = .denied ∧ allowance slashesInLiterals 3 "r" = .allowed none)
    (by decide +kernel)
  rw [← htext] at hdirectives
  exact ⟨source, htext, hdirectives⟩

end SourceLint
