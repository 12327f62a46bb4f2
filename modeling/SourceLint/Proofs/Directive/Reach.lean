import SourceLint.Proofs.Source.ByteOrderMark

/-!
# How far directives reach

A directive is about its own line and the next one.  Lines are counted in the text, whether line feeds alone or
carriage returns and line feeds end them and whether the last line is ended or not, and the places on a line
have its number.

* **`TextLine`**, **`textOf`** — lines, and the text that they make up.
* **`splitOn_textOf`**, **`directive_textOf`** — the lines of the text carry the directives of the lines that
  make it up.
* **`count_feed_textOf`**, **`line_positionAt`** — the line of a place.
* **`directives_reach_next_line`** — whether a rule is allowed on a line, and by which directive.
-/

namespace SourceLint

open SourceLint.Text

/-! ### Texts that are made up of lines -/

/-- The ways in which a line ends. -/
inductive LineEnd where
  | feed
  | returnFeed
deriving DecidableEq, Repr

/-- What a line has in front of the line feed that ends it. -/
def LineEnd.beforeFeed : LineEnd → List Char
  | feed => []
  | returnFeed => ['\r']

/-- The characters that end a line. -/
def LineEnd.chars (e : LineEnd) : List Char :=
  e.beforeFeed ++ ['\n']

/-- A line and the way in which it ends. -/
structure TextLine where
  chars : List Char
  ending : LineEnd
  feed_notMem : '\n' ∉ chars

/-- The text of some lines, of which the last one is ended or not. -/
def textOf (isEnded : Bool) : List TextLine → List Char
  | [] => []
  | l :: ls => l.chars ++ ((if ls.isEmpty && !isEnded then [] else l.ending.chars) ++ textOf isEnded ls)

/-- The line with a number, counted from one. -/
def numbered? (ls : List TextLine) : Nat → Option TextLine
  | 0 => none
  | k + 1 => ls[k]?

/-- The directive on the line with a number. -/
def directive? (ls : List TextLine) (n : Nat) : Option Directive :=
  (numbered? ls n).bind fun l => Directive.ofLine? l.chars

/-- The line with a number has a directive about the rule. -/
def CarriesFor (rule : String) (ls : List TextLine) (n : Nat) : Prop :=
  ∃ d, directive? ls n = some d ∧ d.covers rule = true

theorem textOf_cons_of_ended {isEnded : Bool} {ls : List TextLine} (h : (ls.isEmpty && !isEnded) = false)
    (l : TextLine) :
    textOf isEnded (l :: ls) = (l.chars ++ l.ending.beforeFeed) ++ '\n' :: textOf isEnded ls := by
  rw [textOf, h, if_neg Bool.false_ne_true, LineEnd.chars, List.append_assoc, List.append_assoc,
    List.singleton_append]

/-- In front of a line stand the lines before it, all of them ended. -/
theorem textOf_append_cons (isEnded : Bool) (before : List TextLine) (l : TextLine) (after : List TextLine) :
    textOf isEnded (before ++ l :: after) = textOf true before ++ textOf isEnded (l :: after) := by
  induction before with
  | nil => rfl
  | cons first before ih =>
    have hmore : ((before ++ l :: after).isEmpty && !isEnded) = false := by
      cases before <;> rfl
    have hended : (before.isEmpty && !true) = false := Bool.and_false _
    rw [List.cons_append, textOf_cons_of_ended hmore, ih, textOf_cons_of_ended hended,
      List.append_assoc (first.chars ++ first.ending.beforeFeed), List.cons_append]

theorem feed_notMem_beforeFeed (l : TextLine) : '\n' ∉ l.chars ++ l.ending.beforeFeed := by
  rw [List.mem_append, not_or]
  refine ⟨l.feed_notMem, ?_⟩
  cases l.ending <;> decide

/-! ### The directives of the lines -/

theorem ofLine?_beforeFeed (l : TextLine) :
    Directive.ofLine? (l.chars ++ l.ending.beforeFeed) = Directive.ofLine? l.chars := by
  cases l.ending with
  | feed => rw [LineEnd.beforeFeed, List.append_nil]
  | returnFeed =>
    rw [LineEnd.beforeFeed, Directive.ofLine?_eq, Directive.ofLine?_eq, Directive.comment?_concat_return]

/-- The pieces of the text between line feeds have the directives of the lines, in order. -/
theorem splitOn_textOf (isEnded : Bool) (ls : List TextLine) (k : Nat) :
    (splitOn '\n' (textOf isEnded ls))[k]?.bind Directive.ofLine? =
      ls[k]?.bind fun l => Directive.ofLine? l.chars := by
  induction ls generalizing k with
  | nil =>
    -- an empty text is one empty piece
    cases k with
    | zero => rfl
    | succ k => rfl
  | cons l ls ih =>
    cases hlast : ls.isEmpty && !isEnded with
    | true =>
      rw [Bool.and_eq_true, List.isEmpty_iff] at hlast
      obtain ⟨rfl, hended⟩ := hlast
      have htext : textOf isEnded [l] = l.chars := by simp [textOf, hended]
      rw [htext, splitOn_of_notMem l.feed_notMem]
      cases k with
      | zero => rfl
      | succ k => rfl
    | false =>
      rw [textOf_cons_of_ended hlast, splitOn_append_cons, splitOn_of_notMem (feed_notMem_beforeFeed l),
        List.singleton_append]
      cases k with
      | zero => exact ofLine?_beforeFeed l
      | succ k => exact ih k

/-- **The lines of the text have the directives of the lines that make it up.** -/
theorem directive_textOf (isEnded : Bool) (ls : List TextLine) (n : Nat) :
    (line? (textOf isEnded ls) n).bind Directive.ofLine? = directive? ls n := by
  cases n with
  | zero => rfl
  | succ k => exact (linesOfPieces_bind_ofLine? _ k).trans (splitOn_textOf isEnded ls k)

theorem allowance_textOf (isEnded : Bool) (ls : List TextLine) (n : Nat) (rule : String) :
    allowance (textOf isEnded ls) n rule = allowanceOf rule ([n - 1, n].filterMap (directive? ls)) := by
  simp only [allowance_eq, directive_textOf]

/-- A rule is allowed if one of the directives is about it. -/
theorem isAllowed_allowanceOf {rule : String} {ds : List Directive} :
    (allowanceOf rule ds).isAllowed = true ↔ ∃ d ∈ ds, d.covers rule = true := by
  rw [allowanceOf]
  cases hfind : ds.find? (·.covers rule) with
  | none => simpa [Allowance.isAllowed] using hfind
  | some d =>
    have hcovers : d.covers rule = true := by
      have h := List.find?_some hfind
      exact h
    simpa [Allowance.isAllowed] using ⟨d, List.mem_of_find?_eq_some hfind, hcovers⟩

theorem allowanceOf_cons_of_covers {rule : String} {d : Directive} (h : d.covers rule = true)
    (ds : List Directive) : allowanceOf rule (d :: ds) = .allowed d.reason := by
  rw [allowanceOf, List.find?_cons, h]

theorem allowanceOf_cons_of_not_covers {rule : String} {d : Directive} (h : ¬ d.covers rule = true)
    (ds : List Directive) : allowanceOf rule (d :: ds) = allowanceOf rule ds := by
  have hfalse : d.covers rule = false := by simpa using h
  rw [allowanceOf, List.find?_cons, hfalse]
  rfl

/-! ### The lines of places -/

/-- Lines that are ended have one line feed each. -/
theorem count_feed_textOf (ls : List TextLine) : (textOf true ls).count '\n' = ls.length := by
  induction ls with
  | nil => rfl
  | cons l ls ih =>
    rw [textOf_cons_of_ended (by simp), List.count_append, List.count_cons_self, ih,
      List.count_eq_zero_of_not_mem (feed_notMem_beforeFeed l), Nat.zero_add, List.length_cons]

/-- A place is on the line whose number is greater by one than that of the line feeds before it. -/
theorem line_positionAt (before after : List Char) :
    (positionAt (before ++ after) (byteLength before)).line = 1 + before.count '\n' := by
  have hslice : (slice (markLength (before ++ after)) (byteLength before) (before ++ after)).count '\n' =
      before.count '\n' := by
    cases before with
    | nil =>
      rw [slice, byteLength_nil, Nat.zero_sub, takeBytes_zero]
    | cons c cs =>
      by_cases hmark : c = byteOrderMark
      · subst hmark
        have hlength : markLength (byteOrderMark :: cs ++ after) = byteLength [byteOrderMark] := by
          rw [byteLength_mark]
          rfl
        have hbefore : byteLength (byteOrderMark :: cs) = byteLength [byteOrderMark] + byteLength cs :=
          byteLength_append [byteOrderMark] cs
        have hdrop : dropBytes (byteLength [byteOrderMark]) (byteOrderMark :: cs ++ after) = cs ++ after :=
          dropBytes_append [byteOrderMark] (cs ++ after)
        rw [hlength, hbefore, slice, Nat.add_sub_cancel_left, hdrop, takeBytes_append]
        exact (List.count_cons_of_ne (by decide)).symm
      · have hlength : markLength (c :: cs ++ after) = 0 := by
          simp [markLength, hasMark, hmark]
        rw [hlength, slice, dropBytes_zero, Nat.sub_zero, takeBytes_append]
  show 1 + _ = _
  rw [hslice]

/-- The places on a line have its number. -/
theorem line_positionAt_textOf (isEnded : Bool) (before : List TextLine) (l : TextLine)
    (after : List TextLine) {front back : List Char} (hl : l.chars = front ++ back) :
    (positionAt (textOf isEnded (before ++ l :: after)) (byteLength (textOf true before ++ front))).line =
      before.length + 1 := by
  have hfront : front.count '\n' = 0 := by
    refine List.count_eq_zero_of_not_mem fun hmem => l.feed_notMem ?_
    rw [hl]
    exact List.mem_append_left back hmem
  rw [textOf_append_cons, textOf, hl, List.append_assoc, ← List.append_assoc (textOf true before),
    line_positionAt, List.count_append, count_feed_textOf, hfront, Nat.add_zero, Nat.add_comm]

/-- **A directive is about its own line and the next one.**  A text is made up of lines, however each of them
ends and whether the last one is ended or not.  A rule is allowed on a line exactly if this line or the one
before it carries a directive that names the rule or all rules; the directive of the line before it goes
first, and its reason is the one that is given.  Nothing is allowed on a line without a number and on those
that come later than the line after the last one, and no other line has a say in it.  The number of a line is
that of the locations on it. -/
theorem directives_reach_next_line (isEnded : Bool) (ls : List TextLine) (n : Nat) (rule : String) :
    ((allowance (textOf isEnded ls) n rule).isAllowed = true ↔
      1 ≤ n ∧ (CarriesFor rule ls (n - 1) ∨ CarriesFor rule ls n)) ∧
    (∀ d, directive? ls (n - 1) = some d → d.covers rule = true →
      allowance (textOf isEnded ls) n rule = .allowed d.reason) ∧
    (¬ CarriesFor rule ls (n - 1) → ∀ d, directive? ls n = some d → d.covers rule = true →
      allowance (textOf isEnded ls) n rule = .allowed d.reason) ∧
    (n = 0 ∨ ls.length + 1 < n → allowance (textOf isEnded ls) n rule = .denied) ∧
    (∀ (isEnded' : Bool) (others : List TextLine),
      (∀ m ∈ [n - 1, n], (numbered? others m).map (·.chars) = (numbered? ls m).map (·.chars)) →
      allowance (textOf isEnded' others) n rule = allowance (textOf isEnded ls) n rule) ∧
    ∀ (before : List TextLine) (l : TextLine) (after : List TextLine) (front back : List Char),
      ls = before ++ l :: after → l.chars = front ++ back →
      numbered? ls (before.length + 1) = some l ∧
      ∀ (source : SourceFile) (s : Span), source.text = textOf isEnded ls →
        s.start = positionAt source.text (byteLength (textOf true before ++ front)) →
        (source.location s).line = before.length + 1 := by
  have hnone {m : Nat} (hm : m = 0 ∨ ls.length < m) : directive? ls m = none := by
    cases m with
    | zero => rfl
    | succ k =>
      have hlast : ls[k]? = none := List.getElem?_eq_none (by omega)
      rw [directive?, numbered?, hlast, Option.bind_none]
  refine ⟨?_, fun d hd hcovers => ?_, fun hnot d hd hcovers => ?_, fun hn => ?_,
    fun isEnded' others hsame => ?_, ?_⟩
  · rw [allowance_textOf, isAllowed_allowanceOf]
    constructor
    · rintro ⟨d, hmem, hcovers⟩
      obtain ⟨m, hm, hd⟩ := List.mem_filterMap.1 hmem
      have hpos : m ≠ 0 := by
        rintro rfl
        cases hd
      simp only [List.mem_cons, List.not_mem_nil, or_false] at hm
      rcases hm with rfl | rfl
      · exact ⟨by omega, .inl ⟨d, hd, hcovers⟩⟩
      · exact ⟨by omega, .inr ⟨d, hd, hcovers⟩⟩
    · rintro ⟨-, ⟨d, hd, hcovers⟩ | ⟨d, hd, hcovers⟩⟩
      · exact ⟨d, List.mem_filterMap.2 ⟨n - 1, by simp, hd⟩, hcovers⟩
      · exact ⟨d, List.mem_filterMap.2 ⟨n, by simp, hd⟩, hcovers⟩
  · rw [allowance_textOf, List.filterMap_cons_some hd, allowanceOf_cons_of_covers hcovers]
  · rw [allowance_textOf]
    have hown : [n].filterMap (directive? ls) = [d] := by
      rw [List.filterMap_cons_some hd, List.filterMap_nil]
    cases hbefore : directive? ls (n - 1) with
    | none => rw [List.filterMap_cons_none hbefore, hown, allowanceOf_cons_of_covers hcovers]
    | some b =>
      rw [List.filterMap_cons_some hbefore, hown,
        allowanceOf_cons_of_not_covers fun hb => hnot ⟨b, hbefore, hb⟩, allowanceOf_cons_of_covers hcovers]
  · rw [allowance_textOf, List.filterMap_cons_none (hnone (by omega)),
      List.filterMap_cons_none (hnone (by omega)), List.filterMap_nil]
    rfl
  · have hdirective : ∀ m ∈ [n - 1, n], directive? others m = directive? ls m := by
      intro m hm
      have h := congrArg (·.bind Directive.ofLine?) (hsame m hm)
      simp only [Option.bind_map] at h
      exact h
    rw [allowance_textOf, allowance_textOf, List.filterMap_congr hdirective]
  · rintro before l after front back rfl hl
    refine ⟨by simp [numbered?], fun source s htext hs => ?_⟩
    show s.start.line = before.length + 1
    rw [hs, htext]
    exact line_positionAt_textOf isEnded before l after hl

end SourceLint
