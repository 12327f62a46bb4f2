import SourceLint.Directive.Allowance
import SourceLint.Proofs.Source.Positions
import SourceLint.Proofs.Syntax.Stretches
import SourceLint.Proofs.Text.Splitting

/-!
# Reading directives

A line is searched for its first two slashes, and what comes behind them is read as a directive.  Whether a
rule is allowed to be broken on a line depends on the directives of this line and of the one before it.

* **`Directive.words`**, **`Directive.ofComment?`** — a comment read as a directive.
* **`Directive.comment?_eq_some`**, **`Directive.comment?_isSome`** — the first two slashes of a line.
* **`Directive.ofLine?_of_lines`** — the ends of lines do not matter.
* **`allowance_eq`** — which directives are consulted.
-/

namespace SourceLint

open SourceLint.Text SourceLint.Syntax

/-! ### Words -/

theorem Text.trim_concat {b : Char} (hb : isBlank b = true) (cs : List Char) :
    trim (cs ++ [b]) = trim cs := by
  have hend (ds : List Char) : trimEnd (ds ++ [b]) = trimEnd ds := by
    rw [trimEnd, trimEnd, List.reverse_append, List.reverse_singleton, List.singleton_append,
      List.dropWhile_cons_of_pos hb]
  rw [trim, trim, trimStart, trimStart, List.dropWhile_append]
  split
  · rename_i hempty
    rw [List.isEmpty_iff.1 hempty, List.dropWhile_cons_of_pos hb]
    rfl
  · exact hend _

namespace Directive

/-- The words of a comment: what follows its slashes, without the blanks around it. -/
def words (comment : List Char) : List Char :=
  trim (comment.dropWhile (· == '/'))

/-- The directive that some words are. -/
def ofWords? (words : List Char) : Option Directive := do
  let allow ← afterStart? keyword words
  let list ← afterStart? "allow(".toList (trim allow)
  let (list, rest) ← breakAt? ')' (trim list)
  let rules := names list
  if rules.isEmpty then none else some ⟨rules, reason? rest⟩

/-- The directive that a comment is. -/
def ofComment? (comment : List Char) : Option Directive :=
  ofWords? (words comment)

theorem ofLine?_eq (line : List Char) : ofLine? line = (comment? line).bind ofWords? :=
  rfl

theorem words_concat_return (comment : List Char) : words (comment ++ ['\r']) = words comment := by
  rw [words, words, List.dropWhile_append]
  split
  · rename_i hempty
    rw [List.isEmpty_iff.1 hempty]
    decide
  · exact trim_concat (by decide) _

/-! ### The first slashes of a line -/

theorem comment?_of_startsSlashes {line : List Char} (h : startsSlashes line = true) :
    comment? line = some (words line) := by
  obtain ⟨rest, rfl⟩ := startsSlashes_iff.1 h
  rfl

theorem comment?_cons {c : Char} {line : List Char} (h : startsSlashes (c :: line) = false) :
    comment? (c :: line) = comment? line := by
  rw [comment?.eq_def]
  split
  · rename_i heq
    rw [heq] at h
    cases h
  · rename_i heq
    cases heq
    rfl
  · rename_i heq
    cases heq

/-- The words of a line begin behind its first two slashes. -/
theorem comment?_eq_some {line w : List Char} (h : comment? line = some w) :
    ∃ j, startsSlashes (line.drop j) = true ∧ (∀ i < j, startsSlashes (line.drop i) = false) ∧
      w = words (line.drop j) := by
  induction line with
  | nil => cases h
  | cons c line ih =>
    cases hslashes : startsSlashes (c :: line) with
    | true =>
      rw [comment?_of_startsSlashes hslashes] at h
      exact ⟨0, hslashes, fun i hi => absurd hi (Nat.not_lt_zero i), (Option.some.inj h).symm⟩
    | false =>
      rw [comment?_cons hslashes] at h
      obtain ⟨j, hj, hfirst, hw⟩ := ih h
      refine ⟨j + 1, hj, fun i hi => ?_, hw⟩
      cases i with
      | zero => exact hslashes
      | succ i => exact hfirst i (by omega)

theorem comment?_isSome {line : List Char} {j : Nat} (h : startsSlashes (line.drop j) = true) :
    (comment? line).isSome = true := by
  induction line generalizing j with
  | nil =>
    rw [List.drop_nil] at h
    cases h
  | cons c line ih =>
    cases hslashes : startsSlashes (c :: line) with
    | true =>
      rw [comment?_of_startsSlashes hslashes]
      rfl
    | false =>
      rw [comment?_cons hslashes]
      cases j with
      | zero =>
        rw [List.drop_zero, hslashes] at h
        cases h
      | succ j => exact ih h

/-- A carriage return at the end of a line is no part of a directive. -/
theorem comment?_concat_return (line : List Char) : comment? (line ++ ['\r']) = comment? line := by
  induction line with
  | nil => rfl
  | cons c line ih =>
    have hslashes : startsSlashes (c :: line ++ ['\r']) = startsSlashes (c :: line) := by
      rw [Bool.eq_iff_iff, startsSlashes_iff, startsSlashes_iff]
      cases line with
      | nil => simp
      | cons d line => simp
    cases h : startsSlashes (c :: line) with
    | true => rw [comment?_of_startsSlashes h, comment?_of_startsSlashes (hslashes.trans h), words_concat_return]
    | false =>
      rw [comment?_cons h, ← ih]
      exact comment?_cons (hslashes.trans h)

theorem ofLine?_dropReturn (line : List Char) : ofLine? (dropReturn line) = ofLine? line := by
  rw [dropReturn]
  split
  · rename_i hlast
    have hline := List.dropLast_append_getLast? _ hlast
    rw [ofLine?_eq, ofLine?_eq]
    nth_rewrite 2 [← hline]
    rw [comment?_concat_return]
  · rfl

end Directive

/-! ### Lines -/

/-- The pieces between line feeds are found from the beginnings of lines. -/
theorem splitOn_getElem? (text : List Char) (k : Nat) :
    (splitOn '\n' text)[k]? = (fromLine? k text).map (·.takeWhile (· != '\n')) := by
  induction text generalizing k with
  | nil =>
    cases k with
    | zero => rfl
    | succ k => rfl
  | cons c text ih =>
    by_cases hc : c = '\n'
    · have hfeed : splitOn '\n' (c :: text) = [] :: splitOn '\n' text := by
        rw [hc]
        exact splitOn_append_cons '\n' [] text
      rw [hfeed, hc]
      cases k with
      | zero => rfl
      | succ k =>
        rw [List.getElem?_cons_succ, ih, fromLine?, if_pos rfl]
    · obtain ⟨piece, pieces, hpieces, hcons⟩ := splitOn_cons_of_ne hc text
      rw [hcons]
      cases k with
      | zero =>
        have hfirst := ih 0
        rw [hpieces, fromLine?_zero] at hfirst
        rw [fromLine?_zero, Option.map_some, List.takeWhile_cons_of_pos (by simpa using hc)]
        exact congrArg (Option.map (c :: ·)) hfirst
      | succ k =>
        have hlater := ih (k + 1)
        rw [hpieces] at hlater
        rw [fromLine?, if_neg hc, ← hlater]
        rfl

theorem linesOfPieces_bind_ofLine? (pieces : List (List Char)) (k : Nat) :
    (linesOfPieces pieces)[k]?.bind Directive.ofLine? = pieces[k]?.bind Directive.ofLine? := by
  fun_induction linesOfPieces pieces generalizing k with
  | case1 => rfl
  | case2 last hempty =>
    obtain rfl := List.isEmpty_iff.1 hempty
    cases k with
    | zero => rfl
    | succ k => rfl
  | case3 last hempty => rfl
  | case4 piece pieces hne ih =>
    cases k with
    | zero => exact Directive.ofLine?_dropReturn piece
    | succ k => exact ih k

/-- **The directive of a line** is that of the text from its beginning to the next line feed. -/
theorem Directive.ofLine?_of_lines (text : List Char) (k : Nat) :
    (lines text)[k]?.bind ofLine? =
      (fromLine? k text).bind fun rest => ofLine? (rest.takeWhile (· != '\n')) := by
  rw [lines, linesOfPieces_bind_ofLine?, splitOn_getElem?, Option.bind_map]
  rfl

/-! ### Directives about a line -/

/-- What the first of the directives that is about the rule says. -/
def allowanceOf (rule : String) (directives : List Directive) : Allowance :=
  match directives.find? (·.covers rule) with
  | some d => .allowed d.reason
  | none => .denied

/-- The line with a number, counted from one. -/
def line? (text : List Char) : Nat → Option (List Char)
  | 0 => none
  | k + 1 => (lines text)[k]?

theorem allowanceIn_eq (rule : String) (ls : List (List Char)) :
    allowanceIn rule ls = allowanceOf rule (ls.filterMap Directive.ofLine?) := by
  induction ls with
  | nil => rfl
  | cons line rest ih =>
    rw [allowanceIn, List.filterMap_cons]
    cases Directive.ofLine? line with
    | none => exact ih
    | some d =>
      dsimp only
      rw [allowanceOf, List.find?_cons]
      cases d.covers rule with
      | true => rfl
      | false => exact ih

theorem linesAbout_eq (text : List Char) (n : Nat) : linesAbout text n = [n - 1, n].filterMap (line? text) := by
  have htake (i : Nat) : ((lines text).drop i).take 1 = (lines text)[i]?.toList := by
    rw [List.take_one, List.head?_drop]
  have hpair : [n - 1, n].filterMap (line? text) = (line? text (n - 1)).toList ++ (line? text n).toList := by
    rw [List.filterMap_cons, List.filterMap_cons, List.filterMap_nil]
    cases line? text (n - 1) with
    | none => cases line? text n <;> rfl
    | some l => cases line? text n <;> rfl
  rw [hpair]
  match n with
  | 0 => rfl
  | 1 => exact htake 0
  | k + 2 =>
    have hfirst : max (k + 2 - 1) 1 - 1 = k := by omega
    have hcount : k + 2 + 1 - max (k + 2 - 1) 1 = 1 + 1 := by omega
    show ((lines text).drop (max (k + 2 - 1) 1 - 1)).take (k + 2 + 1 - max (k + 2 - 1) 1) = _
    rw [hfirst, hcount, List.take_add, List.drop_drop, htake, htake]
    rfl

/-- **The directives of a line and of the one before it are consulted**, in this order. -/
theorem allowance_eq (text : List Char) (n : Nat) (rule : String) :
    allowance text n rule =
      allowanceOf rule ([n - 1, n].filterMap fun m => (line? text m).bind Directive.ofLine?) := by
  rw [allowance, allowanceIn_eq, linesAbout_eq, List.filterMap_filterMap]

end SourceLint
