import SourceLint.Proofs.Directive.Reading

/-!
# Files behind a byte order mark

A byte order mark in front of a text takes part in no line that matters: the tree, the lines and the
columns stay, and every offset grows by the three bytes of the mark.  That has to hold at four places, of
which each looks for the mark by itself or does not know of it: parsing, the offset of a position, its
clamping before the first and behind the last line, and the comments of a line.

* **`allowance_mark`** — a mark changes nothing about what comments allow.
* **`byteOffset_mark`** — the offset of a position behind a mark.
* **`SourceFile.MovedBy`** — a file has the text of another one behind a prefix that is none of its lines.
* **`SourceFile.marked`** — the file with a mark; `SourceFile.movedBy_marked` says that it is one of these.
-/

namespace SourceLint

open SourceLint.Text SourceLint.Syntax

/-! ### Comments behind a mark -/

/-- No directive begins with a mark, so one that follows it is found as before. -/
theorem Directive.ofLine?_mark (line : List Char) :
    Directive.ofLine? (byteOrderMark :: line) = Directive.ofLine? line := by
  have hcomment : Directive.comment? (byteOrderMark :: line) = Directive.comment? line := by
    rw [byteOrderMark, Directive.comment?]
    simp
  rw [Directive.ofLine?, hcomment, Directive.ofLine?]

/-- **A mark changes nothing about what comments allow.** -/
theorem allowance_mark (text : List Char) (line : Nat) (rule : String) :
    allowance (byteOrderMark :: text) line rule = allowance text line rule := by
  have hread (k : Nat) : (lines (byteOrderMark :: text))[k]?.bind Directive.ofLine? =
      (lines text)[k]?.bind Directive.ofLine? := by
    rw [Directive.ofLine?_of_lines, Directive.ofLine?_of_lines]
    cases k with
    | zero =>
      rw [fromLine?_zero, fromLine?_zero, Option.bind_some, Option.bind_some,
        List.takeWhile_cons_of_pos (by decide), Directive.ofLine?_mark]
    | succ k => rw [fromLine?, if_neg (by decide)]
  have hline (n : Nat) : (line? (byteOrderMark :: text) n).bind Directive.ofLine? =
      (line? text n).bind Directive.ofLine? := by
    cases n with
    | zero => rfl
    | succ k => exact hread k
  simp only [allowance_eq, hline]

/-! ### Offsets behind a mark -/

theorem byteLength_mark : byteLength [byteOrderMark] = 3 := by decide

/-- **The offset of a position grows by the bytes of the mark**, also where the position is moved to the
beginning or to the end of the text. -/
theorem byteOffset_mark {text : List Char} (hmark : hasMark text = false) (p : Position) :
    byteOffset (byteOrderMark :: text) p = 3 + byteOffset text p := by
  have hlength : byteLength (byteOrderMark :: text) = 3 + byteLength text :=
    (byteLength_append [byteOrderMark] text).trans (by rw [byteLength_mark])
  obtain ⟨line, column⟩ := p
  cases line with
  | zero =>
    have hmarked : markLength (byteOrderMark :: text) = 3 := by simp [markLength, hasMark]
    have hplain : markLength text = 0 := by simp [markLength, hmark]
    rw [byteOffset, byteOffset, hmarked, hplain]
  | succ line =>
    rw [byteOffset, byteOffset, dropMark_mark, dropMark_of_not_hasMark hmark]
    cases h : fromLine? line text with
    | none => exact hlength
    | some rest =>
      have hrest : byteLength rest ≤ byteLength text := by
        obtain ⟨before, hbefore⟩ := fromLine?_suffix h
        rw [← hbefore, byteLength_append]
        omega
      simp only [hlength]
      omega

/-! ### Files behind a prefix -/

/-- The stretch that comes the given number of bytes later, at the same line and column. -/
def Location.moveBy (n : Nat) (l : Location) : Location :=
  { l with offset := n + l.offset }

@[simp] theorem Location.offset_moveBy (n : Nat) (l : Location) :
    (l.moveBy n).offset = n + l.offset :=
  rfl

@[simp] theorem Location.stop_moveBy (n : Nat) (l : Location) : (l.moveBy n).stop = n + l.stop :=
  Nat.add_assoc n l.offset l.length

namespace SourceFile

/-- The second file has the text of the first one behind a prefix, and this is all that is different:
positions mean the same characters, and comments allow the same. -/
structure MovedBy (before : List Char) (source moved : SourceFile) : Prop where
  path : moved.path = source.path
  tree : moved.tree = source.tree
  text : moved.text = before ++ source.text
  offset : ∀ p, moved.offset p = byteLength before + source.offset p
  allowance : ∀ line rule, allowance moved.text line rule = allowance source.text line rule

/-- A stretch between two positions moves with the text. -/
theorem MovedBy.location {before : List Char} {source moved : SourceFile}
    (h : MovedBy before source moved) (s : Span) :
    moved.location s = (source.location s).moveBy (byteLength before) := by
  have hstop : max (byteLength before + source.offset s.stop) (byteLength before + source.offset s.start) =
      byteLength before + max (source.offset s.stop) (source.offset s.start) :=
    Nat.add_max_add_left _ _ _
  simp only [SourceFile.location, Location.moveBy, h.path, h.offset, hstop, Nat.add_sub_add_left]

/-! ### Parsing -/

/-- A text is parsed into the file that holds it. -/
theorem parse_eq_ok_iff {path : String} {text : List Char} {source : SourceFile} :
    parse path text = .ok source ↔ source.path = path ∧ source.text = text := by
  constructor
  · intro h
    rw [parse] at h
    split at h
    · cases h
      exact ⟨rfl, rfl⟩
    · cases h
  · rintro ⟨rfl, rfl⟩
    rw [parse]
    split
    · rename_i tree htree
      have hsame : tree = source.tree := Except.ok.inj (htree.symm.trans source.parsed)
      subst hsame
      rfl
    · rename_i e he
      cases he.symm.trans source.parsed

theorem parse_eq_error_iff {path : String} {text : List Char} {err : SourceError} :
    parse path text = .error err ↔
      ∃ e, parseProgram text = .error e ∧ err = .unparsable path e := by
  rw [parse]
  split
  · rename_i tree htree
    simp [htree]
  · rename_i e he
    simp [he, eq_comm]

/-- The file with a byte order mark in front of its text. -/
def marked (source : SourceFile) (hmark : hasMark source.text = false) : SourceFile where
  path := source.path
  text := byteOrderMark :: source.text
  tree := source.tree
  parsed := (parseProgram_mark hmark).trans source.parsed

theorem movedBy_marked (source : SourceFile) (hmark : hasMark source.text = false) :
    MovedBy [byteOrderMark] source (source.marked hmark) where
  path := rfl
  tree := rfl
  text := rfl
  offset p := by
    rw [byteLength_mark]
    exact byteOffset_mark hmark p
  allowance := allowance_mark source.text

end SourceFile

end SourceLint
