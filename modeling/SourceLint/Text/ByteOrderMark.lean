import SourceLint.Text.Utf8

/-!
# The byte order mark

A text may begin with a mark that says how it is encoded and that belongs to no line.

* **`hasMark`** — a text begins with the mark.
* **`dropMark`** — the text after the mark, if it has one.
* **`markLength`** — the number of bytes of the mark of a text.
-/

namespace SourceLint.Text

/-- The character that a byte order mark is. -/
def byteOrderMark : Char := '\ufeff'

/-- Whether the text begins with a byte order mark. -/
def hasMark : List Char → Bool
  | c :: _ => c == byteOrderMark
  | [] => false

/-- The text without the byte order mark at its beginning. -/
def dropMark (cs : List Char) : List Char :=
  if hasMark cs then cs.drop 1 else cs

/-- The number of bytes that come before the first line of the text. -/
def markLength (cs : List Char) : Nat :=
  if hasMark cs then 3 else 0

theorem dropMark_mark (cs : List Char) : dropMark (byteOrderMark :: cs) = cs := by
  simp [dropMark, hasMark]

theorem dropMark_of_not_hasMark {cs : List Char} (h : hasMark cs = false) : dropMark cs = cs := by
  simp [dropMark, h]

/-- The mark and what follows it make up the text. -/
theorem markLength_add_byteLength_dropMark (cs : List Char) :
    markLength cs + byteLength (dropMark cs) = byteLength cs := by
  cases cs with
  | nil => rfl
  | cons c cs =>
    by_cases h : c = byteOrderMark
    · subst h
      have : byteOrderMark.utf8Size = 3 := by decide
      simp [markLength, dropMark, hasMark, this]
    · simp [markLength, dropMark, hasMark, h]

end SourceLint.Text
