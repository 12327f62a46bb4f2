import SourceLint.Source.Position

/-!
# Tokens of Rust source text

The text of a program is first read as a forest of tokens, in which every bracketed stretch is one
tree.  The grammar works on these trees.

* **`Token`** — a word (an identifier or a keyword; a raw identifier keeps its `r#`), a lifetime, one
  punctuation character with the information whether another follows at once, or a literal.
* **`TokenTree`** — a token, or a bracketed group with the trees inside it.
-/

namespace SourceLint.Syntax

/-- The three kinds of brackets. -/
inductive Delimiter where
  | parenthesis
  | bracket
  | brace
deriving DecidableEq, Repr, Inhabited

/-- The character that closes a group. -/
def Delimiter.closer : Delimiter → Char
  | .parenthesis => ')'
  | .bracket => ']'
  | .brace => '}'

/-- The kinds of literals. -/
inductive LiteralKind where
  | string
  | byteString
  | cString
  | byte
  | character
  | float
  | integer
  /-- What stands for a literal that could not be read. -/
  | unreadable
deriving DecidableEq, Repr, Inhabited

/-- A token other than a bracket. -/
inductive Token where
  /-- An identifier or a keyword. -/
  | word (name : String)
  /-- A name after an apostrophe. -/
  | lifetime (name : String)
  /-- A punctuation character; `joint` when another one follows at once. -/
  | punct (symbol : Char) (joint : Bool)
  /-- A literal as it is written. -/
  | literal (kind : LiteralKind) (text : String)
deriving DecidableEq, Repr, Inhabited

/-- A token or a bracketed group. -/
inductive TokenTree where
  /-- A single token. -/
  | token (token : Token) (span : Span)
  /-- A group; `span` includes the brackets, `close` is the place of the closing one. -/
  | group (delimiter : Delimiter) (span : Span) (close : Position) (inner : List TokenTree)
deriving Repr, Inhabited

namespace TokenTree

/-- The stretch of text that the tree covers. -/
def span : TokenTree → Span
  | token _ s => s
  | group _ s _ _ => s

mutual

/-- The number of tokens and groups in the tree. -/
def size : TokenTree → Nat
  | token _ _ => 1
  | group _ _ _ inner => 1 + sizeAll inner

/-- The number of tokens and groups in a forest. -/
def sizeAll : List TokenTree → Nat
  | [] => 0
  | t :: ts => t.size + sizeAll ts

end

end TokenTree

end SourceLint.Syntax
