import SourceLint.Syntax.Token
import SourceLint.Syntax.Token.Literal
import SourceLint.Text.Blank

/-!
# From text to token trees

A text is cut into pieces, each recognised by its length at the place where it begins; blanks and
ordinary comments are dropped, a documentation comment becomes the attribute that it abbreviates.
Brackets are then matched up into groups.

* **`piece`** — what stands at the beginning of a text, and its length.
* **`lexemes`** — the lexemes of a text with their places, up to the first place where none begins.
* **`matchGroups`** — the forest of a list of lexemes.
* **`tokenTrees`** — the forest of a text, or the place that keeps it from having one: a piece that is
  no token, a closing bracket that does not fit, or the last bracket left open.
-/

namespace SourceLint.Syntax

open SourceLint.Text Literal

/-- What a stretch of text is. -/
inductive Piece where
  /-- Blanks and comments, which are dropped. -/
  | blank
  /-- A documentation comment; `inner` when it documents what encloses it. -/
  | documentation (inner : Bool) (comment : List Char)
  /-- An opening bracket. -/
  | opening (delimiter : Delimiter)
  /-- A closing bracket. -/
  | closing (delimiter : Delimiter)
  /-- A token. -/
  | token (token : Token)

/-- Whether the character separates tokens: a blank, or one of the two direction marks. -/
def isSeparator (c : Char) : Bool :=
  isBlank c || c == '\u200e' || c == '\u200f'

/-- The characters of punctuation. -/
def isPunctuation (c : Char) : Bool :=
  ['~', '!', '@', '#', '$', '%', '^', '&', '*', '-', '=', '+', '|', ';', ':', ',', '<', '.', '>',
    '/', '?', '\''].contains c

/-- Whether a comment begins here. -/
def startsComment : List Char → Bool
  | '/' :: '/' :: _ => true
  | '/' :: '*' :: _ => true
  | _ => false

/-- Whether punctuation that belongs to no comment begins here. -/
def startsPunctuation : List Char → Bool
  | [] => false
  | c :: cs => isPunctuation c && !startsComment (c :: cs)

/-- Whether the text has a carriage return that no line feed follows. -/
def hasBareReturn : List Char → Bool
  | [] => false
  | c :: cs => (c == '\r' && cs.head? != some '\n') || hasBareReturn cs

/-- A documentation comment of the given length, of which `front` characters open it and `back`
characters close it. -/
def documentationPiece (inner : Bool) (front back length : Nat) (cs : List Char) :
    Option (Piece × Nat) :=
  let comment := (cs.drop front).take (length - front - back)
  if hasBareReturn comment then none else some (.documentation inner comment, length)

/-- The comment at the beginning of the text, which is known to begin with one. -/
def commentPiece : List Char → Option (Piece × Nat)
  | cs@('/' :: '/' :: rest) =>
    let length := lineCommentLength cs
    -- A carriage return before the line feed belongs to the comment's place, not to its words.
    let ending := if (cs.take length).getLast? == some '\r' && length < cs.length then 1 else 0
    match rest with
    | '!' :: _ => documentationPiece true 3 ending length cs
    | '/' :: '/' :: _ => some (.blank, length)
    | '/' :: _ => documentationPiece false 3 ending length cs
    | _ => some (.blank, length)
  | cs@('/' :: '*' :: rest) =>
    match rest with
    | '*' :: '/' :: _ => some (.blank, 4)
    | _ => do
      let length ← blockCommentLength cs
      match rest with
      | '!' :: _ => documentationPiece true 3 2 length cs
      | '*' :: '*' :: _ => some (.blank, length)
      | '*' :: _ => documentationPiece false 3 2 length cs
      | _ => some (.blank, length)
  | _ => none

/-- The first answer among the readings of a literal, each with its kind. -/
def firstLiteral (cs : List Char) : List (LiteralKind × Option Nat) → Option (Piece × Nat)
  | [] => none
  | (kind, some n) :: _ => some (.token (.literal kind (String.ofList (cs.take n))), n)
  | (_, none) :: rest => firstLiteral cs rest

/-- The literal at the beginning of the text. -/
def literalPiece (cs : List Char) : Option (Piece × Nat) :=
  firstLiteral cs <|
    match cs with
    | '"' :: body => [(.string, (quotedLength .string body).map (· + 1))]
    | 'r' :: body => [(.string, (rawQuotedLength .string body).map (· + 1))]
    | 'b' :: '"' :: body => [(.byteString, (quotedLength .bytes body).map (· + 2))]
    | 'b' :: 'r' :: body => [(.byteString, (rawQuotedLength .bytes body).map (· + 2))]
    | 'b' :: '\'' :: body => [(.byte, (characterLength .bytes body).map (· + 2))]
    | 'c' :: '"' :: body => [(.cString, (quotedLength .terminated body).map (· + 2))]
    | 'c' :: 'r' :: body => [(.cString, (rawQuotedLength .terminated body).map (· + 2))]
    | '\'' :: body => [(.character, (characterLength .string body).map (· + 1))]
    | _ => [(.float, floatLength cs), (.integer, integerLength cs)]

/-- The length of an identifier, its raw mark included.  The words that name places in paths have
no raw form, and neither has the underscore. -/
def identifierLength (cs : List Char) : Option Nat := do
  let mark := rawMarkLength cs
  let n ← wordLength (cs.drop mark)
  let name := String.ofList ((cs.drop mark).take n)
  if mark != 0 && ["_", "super", "self", "Self", "crate"].contains name then none
  else some (mark + n)

/-- The beginnings of quoted literals, which no identifier may have. -/
def literalPrefixes : List String :=
  ["r\"", "r#\"", "r##", "b\"", "b'", "br\"", "br#", "c\"", "cr\"", "cr#"]

/-- Whether a quoted literal begins here, or would begin if it were well formed. -/
def startsQuotedLiteral (cs : List Char) : Bool :=
  literalPrefixes.any fun start => start.toList.isPrefixOf cs

/-- The lifetime whose apostrophe precedes the text, if one stands there: a name that no further
apostrophe turns into a character.  Where the name is the beginning of a quoted literal, the apostrophe
stands on its own before that literal. -/
def lifetimePiece (cs : List Char) : Option (Piece × Nat) := do
  let n ← identifierLength cs
  let found := if startsQuotedLiteral cs then (.token (.punct '\'' true), 1)
    else (.token (.lifetime (String.ofList (cs.take n))), n + 1)
  match cs.drop n with
  | '\'' :: _ => none
  | '#' :: _ => if rawMarkLength cs = 0 then none else some found
  | _ => some found

/-- The identifier or keyword at the beginning of the text. -/
def wordPiece (cs : List Char) : Option (Piece × Nat) := do
  if startsQuotedLiteral cs then none
  let n ← identifierLength cs
  some (.token (.word (String.ofList (cs.take n))), n)

/-- The token at the beginning of the text, brackets apart. -/
def tokenPiece (cs : List Char) : Option (Piece × Nat) :=
  match literalPiece cs with
  | some p => some p
  | none =>
    match cs with
    | '\'' :: rest => lifetimePiece rest
    | c :: rest =>
      if startsPunctuation cs then some (.token (.punct c (startsPunctuation rest)), 1)
      else wordPiece cs
    | [] => none

/-- The spelling of a literal that could not be read. -/
def unreadableLiteral : String :=
  "(/*ERROR*/)"

/-- What stands at the beginning of the text, and its length; `none` where nothing begins. -/
def piece (cs : List Char) : Option (Piece × Nat) :=
  match cs with
  | [] => none
  | '(' :: _ =>
    if unreadableLiteral.toList.isPrefixOf cs then
      some (.token (.literal .unreadable unreadableLiteral), unreadableLiteral.length)
    else some (.opening .parenthesis, 1)
  | '[' :: _ => some (.opening .bracket, 1)
  | '{' :: _ => some (.opening .brace, 1)
  | ')' :: _ => some (.closing .parenthesis, 1)
  | ']' :: _ => some (.closing .bracket, 1)
  | '}' :: _ => some (.closing .brace, 1)
  | c :: _ =>
    if isSeparator c then some (.blank, 1)
    else if startsComment cs then commentPiece cs
    else tokenPiece cs

/-- A token or a bracket with its place. -/
inductive Lexeme where
  | tree (tree : TokenTree)
  | opening (delimiter : Delimiter) (span : Span)
  | closing (delimiter : Delimiter) (span : Span)

/-- The attribute that a documentation comment abbreviates.  All of it stands where the comment
does. -/
def documentationLexemes (inner : Bool) (comment : List Char) (span : Span) : List Lexeme :=
  let mark (c : Char) : TokenTree := .token (.punct c false) span
  let content : List TokenTree :=
    [.token (.word "doc") span, mark '=', .token (.literal .string (String.ofList comment)) span]
  [.tree (mark '#')] ++ (if inner then [.tree (mark '!')] else []) ++
    [.tree (.group .bracket span span.start content)]

/-- The lexemes of one piece. -/
def Piece.lexemes (span : Span) : Piece → List Lexeme
  | .blank => []
  | .documentation inner comment => documentationLexemes inner comment span
  | .opening d => [.opening d span]
  | .closing d => [.closing d span]
  | .token t => [.tree (.token t span)]

/-- The lexemes of the text that begins at a place, and the first place where none begins.  Every
piece has at least one character, so that the length of the text suffices as `fuel`. -/
def lexemes : (fuel : Nat) → Position → List Char → List Lexeme × Option Position
  | _, _, [] => ([], none)
  | 0, place, _ :: _ => ([], some place)
  | fuel + 1, place, cs@(_ :: _) =>
    match piece cs with
    | none => ([], some place)
    | some (p, n) =>
      let after := place.advance (cs.take n)
      let (rest, stop) := lexemes fuel after (cs.drop n)
      (p.lexemes ⟨place, after⟩ ++ rest, stop)

/-- A bracket that waits for its counterpart: what precedes it, last tree first. -/
structure OpenGroup where
  delimiter : Delimiter
  span : Span
  before : List TokenTree

/-- Matches the brackets of a list of lexemes.  `pending` holds the brackets still open, innermost
first, and `done` the trees after the innermost one, last tree first; `stop` is the place where the
text ceases to have lexemes, if there is one. -/
def matchGroups (stop : Option Position) :
    List OpenGroup → List TokenTree → List Lexeme → Except Position (List TokenTree)
  | pending, done, [] =>
    match stop, pending with
    | some bad, _ => .error bad
    | none, group :: _ => .error group.span.start
    | none, [] => .ok done.reverse
  | pending, done, .tree t :: rest => matchGroups stop pending (t :: done) rest
  | pending, done, .opening d span :: rest => matchGroups stop (⟨d, span, done⟩ :: pending) [] rest
  | [], _, .closing _ span :: _ => .error span.start
  | group :: pending, done, .closing d span :: rest =>
    if group.delimiter = d then
      let tree := .group d ⟨group.span.start, span.stop⟩ span.start done.reverse
      matchGroups stop pending (tree :: group.before) rest
    else .error span.start

/-- The forest of the text that begins at a place, or the place that keeps it from having one. -/
def tokenTrees (place : Position) (cs : List Char) : Except Position (List TokenTree) :=
  let (found, stop) := lexemes cs.length place cs
  matchGroups stop [] [] found

end SourceLint.Syntax
