import SourceLint.Files.PathName

/-!
# Patterns for the names of files

A pattern is a text in which some characters stand for others: `?` for any one byte and `*` for any
number of bytes, slashes apart; `**` for any number of directories; `[…]` for one of some bytes; `{…}`
for one of some patterns.  A backslash takes its meaning from the character after it.

* **`Part`** — what a pattern is made of.
* **`patternOf`** — the parts of a text, or why it is no pattern.
* **`rests`** — what may be left of a name after a pattern was found at its beginning.
* **`isMatch`** — a pattern describes a name as a whole.

Matching keeps a set of rests, of which there are no more than ends of the name, so that it takes no
more steps for a pattern with many stars.
-/

namespace SourceLint.Files

/-- What a pattern is made of. -/
inductive Part where
  /-- These bytes. -/
  | bytes (values : List UInt8)
  /-- Any byte but a slash. -/
  | one
  /-- Any number of bytes, none a slash. -/
  | many
  /-- Any number of directories at the beginning of a name. -/
  | leading
  /-- Everything below a directory. -/
  | trailing
  /-- A slash, or any number of directories between two slashes. -/
  | between
  /-- A byte in one of some ranges, or in none of them. -/
  | oneOf (isNegated : Bool) (ranges : List (UInt8 × UInt8))
  /-- One of some lists of parts. -/
  | alternatives (branches : List (List Part))
deriving Inhabited

/-- Why a text is no pattern. -/
inductive PatternError where
  /-- A bracket is left open. -/
  | unclosedClass
  /-- The first character of a range comes after the last one. -/
  | invalidRange (first last : Char)
  /-- A brace is closed that was not opened. -/
  | unopenedAlternates
  /-- A brace is left open. -/
  | unclosedAlternates
  /-- There is no character after a backslash. -/
  | danglingEscape
deriving DecidableEq, Repr, Inhabited

/-- The wording of the error. -/
def PatternError.message : PatternError → String
  | unclosedClass => "unclosed character class; missing ']'"
  | invalidRange first last => s!"invalid range; '{first}' > '{last}'"
  | unopenedAlternates =>
    "unopened alternate group; missing '\x7b' (maybe escape '\x7d' with '[\x7d]'?)"
  | unclosedAlternates =>
    "unclosed alternate group; missing '\x7d' (maybe escape '\x7b' with '[\x7b]'?)"
  | danglingEscape => "dangling '\\'"

/-! ### Classes of bytes -/

/-- The part of a class that was read. -/
structure ClassDraft where
  /-- Ranges of characters, the last one first. -/
  ranges : List (Char × Char)
  /-- A dash was read after a character. -/
  inRange : Bool

namespace ClassDraft

/-- The class with the end of its last range set. -/
def closeRange (d : ClassDraft) (last : Char) : Except PatternError ClassDraft :=
  match d.ranges with
  | [] => .ok d
  | (first, _) :: rest =>
    if last < first then .error (.invalidRange first last)
    else .ok ⟨(first, last) :: rest, false⟩

/-- The class with one more character; a dash between two characters makes a range of them. -/
def add (d : ClassDraft) (c : Char) : Except PatternError ClassDraft :=
  if d.inRange then d.closeRange c
  else if c = '-' && !d.ranges.isEmpty then .ok { d with inRange := true }
  else .ok { d with ranges := (c, c) :: d.ranges }

/-- The ranges of a class; a dash at its end stands for itself. -/
def finish (d : ClassDraft) : List (Char × Char) :=
  (if d.inRange then ('-', '-') :: d.ranges else d.ranges).reverse

/-- The ranges of a class and the text after it, if the class is closed. -/
def read (d : ClassDraft) : List Char → Except PatternError (Option (List (Char × Char) × List Char))
  | [] => .ok none
  | c :: cs =>
    if c = ']' && !d.ranges.isEmpty then .ok (some (d.finish, cs))
    else do (← d.add c).read cs

end ClassDraft

/-- The bytes of a character. -/
def bytesOf (c : Char) : List UInt8 :=
  String.utf8EncodeChar c

/-- The ranges of bytes for a range of characters: only the last byte of the first character and the
first byte of the last one are its ends, and their other bytes stand alone. -/
def byteRanges (range : Char × Char) : List (UInt8 × UInt8) :=
  if range.1 = range.2 then (bytesOf range.1).map fun b => (b, b)
  else
    let firsts := bytesOf range.1
    let lasts := bytesOf range.2
    (firsts.dropLast.map fun b => (b, b)) ++
      [(firsts.getLast?.getD 0, lasts.head?.getD 0)] ++ (lasts.tail.map fun b => (b, b))

/-- The class that begins with the text has all bytes but the named ones. -/
def isNegatedClass (cs : List Char) : Bool :=
  cs.head? = some '!' || cs.head? = some '^'

/-- The part for a class that begins after a bracket, and the text after the class. -/
def readClass (cs : List Char) : Except PatternError (Option (Part × List Char)) :=
  let isNegated := isNegatedClass cs
  match ClassDraft.read ⟨[], false⟩ (if isNegated then cs.tail else cs) with
  | .error e => .error e
  | .ok none => .ok none
  | .ok (some (ranges, rest)) => .ok (some (.oneOf isNegated (ranges.flatMap byteRanges), rest))

theorem ClassDraft.length_of_read {d : ClassDraft} {cs rest : List Char} {ranges : List (Char × Char)}
    (h : d.read cs = .ok (some (ranges, rest))) : rest.length < cs.length := by
  induction cs generalizing d with
  | nil => simp [ClassDraft.read] at h
  | cons c cs ih =>
    rw [ClassDraft.read] at h
    split at h
    · simp only [Except.ok.injEq, Option.some.injEq, Prod.mk.injEq] at h
      simp [h.2]
    · cases hd : d.add c with
      | error e => simp [hd, bind, Except.bind] at h
      | ok d' =>
        have := ih (d := d') (by simpa [hd, bind, Except.bind] using h)
        simp
        omega

theorem length_of_readClass {cs rest : List Char} {part : Part}
    (h : readClass cs = .ok (some (part, rest))) : rest.length < cs.length := by
  rw [readClass] at h
  split at h
  · simp at h
  · simp at h
  · next hr =>
    simp only [Except.ok.injEq, Option.some.injEq, Prod.mk.injEq] at h
    have := ClassDraft.length_of_read hr
    rw [← h.2]
    split at this
    · simp at this
      omega
    · exact this

/-! ### Reading patterns -/

/-- What was read of a pattern. -/
structure Draft where
  /-- The character before the next one. -/
  previous : Option Char
  /-- The parts of the innermost alternative, the last one first. -/
  parts : List Part
  /-- The braces that are open, the innermost first: the finished alternatives, the last one first, and
  what stands before the brace. -/
  groups : List (List (List Part) × List Part)
  /-- Brackets stand for themselves because one of them was left open. -/
  hasLiteralBrackets : Bool

namespace Draft

/-- Nothing was read. -/
def empty : Draft := ⟨none, [], [], false⟩

/-- The draft with one more part, which ends with the given character. -/
def push (d : Draft) (part : Part) (last : Char) : Draft :=
  { d with parts := part :: d.parts, previous := some last }

/-- The draft with a character that stands for itself. -/
def literal (d : Draft) (c : Char) : Draft :=
  d.push (.bytes (bytesOf c)) c

/-- The draft with two stars that have no meaning of their own. -/
def twoStars (d : Draft) : Draft :=
  (d.push .many '*').push .many '*'

/-- The draft with its last part, if it does not stand for directories already, replaced. -/
def replaceLast (d : Draft) (part : Part) (last : Char) : Draft :=
  match d.parts with
  | .leading :: _ | .trailing :: _ => { d with previous := some last }
  | _ :: before => { d with parts := part :: before, previous := some last }
  | [] => d.push part last

/-- The draft after two stars, and whether the slash after them belongs to them. -/
def stars (d : Draft) (next : Option Char) : Draft × Bool :=
  let isInGroup := !d.groups.isEmpty
  if d.parts.isEmpty then
    match next with
    | none => (d.push .leading '*', false)
    | some '/' => (d.push .leading '/', true)
    | some _ => (d.twoStars, false)
  else if d.previous != some '/' &&
      !(isInGroup && (d.previous = some ',' || d.previous = some '\x7b')) then
    (d.twoStars, false)
  else
    match next with
    | none => (d.replaceLast .trailing '*', false)
    | some '/' => (d.replaceLast .between '/', true)
    | some c =>
      if isInGroup && (c = ',' || c = '\x7d') then (d.replaceLast .trailing '*', false)
      else (d.twoStars, false)

/-- The draft with a brace opened. -/
def openGroup (d : Draft) : Draft :=
  { d with parts := [], groups := ([], d.parts) :: d.groups, previous := some '\x7b' }

/-- The draft after a comma, which begins another alternative inside braces. -/
def comma (d : Draft) : Draft :=
  match d.groups with
  | [] => d.literal ','
  | (finished, before) :: outer =>
    { d with parts := [], groups := (d.parts.reverse :: finished, before) :: outer, previous := some ',' }

/-- The draft with a brace closed. -/
def closeGroup (d : Draft) : Except PatternError Draft :=
  match d.groups with
  | [] => .error .unopenedAlternates
  | (finished, before) :: outer =>
    let branches := (d.parts.reverse :: finished).reverse
    .ok { d with parts := .alternatives branches :: before, groups := outer, previous := some '\x7d' }

/-- The parts of the pattern. -/
def finish (d : Draft) : Except PatternError (List Part) :=
  if d.groups.isEmpty then .ok d.parts.reverse else .error .unclosedAlternates

/-- The parts of a pattern of which the text is left to be read.  A bracket that is left open is an error
unless `isLenient`. -/
def read (isLenient : Bool) (d : Draft) (cs : List Char) : Except PatternError (List Part) :=
  match cs with
  | [] => d.finish
  | '?' :: rest => read isLenient (d.push .one '?') rest
  | '*' :: '*' :: rest =>
    let (d, takesSlash) := d.stars rest.head?
    read isLenient d (if takesSlash then rest.tail else rest)
  | '*' :: rest => read isLenient (d.push .many '*') rest
  | '[' :: rest =>
    if d.hasLiteralBrackets then read isLenient (d.literal '[') rest
    else
      match h : readClass rest with
      | .error e => .error e
      | .ok (some (part, after)) =>
        have := length_of_readClass h
        read isLenient (d.push part ']') after
      | .ok none =>
        if isLenient then read isLenient { d.literal '[' with hasLiteralBrackets := true } rest
        else .error .unclosedClass
  | '\x7b' :: rest => read isLenient d.openGroup rest
  | '\x7d' :: rest =>
    match d.closeGroup with
    | .ok d => read isLenient d rest
    | .error e => .error e
  | ',' :: rest => read isLenient d.comma rest
  | ['\\'] => .error .danglingEscape
  | '\\' :: c :: rest => read isLenient (d.literal c) rest
  | c :: rest => read isLenient (d.literal c) rest
termination_by cs.length
decreasing_by
  all_goals simp_wf
  all_goals try split
  all_goals try simp
  all_goals omega

end Draft

/-- The parts of a pattern.  A bracket that is left open is an error unless `isLenient`. -/
def patternOf (isLenient : Bool) (text : List Char) : Except PatternError (List Part) :=
  Draft.empty.read isLenient text

/-! ### Matching -/

/-- The byte of a slash. -/
def slash : UInt8 := 47

/-- All ends of a list of bytes. -/
def ends : List UInt8 → List (List UInt8)
  | [] => [[]]
  | b :: bs => (b :: bs) :: ends bs

/-- What follows the slashes in a list of bytes. -/
def afterSlashes : List UInt8 → List (List UInt8)
  | [] => []
  | b :: bs => if b = slash then bs :: afterSlashes bs else afterSlashes bs

/-- The ends of a list of bytes from its beginning up to the first slash. -/
def endsBeforeSlash : List UInt8 → List (List UInt8)
  | [] => [[]]
  | b :: bs => if b = slash then [b :: bs] else (b :: bs) :: endsBeforeSlash bs

/-- The rest after the given bytes, if the list begins with them. -/
def afterBytes : List UInt8 → List UInt8 → List (List UInt8)
  | [], s => [s]
  | _ :: _, [] => []
  | v :: vs, b :: bs => if v = b then afterBytes vs bs else []

/-- The rest after one byte with a property. -/
def afterOne (p : UInt8 → Bool) : List UInt8 → List (List UInt8)
  | [] => []
  | b :: bs => if p b then [bs] else []

mutual

/-- The parts are nothing but alternatives without parts. -/
def isBlankBranch : List Part → Bool
  | [] => true
  | .alternatives branches :: parts => areBlankBranches branches && isBlankBranch parts
  | _ :: _ => false

/-- No branch has a part. -/
def areBlankBranches : List (List Part) → Bool
  | [] => true
  | b :: bs => isBlankBranch b && areBlankBranches bs

end

mutual

/-- What may be left of a name after a part. -/
def Part.rests (s : List UInt8) : Part → List (List UInt8)
  | .bytes values => afterBytes values s
  | .one => afterOne (· != slash) s
  | .many => endsBeforeSlash s
  | .leading => s :: afterSlashes s
  | .trailing => (afterOne (· == slash) s).flatMap ends
  | .between => (afterOne (· == slash) s).flatMap fun r => r :: afterSlashes r
  | .oneOf isNegated ranges =>
    afterOne (fun b => (ranges.any fun r => r.1 ≤ b && b ≤ r.2) != isNegated) s
  | .alternatives branches =>
    if areBlankBranches branches then [s] else branchRests [s] branches

/-- What may be left of some names after a list of parts. -/
def rests (ss : List (List UInt8)) : List Part → List (List UInt8)
  | [] => ss
  | part :: parts => rests (ss.flatMap part.rests).eraseDups parts

/-- What may be left of some names after one of some lists of parts; those without parts do not
count. -/
def branchRests (ss : List (List UInt8)) : List (List Part) → List (List UInt8)
  | [] => []
  | b :: bs => (if isBlankBranch b then [] else rests ss b) ++ branchRests ss bs

end

/-- The pattern describes the name as a whole; `**` alone describes every name. -/
def isMatch (pattern : List Part) (name : String) : Bool :=
  match pattern with
  | [.leading] => true
  | _ => (rests [PathName.bytes name] pattern).any List.isEmpty

end SourceLint.Files
