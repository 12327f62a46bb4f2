import Mathlib.Data.List.TakeWhile
import SourceLint.Proofs.Data.Steps
import SourceLint.Proofs.Source.Offset
import SourceLint.Syntax.Program

/-!
# The stretches of a text

The text of a program is cut into stretches, one behind the other: blanks, comments, brackets and tokens.
Where two slashes stand in a row there is a comment, or else they are part of a literal.

* **`Stretch`**, **`stretches`** — what the text is cut into, and where.
* **`stretches_cover`**, **`pairwise_stretches`** — there are no gaps and no overlaps;
  `lexemes_eq_flatMap` says that the tokens of the text are those of its stretches.
* **`isLiteral_or_startsComment_of_piece`** — where two slashes may stand in a row.
* **`codeOf`**, **`stretchesOf`** — the part of a program that is cut, and its stretches;
  `exists_stretch_of_parseProgram` says that they cover this part if the program can be parsed.
-/

namespace SourceLint.Syntax

open SourceLint.Text Literal

/-- Whether two slashes stand at the beginning of the text. -/
def startsSlashes : List Char → Bool
  | '/' :: '/' :: _ => true
  | _ => false

/-- Whether a block comment begins here, or would begin if it were closed. -/
def startsBlockComment : List Char → Bool
  | '/' :: '*' :: _ => true
  | _ => false

theorem startsSlashes_iff {cs : List Char} : startsSlashes cs = true ↔ ∃ rest, cs = '/' :: '/' :: rest := by
  rw [startsSlashes.eq_def]
  split
  · exact ⟨fun _ => ⟨_, rfl⟩, fun _ => rfl⟩
  · rename_i hne
    simp only [Bool.false_eq_true, false_iff]
    rintro ⟨rest, rfl⟩
    exact hne rest rfl

theorem lt_length_of_startsSlashes {cs : List Char} {i : Nat} (h : startsSlashes (cs.drop i) = true) :
    i < cs.length := by
  by_contra hle
  rw [List.drop_eq_nil_of_le (Nat.le_of_not_lt hle)] at h
  cases h

theorem startsSlashes_of_prefix {as bs : List Char} (h : as <+: bs) (hslashes : startsSlashes as = true) :
    startsSlashes bs = true := by
  obtain ⟨rest, rfl⟩ := startsSlashes_iff.1 hslashes
  obtain ⟨after, rfl⟩ := h
  rfl

theorem startsComment_iff {cs : List Char} :
    startsComment cs = true ↔ startsSlashes cs = true ∨ startsBlockComment cs = true := by
  rw [startsComment.eq_def]
  split
  · simp [startsSlashes]
  · simp [startsBlockComment]
  · rename_i hslashes hblock
    rw [startsSlashes.eq_def, startsBlockComment.eq_def]
    split
    · exact absurd rfl (hslashes _)
    · split
      · exact absurd rfl (hblock _)
      · simp

/-! ### What a text is cut into -/

/-- A stretch of a text that is one piece of it. -/
structure Stretch where
  /-- The number of characters before the stretch. -/
  start : Nat
  piece : Piece
  /-- The number of its characters. -/
  length : Nat

/-- The number of characters up to the end of the stretch. -/
def Stretch.stop (s : Stretch) : Nat :=
  s.start + s.length

/-- The characters of the stretch. -/
def Stretch.text (s : Stretch) (text : List Char) : List Char :=
  (text.drop s.start).take s.length

/-- Whether the stretch is a literal. -/
def Stretch.isLiteral (s : Stretch) : Bool :=
  match s.piece with
  | .token (.literal _ _) => true
  | _ => false

/-- The stretches of the text that the given number of characters precedes, up to the first place where none
begins. -/
def stretches : (fuel start : Nat) → List Char → List Stretch
  | _, _, [] => []
  | 0, _, _ :: _ => []
  | fuel + 1, start, cs@(_ :: _) =>
    match piece cs with
    | none => []
    | some (p, n) => ⟨start, p, n⟩ :: stretches fuel (start + n) (cs.drop n)

/-- A stretch begins where its piece does. -/
theorem piece_of_mem_stretches {text cs : List Char} {fuel start : Nat} (hcs : cs = text.drop start)
    {s : Stretch} (h : s ∈ stretches fuel start cs) :
    piece (text.drop s.start) = some (s.piece, s.length) := by
  fun_induction stretches fuel start cs with
  | case1 => cases h
  | case2 => cases h
  | case3 => cases h
  | case4 fuel start c cs p n hpiece ih =>
    rcases List.mem_cons.1 h with rfl | h
    · exact hcs ▸ hpiece
    · exact ih (by rw [hcs, List.drop_drop]) h

theorem start_le_of_mem_stretches {fuel start : Nat} {cs : List Char} {s : Stretch}
    (h : s ∈ stretches fuel start cs) : start ≤ s.start := by
  fun_induction stretches fuel start cs with
  | case1 => cases h
  | case2 => cases h
  | case3 => cases h
  | case4 fuel start c cs p n hpiece ih =>
    rcases List.mem_cons.1 h with rfl | h
    · exact Nat.le_refl _
    · exact Nat.le_of_add_right_le (ih h)

/-- **No two stretches overlap.** -/
theorem pairwise_stretches (fuel start : Nat) (cs : List Char) :
    (stretches fuel start cs).Pairwise fun s t => s.stop ≤ t.start := by
  fun_induction stretches fuel start cs with
  | case1 => exact List.Pairwise.nil
  | case2 => exact List.Pairwise.nil
  | case3 => exact List.Pairwise.nil
  | case4 fuel start c cs p n hpiece ih =>
    exact List.Pairwise.cons (fun t ht => start_le_of_mem_stretches ht) ih

/-- **There are no gaps between the stretches**, if lexemes are found up to the end of the text. -/
theorem stretches_cover {fuel : Nat} (start : Nat) {place : Position} {cs : List Char}
    (h : (lexemes fuel place cs).2 = none) {i : Nat} (hi : i < cs.length) :
    ∃ s ∈ stretches fuel start cs, s.start ≤ start + i ∧ start + i < s.stop := by
  fun_induction stretches fuel start cs generalizing place i with
  | case1 => cases hi
  | case2 => cases h
  | case3 fuel start c cs hpiece =>
    rw [lexemes, hpiece] at h
    cases h
  | case4 fuel start c cs p n hpiece ih =>
    rw [lexemes, hpiece] at h
    by_cases hin : i < n
    · exact ⟨⟨start, p, n⟩, List.mem_cons_self, Nat.le_add_right _ _, Nat.add_lt_add_left hin start⟩
    · have hlength : i - n < ((c :: cs).drop n).length := by
        rw [List.length_drop]
        omega
      obtain ⟨s, hs, hle, hlt⟩ := ih h hlength
      exact ⟨s, List.mem_cons_of_mem _ hs, by omega, by omega⟩

/-- **The lexemes of a text are those of its stretches**, each at its place. -/
theorem lexemes_eq_flatMap (fuel start : Nat) (place : Position) (cs : List Char) :
    (lexemes fuel place cs).1 = (stretches fuel start cs).flatMap fun s =>
      s.piece.lexemes ⟨place.advance (cs.take (s.start - start)), place.advance (cs.take (s.stop - start))⟩ := by
  fun_induction stretches fuel start cs generalizing place with
  | case1 => rw [lexemes]; rfl
  | case2 => rw [lexemes]; rfl
  | case3 fuel start c cs hpiece => rw [lexemes, hpiece]; rfl
  | case4 fuel start c cs p n hpiece ih =>
    rw [lexemes, hpiece, List.flatMap_cons]
    -- the places of the later stretches, counted from the first one
    have hplace {i : Nat} (hi : start + n ≤ i) :
        (place.advance ((c :: cs).take n)).advance (((c :: cs).drop n).take (i - (start + n))) =
          place.advance ((c :: cs).take (i - start)) := by
      rw [← Position.advance_append, ← List.take_add]
      congr 2
      omega
    have hfirst : p.lexemes ⟨place, place.advance ((c :: cs).take n)⟩ = p.lexemes
        ⟨place.advance ((c :: cs).take (start - start)), place.advance ((c :: cs).take (start + n - start))⟩ := by
      rw [Nat.sub_self, Nat.add_sub_cancel_left]
      rfl
    show p.lexemes ⟨place, _⟩ ++ (lexemes fuel (place.advance ((c :: cs).take n)) ((c :: cs).drop n)).1 = _
    rw [ih, hfirst]
    refine congrArg _ (List.flatMap_congr fun s hs => ?_)
    have hstart := start_le_of_mem_stretches hs
    have hstop : start + n ≤ s.stop := hstart.trans (Nat.le_add_right _ _)
    rw [hplace hstart, hplace hstop]

/-! ### Slashes in pieces -/

section Slashes

variable {cs : List Char} {p : Piece} {n j : Nat}

theorem mem_take_of_startsSlashes (hj : j < n) (h : startsSlashes (cs.drop j) = true) :
    '/' ∈ cs.take n := by
  obtain ⟨rest, hrest⟩ := startsSlashes_iff.1 h
  have hat : cs[j]? = some '/' := by
    rw [← List.head?_drop, hrest]
    rfl
  exact List.mem_of_getElem? ((List.getElem?_take_of_lt hj).trans hat)

theorem slash_notMem_of_wordLength (h : wordLength cs = some n) : '/' ∉ cs.take n := by
  have hstart : isIdentifierStart '/' = false := by decide
  have hcontinue : isIdentifierContinue '/' = false := by decide
  cases cs with
  | nil => simp
  | cons c cs =>
    rw [wordLength] at h
    split at h
    · rename_i hc
      obtain rfl := Option.some.inj h
      rw [Nat.add_comm, List.take_succ_cons]
      have htake : cs.takeWhile isIdentifierContinue = cs.take (cs.takeWhile isIdentifierContinue).length :=
        List.prefix_iff_eq_take.1 (List.takeWhile_prefix _)
      rw [← htake, List.mem_cons, not_or]
      constructor
      · rintro rfl
        rw [hstart] at hc
        cases hc
      · intro hmem
        have hword := List.mem_takeWhile_imp hmem
        rw [hcontinue] at hword
        cases hword
    · cases h

theorem slash_notMem_of_identifierLength (h : identifierLength cs = some n) : '/' ∉ cs.take n := by
  simp only [identifierLength, Option.bind_eq_bind, Option.bind_eq_some_iff] at h
  obtain ⟨m, hword, hif⟩ := h
  have hn : rawMarkLength cs + m = n := by
    split at hif
    · cases hif
    · exact Option.some.inj hif
  have hmark : '/' ∉ cs.take (rawMarkLength cs) := by
    rw [rawMarkLength.eq_def]
    split
    · simp
    · simp
  rw [← hn, List.take_add, List.mem_append, not_or]
  exact ⟨hmark, slash_notMem_of_wordLength hword⟩

theorem exists_literal_of_firstLiteral {readings : List (LiteralKind × Option Nat)}
    (h : firstLiteral cs readings = some (p, n)) : ∃ kind text, p = .token (.literal kind text) := by
  induction readings with
  | nil => cases h
  | cons reading rest ih =>
    obtain ⟨kind, _ | m⟩ := reading
    · exact ih h
    · cases h
      exact ⟨kind, _, rfl⟩

theorem slash_notMem_of_lifetimePiece (h : lifetimePiece cs = some (p, n)) :
    '/' ∉ ('\'' :: cs).take n := by
  simp only [lifetimePiece, Option.bind_eq_bind, Option.bind_eq_some_iff] at h
  obtain ⟨m, hidentifier, hfound⟩ := h
  -- the apostrophe is alone, or the name follows it
  have hn : (if startsQuotedLiteral cs = true then (Piece.token (.punct '\'' true), 1)
      else (.token (.lifetime (String.ofList (cs.take m))), m + 1)) = (p, n) := by
    split at hfound
    · cases hfound
    · split at hfound
      · cases hfound
      · exact Option.some.inj hfound
    · exact Option.some.inj hfound
  split at hn
  · cases hn
    simp
  · cases hn
    rw [List.take_succ_cons, List.mem_cons, not_or]
    exact ⟨by decide, slash_notMem_of_identifierLength hidentifier⟩

theorem slash_notMem_of_wordPiece (h : wordPiece cs = some (p, n)) : '/' ∉ cs.take n := by
  simp only [wordPiece, Option.bind_eq_bind] at h
  split at h
  · cases h
  · obtain ⟨m, hidentifier, hfound⟩ := Option.bind_eq_some_iff.1 h
    cases hfound
    exact slash_notMem_of_identifierLength hidentifier

/-- A token in which two slashes stand in a row is a literal. -/
theorem exists_literal_of_tokenPiece (h : tokenPiece cs = some (p, n)) (hj : j < n)
    (hslashes : startsSlashes (cs.drop j) = true) (hcomment : startsComment cs = false) :
    ∃ kind text, p = .token (.literal kind text) := by
  have hmem := mem_take_of_startsSlashes hj hslashes
  rw [tokenPiece.eq_def] at h
  split at h
  · rename_i found hliteral
    cases h
    exact exists_literal_of_firstLiteral hliteral
  · split at h
    · exact absurd hmem (slash_notMem_of_lifetimePiece h)
    · split at h
      · rename_i hpunctuation
        cases h
        obtain rfl : j = 0 := by omega
        rw [List.drop_zero] at hslashes
        rw [startsComment_iff.2 (.inl hslashes)] at hcomment
        cases hcomment
      · exact absurd hmem (slash_notMem_of_wordPiece h)
    · cases h

/-- **Where two slashes stand in a row in a piece, it is a literal or a comment.** -/
theorem isLiteral_or_startsComment_of_piece (h : piece cs = some (p, n)) (hj : j < n)
    (hslashes : startsSlashes (cs.drop j) = true) :
    (∃ kind text, p = .token (.literal kind text)) ∨ startsComment cs = true := by
  have hmem := mem_take_of_startsSlashes hj hslashes
  have hsingle {c : Char} {rest : List Char} (hcs : cs = c :: rest) (hn : n = 1) : c = '/' := by
    rw [hcs, hn, List.take_succ_cons, List.take_zero, List.mem_singleton] at hmem
    exact hmem.symm
  rw [piece.eq_def] at h
  split at h
  · cases h
  · split at h
    · cases h
      exact .inl ⟨_, _, rfl⟩
    · cases h
      exact absurd (hsingle rfl rfl) (by decide)
  · cases h
    exact absurd (hsingle rfl rfl) (by decide)
  · cases h
    exact absurd (hsingle rfl rfl) (by decide)
  · cases h
    exact absurd (hsingle rfl rfl) (by decide)
  · cases h
    exact absurd (hsingle rfl rfl) (by decide)
  · cases h
    exact absurd (hsingle rfl rfl) (by decide)
  · split at h
    · rename_i hseparator
      cases h
      obtain rfl := hsingle rfl rfl
      exact absurd hseparator (by decide)
    · split at h
      · rename_i hcomment
        exact .inr hcomment
      · rename_i hcomment
        exact .inl (exists_literal_of_tokenPiece h hj hslashes (Bool.eq_false_iff.2 hcomment))

theorem length_of_documentationPiece {inner : Bool} {front back length : Nat}
    (h : documentationPiece inner front back length cs = some (p, n)) : n = length := by
  rw [documentationPiece] at h
  split at h
  · cases h
  · cases h
    rfl

theorem length_of_commentPiece {rest : List Char} (hcs : cs = '/' :: '/' :: rest)
    (h : commentPiece cs = some (p, n)) : n = lineCommentLength cs := by
  rw [commentPiece.eq_def] at h
  split at h
  · split at h
    · exact length_of_documentationPiece h
    · cases h
      rfl
    · exact length_of_documentationPiece h
    · cases h
      rfl
  · cases hcs
  · cases h

/-- A piece that begins with two slashes runs to the end of the line. -/
theorem length_of_startsSlashes (h : piece cs = some (p, n)) (hslashes : startsSlashes cs = true) :
    n = lineCommentLength cs := by
  obtain ⟨rest, rfl⟩ := startsSlashes_iff.1 hslashes
  have hcomment : startsComment ('/' :: '/' :: rest) = true := rfl
  have hpiece : piece ('/' :: '/' :: rest) = if isSeparator '/' = true then some (.blank, 1)
      else if startsComment ('/' :: '/' :: rest) = true then commentPiece ('/' :: '/' :: rest)
      else tokenPiece ('/' :: '/' :: rest) := rfl
  rw [hpiece, if_neg (by decide), if_pos hcomment] at h
  exact length_of_commentPiece rfl h

end Slashes

/-! ### Programs -/

/-- Where no piece begins there are no trees. -/
theorem matchGroups_ne_ok (place : Position) (pending : List OpenGroup) (done trees : List TokenTree)
    (found : List Lexeme) : matchGroups (some place) pending done found ≠ .ok trees := by
  induction found generalizing pending done with
  | nil =>
    rw [matchGroups]
    exact nofun
  | cons l found ih =>
    cases l with
    | tree t =>
      rw [matchGroups]
      exact ih pending (t :: done)
    | opening d span =>
      rw [matchGroups]
      exact ih _ []
    | closing d span =>
      cases pending with
      | nil =>
        rw [matchGroups]
        exact nofun
      | cons group pending =>
        rw [matchGroups]
        split
        · exact ih pending _
        · exact nofun

theorem lexemes_of_tokenTrees {place : Position} {cs : List Char} {trees : List TokenTree}
    (h : tokenTrees place cs = .ok trees) : (lexemes cs.length place cs).2 = none := by
  cases hstop : (lexemes cs.length place cs).2 with
  | none => rfl
  | some bad =>
    change matchGroups (lexemes cs.length place cs).2 [] [] (lexemes cs.length place cs).1 = _ at h
    rw [hstop] at h
    exact absurd h (matchGroups_ne_ok bad [] [] trees _)

theorem lexemes_of_markedTrees {cs : List Char} {trees : List TokenTree} (h : markedTrees cs = .ok trees) :
    ∃ place, (lexemes (dropMark cs).length place (dropMark cs)).2 = none := by
  rw [markedTrees] at h
  split at h
  · rename_i htrees
    exact ⟨_, lexemes_of_tokenTrees htrees⟩
  · cases h

/-- The part of a program that is cut into stretches: byte order marks and a line for the shell come before
it. -/
def codeOf (text : List Char) : List Char :=
  match parseFile text with
  | .ok _ => dropMark (dropShellLine (dropMark text))
  | .error _ => dropMark (dropMark text)

/-- The number of characters before this part. -/
def codeStart (text : List Char) : Nat :=
  text.length - (codeOf text).length

/-- The stretches of a program. -/
def stretchesOf (text : List Char) : List Stretch :=
  stretches (codeOf text).length (codeStart text) (codeOf text)

theorem dropShellLine_suffix (cs : List Char) : dropShellLine cs <:+ cs := by
  rw [dropShellLine.eq_def]
  split
  · split
    · exact List.suffix_rfl
    · exact List.dropWhile_suffix _
  · exact List.suffix_rfl

theorem codeOf_eq_drop (text : List Char) : codeOf text = text.drop (codeStart text) := by
  have hsuffix : codeOf text <:+ text := by
    rw [codeOf]
    split
    · exact (dropMark_suffix _).trans ((dropShellLine_suffix _).trans (dropMark_suffix text))
    · exact (dropMark_suffix _).trans (dropMark_suffix text)
  exact List.suffix_iff_eq_drop.1 hsuffix

theorem lexemes_of_parseProgram {text : List Char} {tree : Node} (h : parseProgram text = .ok tree) :
    ∃ place, (lexemes (codeOf text).length place (codeOf text)).2 = none := by
  rw [codeOf]
  rw [parseProgram] at h
  cases hfile : parseFile text with
  | ok _ =>
    obtain ⟨trees, htrees, -⟩ := exists_of_bind_ok hfile
    exact lexemes_of_markedTrees htrees
  | error _ =>
    cases hstatements : parseStatements text with
    | ok _ =>
      obtain ⟨trees, htrees, -⟩ := exists_of_bind_ok hstatements
      exact lexemes_of_markedTrees htrees
    | error _ =>
      rw [hfile, hstatements] at h
      cases h

/-- **The stretches of a program cover all of it** behind its beginning. -/
theorem exists_stretch_of_parseProgram {text : List Char} {tree : Node} (h : parseProgram text = .ok tree)
    {i : Nat} (hstart : codeStart text ≤ i) (hi : i < text.length) :
    ∃ s ∈ stretchesOf text, s.start ≤ i ∧ i < s.stop := by
  obtain ⟨place, hlexemes⟩ := lexemes_of_parseProgram h
  have hlength : i - codeStart text < (codeOf text).length := by
    rw [codeOf_eq_drop, List.length_drop]
    omega
  obtain ⟨s, hs, hle, hlt⟩ := stretches_cover (codeStart text) hlexemes hlength
  exact ⟨s, hs, by omega, by omega⟩

theorem piece_of_mem_stretchesOf {text : List Char} {s : Stretch} (h : s ∈ stretchesOf text) :
    piece (text.drop s.start) = some (s.piece, s.length) :=
  piece_of_mem_stretches (codeOf_eq_drop text) h

/-- Two slashes in a row are in a literal or in a comment. -/
theorem isLiteral_or_startsComment {text : List Char} {s : Stretch} (hs : s ∈ stretchesOf text) {i : Nat}
    (hstart : s.start ≤ i) (hstop : i < s.stop) (hslashes : startsSlashes (text.drop i) = true) :
    s.isLiteral = true ∨ startsComment (text.drop s.start) = true := by
  have hdrop : text.drop i = (text.drop s.start).drop (i - s.start) := by
    rw [List.drop_drop, Nat.add_sub_cancel' hstart]
  have hin : i - s.start < s.length := by
    rw [Stretch.stop] at hstop
    omega
  rw [hdrop] at hslashes
  refine (isLiteral_or_startsComment_of_piece (piece_of_mem_stretchesOf hs) hin hslashes).imp_left ?_
  rintro ⟨kind, literal, hpiece⟩
  rw [Stretch.isLiteral, hpiece]

/-- A stretch that begins with two slashes is the rest of its line. -/
theorem length_of_mem_stretchesOf {text : List Char} {s : Stretch} (hs : s ∈ stretchesOf text)
    (hslashes : startsSlashes (text.drop s.start) = true) :
    s.length = ((text.drop s.start).takeWhile (· != '\n')).length :=
  length_of_startsSlashes (piece_of_mem_stretchesOf hs) hslashes

theorem text_of_mem_stretchesOf {text : List Char} {s : Stretch} (hs : s ∈ stretchesOf text)
    (hslashes : startsSlashes (text.drop s.start) = true) :
    s.text text = (text.drop s.start).takeWhile (· != '\n') := by
  rw [Stretch.text, length_of_mem_stretchesOf hs hslashes]
  exact (List.prefix_iff_eq_take.1 (List.takeWhile_prefix _)).symm

end SourceLint.Syntax
