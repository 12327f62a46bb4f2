import SourceLint.Proofs.Analysis.Independence
import SourceLint.Proofs.Directive.Reading
import SourceLint.Proofs.Text.Trimming

/-!
# Writing directives

A directive is written behind two or more slashes: identifiers between commas, and a reason in quotes if
there is one.  Reading a line that ends in such a directive gives back the identifiers and the reason.

* **`ListedName`**, **`QuotedReason`**, **`WrittenDirective`** — what is written, with the blanks that may
  stand around it.
* **`comment?_append_slashes`** — the comment of a line begins behind the code.
* **`names_listChars`**, **`reason?_reasonChars`** — the parts of a directive are read back.
* **`ofWords?_written`** — the directive is read back.

`written_directive_read_back` says this of lines and adds that every rule of an analyzer can be allowed in
this way.
-/

namespace SourceLint

open SourceLint.Text SourceLint.Syntax

/-! ### What is written -/

/-- An identifier in a list, with the blanks around it. -/
structure ListedName where
  before : List Char
  name : String
  after : List Char
  blank_before : ∀ c ∈ before, isBlank c = true
  isValid : isValidIdentifier name = true
  blank_after : ∀ c ∈ after, isBlank c = true

/-- A reason in quotes, with the blanks before it and with anything behind it. -/
structure QuotedReason where
  before : List Char
  reason : String
  rest : List Char
  blank_before : ∀ c ∈ before, isBlank c = true
  quote_notMem : '"' ∉ reason.toList

/-- A directive that is written in a line comment. -/
structure WrittenDirective where
  /-- How many slashes follow the first two. -/
  extraSlashes : Nat
  names : List ListedName
  reason : Option QuotedReason
  names_ne_nil : names ≠ []

/-- The identifier and the blanks around it. -/
def ListedName.chars (n : ListedName) : List Char :=
  n.before ++ (n.name.toList ++ n.after)

/-- The identifiers with commas between them. -/
def listChars (names : List ListedName) : List Char :=
  [','].intercalate (names.map ListedName.chars)

/-- The reason in its quotes and everything around it. -/
def QuotedReason.chars (r : QuotedReason) : List Char :=
  r.before ++ ("reason=".toList ++ '"' :: (r.reason.toList ++ '"' :: r.rest))

/-- What follows the rules. -/
def reasonChars (reason : Option QuotedReason) : List Char :=
  reason.elim [] QuotedReason.chars

/-- The comment from its first slash on. -/
def WrittenDirective.chars (w : WrittenDirective) : List Char :=
  "//".toList ++ List.replicate w.extraSlashes '/' ++
    " lintel: allow(".toList ++ listChars w.names ++ ")".toList ++ reasonChars w.reason

/-! ### Identifiers -/

/-- The characters of identifiers lie between the dash and the last small letter. -/
theorem toNat_of_isIdentifierChar {c : Char} (h : isIdentifierChar c = true) :
    45 ≤ c.toNat ∧ c.toNat ≤ 122 := by
  have hrange (a z : Char) (hc : (decide (c.val ≥ a.val) && decide (c.val ≤ z.val)) = true)
      (ha : 45 ≤ a.toNat) (hz : z.toNat ≤ 122) : 45 ≤ c.toNat ∧ c.toNat ≤ 122 := by
    rw [Bool.and_eq_true, decide_eq_true_eq, decide_eq_true_eq] at hc
    exact ⟨Nat.le_trans ha (UInt32.le_iff_toNat_le.1 hc.1),
      Nat.le_trans (UInt32.le_iff_toNat_le.1 hc.2) hz⟩
  simp only [isIdentifierChar, Bool.or_eq_true, beq_iff_eq] at h
  rcases h with ((hlower | hdigit) | rfl) | rfl
  · exact hrange 'a' 'z' hlower (by decide) (by decide)
  · exact hrange '0' '9' hdigit (by decide) (by decide)
  · decide
  · decide

theorem isBlank_of_isIdentifierChar {c : Char} (h : isIdentifierChar c = true) : isBlank c = false := by
  obtain ⟨hlower, hupper⟩ := toNat_of_isIdentifierChar h
  simp only [isBlank, Bool.or_eq_false_iff, Bool.and_eq_false_iff, decide_eq_false_iff_not,
    beq_eq_false_iff_ne]
  omega

theorem isIdentifierChar_of_mem {text : String} (h : isValidIdentifier text = true) :
    ∀ c ∈ text.toList, isIdentifierChar c = true := by
  rw [isValidIdentifier] at h
  split at h
  · cases h
  · rename_i c cs hchars
    rw [Bool.and_eq_true, Bool.and_eq_true, List.all_eq_true] at h
    rw [hchars]
    exact h.1.1

theorem toList_ne_nil_of_isValidIdentifier {text : String} (h : isValidIdentifier text = true) :
    text.toList ≠ [] := by
  intro hnil
  rw [isValidIdentifier, hnil] at h
  cases h

namespace ListedName

theorem not_blank (n : ListedName) : ∀ c ∈ n.name.toList, isBlank c = false :=
  fun c hc => isBlank_of_isIdentifierChar (isIdentifierChar_of_mem n.isValid c hc)

/-- Neither an identifier nor the blanks around it hold a mark that is neither. -/
theorem notMem_chars (n : ListedName) {mark : Char} (hblank : isBlank mark = false)
    (hmark : isIdentifierChar mark = false) : mark ∉ n.chars := by
  have hnotBlank {cs : List Char} (h : ∀ c ∈ cs, isBlank c = true) : mark ∉ cs := by
    intro hmem
    rw [h mark hmem] at hblank
    cases hblank
  rw [chars, List.mem_append, List.mem_append]
  rintro (hmem | hmem | hmem)
  · exact hnotBlank n.blank_before hmem
  · rw [isIdentifierChar_of_mem n.isValid mark hmem] at hmark
    cases hmark
  · exact hnotBlank n.blank_after hmem

/-- The identifier without the blanks before it. -/
def unpadded (n : ListedName) : ListedName :=
  { n with before := [], blank_before := by simp }

theorem trimStart_chars_append (n : ListedName) (cs : List Char) :
    trimStart (n.chars ++ cs) = n.unpadded.chars ++ cs := by
  rw [chars, List.append_assoc, trimStart_append_of_blank n.blank_before, chars, List.append_assoc]
  cases hname : n.name.toList with
  | nil => exact absurd hname (toList_ne_nil_of_isValidIdentifier n.isValid)
  | cons c name =>
    have hc : isBlank c = false := n.not_blank c (hname ▸ List.mem_cons_self)
    have hsame : n.unpadded.name.toList = c :: name := hname
    rw [hsame]
    simpa [unpadded] using trimStart_cons hc (name ++ (n.after ++ cs))

end ListedName

/-! ### Reading the parts -/

theorem notMem_listChars {mark : Char} (hblank : isBlank mark = false)
    (hmark : isIdentifierChar mark = false) (hcomma : mark ≠ ',') (names : List ListedName) :
    mark ∉ listChars names := by
  rw [listChars]
  induction names with
  | nil => simp
  | cons n ns ih =>
    cases ns with
    | nil =>
      rw [List.map_singleton, List.intercalate_singleton]
      exact n.notMem_chars hblank hmark
    | cons n' ns =>
      rw [List.map_cons, List.map_cons, List.intercalate_cons_cons, ← List.map_cons, List.mem_append,
        List.mem_append, List.mem_singleton]
      exact not_or.2 ⟨not_or.2 ⟨n.notMem_chars hblank hmark, hcomma⟩, ih⟩

theorem trimStart_listChars (n : ListedName) (ns : List ListedName) :
    trimStart (listChars (n :: ns)) = listChars (n.unpadded :: ns) := by
  cases ns with
  | nil =>
    have h := n.trimStart_chars_append []
    rw [List.append_nil, List.append_nil] at h
    simpa [listChars] using h
  | cons n' ns =>
    rw [listChars, List.map_cons, List.map_cons, List.intercalate_cons_cons, List.append_assoc,
      n.trimStart_chars_append, ← List.append_assoc, ← List.intercalate_cons_cons]
    rfl

/-- The identifiers of a list are read back. -/
theorem names_listChars {names : List ListedName} (hne : names ≠ []) :
    Directive.names (listChars names) = names.map (·.name) := by
  have hsplit : splitOn ',' (listChars names) = names.map ListedName.chars := by
    refine splitOn_intercalate (by simpa using hne) (List.forall_mem_map.2 fun n _ => ?_)
    exact n.notMem_chars (by decide) (by decide)
  rw [Directive.names, hsplit, List.map_map, List.filterMap_map, ← List.filterMap_eq_map]
  refine List.filterMap_congr fun n _ => ?_
  have htrim : trim n.chars = n.name.toList :=
    trim_padded n.blank_before n.not_blank n.blank_after
  have hempty : n.name.toList.isEmpty = false :=
    List.isEmpty_eq_false_iff.2 (toList_ne_nil_of_isValidIdentifier n.isValid)
  simp only [Function.comp_apply, htrim, hempty, String.ofList_toList]
  rfl

/-- The reason without the blanks at the end of the line. -/
def QuotedReason.trimmed (r : QuotedReason) : QuotedReason :=
  { r with rest := trimEnd r.rest }

theorem QuotedReason.trimEnd_chars (r : QuotedReason) : trimEnd r.chars = r.trimmed.chars := by
  have hquote : isBlank '"' = false := by decide
  have hsplit (rest : List Char) : r.before ++ ("reason=".toList ++ '"' :: (r.reason.toList ++ '"' :: rest)) =
      (r.before ++ ("reason=".toList ++ '"' :: r.reason.toList)) ++ '"' :: rest := by simp
  rw [chars, hsplit, trimEnd_append_cons hquote, ← hsplit]
  rfl

theorem trimEnd_reasonChars (reason : Option QuotedReason) :
    trimEnd (reasonChars reason) = reasonChars (reason.map QuotedReason.trimmed) := by
  cases reason with
  | none => rfl
  | some r => exact r.trimEnd_chars

/-- The reason is read back, whatever follows it. -/
theorem reason?_reasonChars (reason : Option QuotedReason) :
    Directive.reason? (reasonChars reason) = reason.map (·.reason) := by
  cases reason with
  | none => rfl
  | some r =>
    have hquote : isBlank '"' = false := by decide
    have hstart : trim r.chars =
        "reason=".toList ++ '"' :: (r.reason.toList ++ '"' :: trimEnd r.rest) := by
      rw [QuotedReason.chars, trim_append_of_blank r.blank_before]
      exact trim_cons_append_cons (c := 'r') (by decide) hquote ("eason=\"".toList ++ r.reason.toList) r.rest
    have hvalue := trim_cons_append_cons hquote hquote r.reason.toList (trimEnd r.rest)
    have hopened (cs : List Char) : afterStart? ['"'] ('"' :: cs) = some cs := afterStart?_append ['"'] cs
    have hcut := breakAt?_append r.quote_notMem (trimEnd (trimEnd r.rest))
    simp only [Directive.reason?, reasonChars, Option.elim_some, hstart, afterStart?_append, hvalue,
      hopened, hcut, bind, Option.bind_some, String.ofList_toList]
    rfl

namespace Directive

/-! ### Reading the directive -/

theorem map_reason_trimmed (reason : Option QuotedReason) :
    (reason.map QuotedReason.trimmed).map (·.reason) = reason.map (·.reason) := by
  cases reason <;> rfl

/-- **A directive is read back** from its words. -/
theorem ofWords?_written (n : ListedName) (ns : List ListedName) (reason : Option QuotedReason) :
    ofWords? (keyword ++ (" allow(".toList ++ (listChars (n :: ns) ++ ')' :: reasonChars reason))) =
      some ⟨(n :: ns).map (·.name), reason.map (·.reason)⟩ := by
  have hbrace : isBlank ')' = false := by decide
  have hallow : trim (" allow(".toList ++ (listChars (n :: ns) ++ ')' :: reasonChars reason)) =
      "allow(".toList ++ (listChars (n :: ns) ++
        ')' :: reasonChars (reason.map QuotedReason.trimmed)) := by
    have htrim := trim_cons_append_cons (c := 'a') (by decide) hbrace
      ("llow(".toList ++ listChars (n :: ns)) (reasonChars reason)
    rw [trimEnd_reasonChars, List.append_assoc] at htrim
    exact (trim_space_cons _).trans htrim
  have hlist : trim (listChars (n :: ns) ++ ')' :: reasonChars (reason.map QuotedReason.trimmed)) =
      listChars (n.unpadded :: ns) ++
        ')' :: reasonChars ((reason.map QuotedReason.trimmed).map QuotedReason.trimmed) := by
    rw [trim, trimStart_append_cons hbrace, trimStart_listChars, trimEnd_append_cons hbrace,
      trimEnd_reasonChars]
  have hmark : ')' ∉ listChars (n.unpadded :: ns) :=
    notMem_listChars (by decide) (by decide) (by decide) _
  have hcut := breakAt?_append hmark
    (reasonChars ((reason.map QuotedReason.trimmed).map QuotedReason.trimmed))
  have hnames := names_listChars (List.cons_ne_nil n.unpadded ns)
  simp only [ofWords?, afterStart?_append, bind, Option.bind_some, hallow, hlist, hcut, hnames,
    reason?_reasonChars, map_reason_trimmed]
  rfl

/-! ### Reading the line -/

/-- The comment of a line begins behind code that holds no two slashes in a row.  A slash at the end of the
code is taken for one of the comment. -/
theorem comment?_append_slashes {front : List Char} (h : ¬ "//".toList <:+: front) (rest : List Char) :
    comment? (front ++ '/' :: '/' :: rest) = some (words rest) := by
  induction front with
  | nil => rfl
  | cons c front ih =>
    have htail : ¬ "//".toList <:+: front := fun hin => h (hin.trans (List.suffix_cons c front).isInfix)
    cases hslashes : startsSlashes (c :: (front ++ '/' :: '/' :: rest)) with
    | false =>
      rw [List.cons_append, comment?_cons hslashes]
      exact ih htail
    | true =>
      obtain ⟨_, hstart⟩ := startsSlashes_iff.1 hslashes
      cases front with
      | nil =>
        obtain ⟨rfl, _⟩ := List.cons.inj hstart
        rfl
      | cons d front =>
        obtain ⟨rfl, hnext⟩ := List.cons.inj hstart
        obtain ⟨rfl, _⟩ := List.cons.inj hnext
        exact absurd (List.prefix_append "//".toList front).isInfix h

theorem words_replicate_slash (k : Nat) (cs : List Char) :
    words (List.replicate k '/' ++ ' ' :: cs) = trim cs := by
  have hslashes : ∀ c ∈ List.replicate k '/', (c == '/') = true := by
    intro c hc
    rw [List.eq_of_mem_replicate hc]
    rfl
  rw [words, List.dropWhile_append_of_pos hslashes]
  exact trim_space_cons cs

/-- A directive behind code is read back. -/
theorem ofLine?_append_chars {front : List Char} (h : ¬ "//".toList <:+: front) (w : WrittenDirective) :
    ofLine? (front ++ w.chars) = some ⟨w.names.map (·.name), w.reason.map (·.reason)⟩ := by
  obtain ⟨slashes, names, reason, hne⟩ := w
  cases names with
  | nil => exact absurd rfl hne
  | cons n ns =>
    have hbrace : isBlank ')' = false := by decide
    have hchars : WrittenDirective.chars ⟨slashes, n :: ns, reason, hne⟩ =
        '/' :: '/' :: (List.replicate slashes '/' ++ ' ' ::
          ("lintel: allow(".toList ++ (listChars (n :: ns) ++ ')' :: reasonChars reason))) := by
      simp [WrittenDirective.chars]
    have htrim := trim_cons_append_cons (c := 'l') (by decide) hbrace
      ("intel: allow(".toList ++ listChars (n :: ns)) (reasonChars reason)
    rw [trimEnd_reasonChars, List.append_assoc] at htrim
    have hread := ofWords?_written n ns (reason.map QuotedReason.trimmed)
    rw [map_reason_trimmed] at hread
    rw [hchars, ofLine?_eq, comment?_append_slashes h, Option.bind_some, words_replicate_slash]
    exact (congrArg ofWords? htrim).trans hread

end Directive

/-- A directive about the rule allows it on its own line and on the next one. -/
theorem isAllowed_of_covers {text line : List Char} {k n : Nat} {rule : String} {d : Directive}
    (hn : n = k + 1 ∨ n = k + 2) (hline : (lines text)[k]? = some line)
    (hd : Directive.ofLine? line = some d) (hcovers : d.covers rule = true) :
    (allowance text n rule).isAllowed = true := by
  have hfound : d ∈ [n - 1, n].filterMap fun m => (line? text m).bind Directive.ofLine? := by
    refine List.mem_filterMap.2 ⟨k + 1, ?_, ?_⟩
    · rcases hn with rfl | rfl <;> simp
    · rw [line?, hline]
      exact hd
  rw [allowance_eq, allowanceOf]
  split
  · rfl
  · rename_i hnone
    exact absurd hcovers (by simpa using List.find?_eq_none.1 hnone d hfound)

/-- **Written directives are read back.**  Behind code that holds no two slashes in a row, identifiers
between commas and a reason in quotes are read as they were written, whatever number of slashes there is,
whatever blanks stand around the identifiers and whatever follows the reason.  Therefore a rule of an analyzer
that was built can be allowed: its name can be listed, and where it is listed the rule is allowed on that line
and on the next one. -/
theorem written_directive_read_back {front : List Char} (h : ¬ "//".toList <:+: front) :
    (∀ w : WrittenDirective, Directive.ofLine? (front ++ w.chars) =
      some ⟨w.names.map (·.name), w.reason.map (·.reason)⟩) ∧
    ∀ set honors a, Analyzer.build set honors = .ok a → ∀ r ∈ a.rules,
      (∃ n : ListedName, n.name = r.identifier) ∧
      ∀ w : WrittenDirective, r.identifier ∈ w.names.map (·.name) →
        ∀ text k, (lines text)[k]? = some (front ++ w.chars) →
          (allowance text (k + 1) r.identifier).isAllowed = true ∧
          (allowance text (k + 2) r.identifier).isAllowed = true := by
  refine ⟨Directive.ofLine?_append_chars h, fun set honors a ha r hr => ?_⟩
  obtain ⟨rfl, hnone⟩ := Analyzer.of_build ha
  have hvalid : isValidIdentifier r.identifier = true := (Analyzer.defect?_eq_none_iff.1 hnone).2.1 r hr
  refine ⟨⟨⟨[], r.identifier, [], by simp, hvalid, by simp⟩, rfl⟩, fun w hlisted text k hline => ?_⟩
  have hread := Directive.ofLine?_append_chars h w
  have hcovers : Directive.covers ⟨w.names.map (·.name), w.reason.map (·.reason)⟩ r.identifier = true := by
    rw [Directive.covers, Bool.or_eq_true, List.contains_iff_mem]
    exact .inl hlisted
  exact ⟨isAllowed_of_covers (.inl rfl) hline hread hcovers,
    isAllowed_of_covers (.inr rfl) hline hread hcovers⟩

/-- Two rules are listed behind four slashes, with blanks around them, and the reason ends before another
quote. -/
def legacySuite : WrittenDirective where
  extraSlashes := 2
  names := [⟨[' '], "c", ['\t'], List.all_eq_true.1 rfl, by decide, List.all_eq_true.1 rfl⟩,
    ⟨[], "rule_2", [' '], List.all_eq_true.1 rfl, by decide, List.all_eq_true.1 rfl⟩]
  reason := some ⟨[' '], " legacy // suite ", ", see \"b\" ".toList, List.all_eq_true.1 rfl, by decide⟩
  names_ne_nil := List.cons_ne_nil _ _

/-- A line with the directive behind code that ends in a slash of its own. -/
def legacySuiteLine : List Char :=
  "a ///// lintel: allow( c\t,rule_2 ) reason=\" legacy // suite \", see \"b\" ".toList

/-- One of the two rules that the line lists is in an analyzer, and it is allowed on the next line. -/
theorem written_directive_read_back_legacySuite :
    Directive.ofLine? legacySuiteLine = some ⟨["c", "rule_2"], some " legacy // suite "⟩ ∧
      (allowance (legacySuiteLine ++ "\nrun();".toList) 2 "c").isAllowed = true := by
  have hbuilt : Analyzer.build twoReporters true = .ok ⟨twoReporters.rules, [], true⟩ := by
    have h : Analyzer.defect? twoReporters.rules = none := by decide +kernel
    rw [Analyzer.build, h]
    rfl
  have hline : legacySuiteLine = "a /".toList ++ legacySuite.chars := by decide
  have hlines : (lines (legacySuiteLine ++ "\nrun();".toList))[0]? = some legacySuiteLine := by decide
  have h := @written_directive_read_back "a /".toList (by decide)
  have hread := h.1 legacySuite
  rw [← hline] at hread
  refine ⟨hread, ?_⟩
  have hallowed := (h.2 _ _ _ hbuilt (reportsTwice "c") List.mem_cons_self).2 legacySuite List.mem_cons_self
  rw [← hline] at hallowed
  exact (hallowed _ 0 hlines).2

end SourceLint
