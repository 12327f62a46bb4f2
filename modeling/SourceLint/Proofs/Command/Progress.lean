import Mathlib.Algebra.GroupWithZero.Nat
import SourceLint.Proofs.Analysis.Correction
import SourceLint.Proofs.Command.Discovered
import SourceLint.Proofs.Source.ByteOrderMark

/-!
# One file after the other

A check reads a file, may write it, and records what is found in it as it is left then.  Since names lead to
different files, what is done to later files changes nothing for earlier ones: what the check says of a file
can be said of the tree as it is left in the end.

* **`Analyzer.findingsIn`**, **`recordedIn`**, **`mended?`** — what a check has to say of a file of a tree,
  and what it writes.
* **`Progress.Passes`** — the progress from one tree to another one, in terms of the two trees.
* **`Progress.exists_checkFile`** — one file; **`Progress.exists_checkFiles`** — several files.
* **`Progress.read_of_checkFiles`** — a check that comes to its end has read all files.
-/

namespace SourceLint

open SourceLint.Files

/-! ### What there is to say of a file -/

namespace Analyzer

variable (a : Analyzer) (fix : Bool) (t : Tree) (name : String)

/-- The violations in the file, if it can be parsed. -/
def findingsIn : List Violation :=
  match readSource t name with
  | .ok source => a.analyze source
  | .error _ => []

/-- The name and the text of the file, if there are violations in it. -/
def recordedIn : List (String × List Char) :=
  match readSource t name with
  | .ok source => if (a.analyze source).isEmpty then [] else [(name, source.text)]
  | .error _ => []

/-- The pass of edits that is written to the file, if edits are to be written and there are any. -/
def mended? : Option Outcome :=
  if fix then
    ((readSource t name).toOption.bind fun source => (a.correct source).toOption).filter Outcome.isChanged
  else none

/-- The number of edits that are written to the files. -/
def editCount (names : List String) : Nat :=
  ((names.filterMap (a.mended? fix t)).map fun o => o.applied.length).sum

end Analyzer

theorem readSource_of_read {t : Tree} {name : String} {text : List Char} (h : t.read name = .ok text) :
    readSource t name = SourceFile.parse name text := by
  rw [readSource, h]

theorem readSource_congr {t t' : Tree} {name : String} (h : t'.read name = t.read name) :
    readSource t' name = readSource t name := by
  rw [readSource, readSource, h]

theorem readSource_eq_ok_iff {t : Tree} {name : String} {source : SourceFile} :
    readSource t name = .ok source ↔
      ∃ text, t.read name = .ok text ∧ SourceFile.parse name text = .ok source := by
  rw [readSource]
  cases t.read name with
  | ok text => simp
  | error fault => simp

/-- If a text is not parsed, then it is because it cannot be. -/
theorem SourceFile.unparsable_of_parse {path : String} {text : List Char} {e : SourceError}
    (h : SourceFile.parse path text = .error e) : ∃ cause, e = .unparsable path cause := by
  obtain ⟨cause, -, he⟩ := SourceFile.parse_eq_error_iff.1 h
  exact ⟨cause, he⟩

namespace Analyzer

variable {a : Analyzer} {fix : Bool} {t : Tree} {name : String}

theorem mended?_eq_some_iff {o : Outcome} :
    a.mended? fix t name = some o ↔
      fix = true ∧ ∃ source, readSource t name = .ok source ∧ a.correct source = .ok o ∧
        o.isChanged = true := by
  rw [mended?]
  cases fix with
  | false => simp
  | true =>
    cases readSource t name with
    | error e => simp [Except.toOption]
    | ok source =>
      cases ho : a.correct source with
      | error e => simp [Except.toOption, ho]
      | ok o' => simp [Except.toOption, ho]

theorem says_of_readSource (a : Analyzer) {source : SourceFile} (h : readSource t name = .ok source) :
    a.findingsIn t name = a.analyze source ∧
      a.recordedIn t name = if (a.analyze source).isEmpty then [] else [(name, source.text)] := by
  rw [findingsIn, recordedIn, h]
  exact ⟨rfl, rfl⟩

theorem says_of_error (a : Analyzer) {e : SourceError} (h : readSource t name = .error e) :
    a.findingsIn t name = [] ∧ a.recordedIn t name = [] := by
  rw [findingsIn, recordedIn, h]
  exact ⟨rfl, rfl⟩

/-- What there is to say of a file depends on what is in the file. -/
theorem says_congr (a : Analyzer) {t' : Tree} (h : t'.read name = t.read name) :
    a.findingsIn t' name = a.findingsIn t name ∧ a.recordedIn t' name = a.recordedIn t name ∧
      ∀ fix, a.mended? fix t' name = a.mended? fix t name := by
  simp only [findingsIn, recordedIn, mended?, readSource_congr h, implies_true, and_self]

theorem editCount_cons (a : Analyzer) (fix : Bool) (t : Tree) (name : String) (names : List String) :
    a.editCount fix t (name :: names) = a.editCount fix t [name] + a.editCount fix t names := by
  rw [editCount, editCount, editCount, ← List.singleton_append, List.filterMap_append, List.map_append,
    List.sum_append]

end Analyzer

/-! ### Progress -/

namespace Progress

/-- What a check of some files does to a progress. -/
structure Passes (a : Analyzer) (fix : Bool) (names : List String) (p p' : Progress) : Prop where
  /-- Files to which edits are written are rewritten, and no others. -/
  rewritten : Tree.RewrittenAt
    (p.tree.LedToBy (names.filter fun name => (a.mended? fix p.tree name).isSome)) p.tree p'.tree
  /-- They have the text that the edits make, and the other files the text that they had. -/
  read : ∀ name ∈ names, p'.tree.read name =
    (a.mended? fix p.tree name).elim (p.tree.read name) fun o => .ok o.text
  /-- Violations are those in the files as they are left. -/
  violations : p'.report.violations = p.report.violations ++ names.flatMap (a.findingsIn p'.tree)
  sources : p'.sources = p.sources ++ names.flatMap (a.recordedIn p'.tree)
  corrections : p'.report.correctionsApplied = p.report.correctionsApplied + a.editCount fix p.tree names

section Record

variable (p : Progress) {a : Analyzer} {source : SourceFile}

@[simp] theorem tree_record (a : Analyzer) (source : SourceFile) : (p.record a source).tree = p.tree := by
  rw [record]
  split <;> rfl

@[simp] theorem correctionsApplied_record (a : Analyzer) (source : SourceFile) :
    (p.record a source).report.correctionsApplied = p.report.correctionsApplied := by
  rw [record]
  split <;> rfl

theorem violations_record {name : String} (h : readSource p.tree name = .ok source) :
    (p.record a source).report.violations = p.report.violations ++ a.findingsIn p.tree name := by
  rw [(a.says_of_readSource h).1, record]
  split
  · rename_i hnone
    rw [hnone, List.append_nil]
  · rfl

theorem sources_record {name : String} (h : readSource p.tree name = .ok source) :
    (p.record a source).sources = p.sources ++ a.recordedIn p.tree name := by
  obtain ⟨text, -, hparse⟩ := readSource_eq_ok_iff.1 h
  rw [(a.says_of_readSource h).2, record, ← (SourceFile.parse_eq_ok_iff.1 hparse).1]
  split
  · rename_i hnone
    rw [hnone]
    exact (List.append_nil _).symm
  · rename_i hsome
    rw [if_neg (by simpa using hsome)]

end Record

/-! ### One file -/

section Fix

variable {p : Progress} {a : Analyzer} {source : SourceFile} {o : Analyzer.Outcome}
  (ho : a.correct source = .ok o)

include ho

theorem fixSource_of_unchanged (hchanged : o.isChanged = false) :
    p.fixSource a source = .ok (p, some source) := by
  rw [fixSource, ho]
  dsimp only
  rw [hchanged, if_neg Bool.false_ne_true]

/-- The text of a pass that changes something is written, and the file goes on with it if it can be
parsed. -/
theorem fixSource_of_changed (hchanged : o.isChanged = true) {t : Tree}
    (hwrite : p.tree.write source.path o.text = .ok t) :
    (∀ corrected, SourceFile.parse source.path o.text = .ok corrected →
        p.fixSource a source = .ok (p.written t o.applied.length, some corrected)) ∧
      ∀ e, SourceFile.parse source.path o.text = .error e →
        ∃ text, p.fixSource a source = .ok ((p.written t o.applied.length).warn text, none) := by
  rw [fixSource, ho]
  dsimp only
  rw [hchanged, if_pos rfl, hwrite]
  dsimp only
  constructor
  · intro corrected hparse
    rw [hparse]
  · intro e hparse
    rw [hparse]
    exact ⟨_, rfl⟩

end Fix

section Step

variable {a : Analyzer} {fix : Bool} {name : String} {p p' : Progress}

/-- A file to which nothing is written. -/
theorem passes_of_unmended (hmended : a.mended? fix p.tree name = none) (htree : p'.tree = p.tree)
    (hviolations : p'.report.violations = p.report.violations ++ a.findingsIn p.tree name)
    (hsources : p'.sources = p.sources ++ a.recordedIn p.tree name)
    (hcorrections : p'.report.correctionsApplied = p.report.correctionsApplied) :
    Passes a fix [name] p p' where
  rewritten := by
    rw [htree]
    exact .refl _ _
  read := by
    intro other hother
    cases List.mem_singleton.1 hother
    rw [hmended, htree]
    rfl
  violations := by rw [hviolations, htree, List.flatMap_singleton]
  sources := by rw [hsources, htree, List.flatMap_singleton]
  corrections := by
    have hcount : a.editCount fix p.tree [name] = 0 := by simp [Analyzer.editCount, hmended]
    rw [hcorrections, hcount, Nat.add_zero]

/-- A file to which edits are written. -/
theorem passes_of_mended {o : Analyzer.Outcome} (hmended : a.mended? fix p.tree name = some o) {t : Tree}
    (hrewritten : Tree.RewrittenAt (fun place => p.tree.locate name = .ok place) p.tree t)
    (hread : t.read name = .ok o.text) (htree : p'.tree = t)
    (hviolations : p'.report.violations = p.report.violations ++ a.findingsIn t name)
    (hsources : p'.sources = p.sources ++ a.recordedIn t name)
    (hcorrections : p'.report.correctionsApplied = p.report.correctionsApplied + o.applied.length) :
    Passes a fix [name] p p' where
  rewritten := by
    have hfilter : [name].filter (fun n => (a.mended? fix p.tree n).isSome) = [name] := by simp [hmended]
    rw [hfilter, htree]
    exact hrewritten.mono fun _ hleads => ⟨name, List.mem_singleton_self name, hleads⟩
  read := by
    intro other hother
    cases List.mem_singleton.1 hother
    rw [hmended, htree]
    exact hread
  violations := by rw [hviolations, htree, List.flatMap_singleton]
  sources := by rw [hsources, htree, List.flatMap_singleton]
  corrections := by
    have hcount : a.editCount fix p.tree [name] = o.applied.length := by
      simp [Analyzer.editCount, hmended]
    rw [hcorrections, hcount]

theorem exists_checkFile_of_unmended {text : List Char} (hread : p.tree.read name = .ok text)
    (hmended : a.mended? fix p.tree name = none) :
    ∃ p', p.checkFile a fix name = .ok p' ∧ Passes a fix [name] p p' := by
  have hsource := readSource_of_read hread
  rw [checkFile]
  cases hparse : SourceFile.parse name text with
  | error e =>
    obtain ⟨cause, rfl⟩ := SourceFile.unparsable_of_parse hparse
    rw [hparse] at hsource
    obtain ⟨hfindings, hrecorded⟩ := a.says_of_error hsource
    rw [hsource]
    refine ⟨_, rfl, passes_of_unmended hmended rfl ?_ ?_ rfl⟩
    · rw [hfindings, List.append_nil]
      rfl
    · rw [hrecorded, List.append_nil]
      rfl
  | ok source =>
    rw [hparse] at hsource
    have hpasses : Passes a fix [name] p (p.count.record a source) :=
      passes_of_unmended hmended (tree_record _ a source) (violations_record p.count hsource)
        (sources_record p.count hsource) (correctionsApplied_record _ a source)
    rw [hsource]
    refine ⟨_, ?_, hpasses⟩
    cases fix with
    | false => rfl
    | true =>
      obtain ⟨o, ho⟩ : ∃ o, a.correct source = .ok o := ⟨_, a.correct_eq_ok source⟩
      have hchanged : o.isChanged = false := by
        rw [Bool.eq_false_iff]
        intro hchanged
        cases hmended.symm.trans (Analyzer.mended?_eq_some_iff.2 ⟨rfl, source, hsource, ho, hchanged⟩)
      dsimp only
      rw [if_pos rfl, fixSource_of_unchanged ho hchanged]

theorem exists_checkFile_of_mended {o : Analyzer.Outcome} (hmended : a.mended? fix p.tree name = some o) :
    ∃ p', p.checkFile a fix name = .ok p' ∧ Passes a fix [name] p p' := by
  obtain ⟨hfix, source, hsource, ho, hchanged⟩ := Analyzer.mended?_eq_some_iff.1 hmended
  obtain ⟨text, hread, hparse⟩ := readSource_eq_ok_iff.1 hsource
  obtain ⟨hpath, -⟩ := SourceFile.parse_eq_ok_iff.1 hparse
  obtain ⟨t, hwrite, hrewritten, hreadBack⟩ := Tree.exists_write hread o.text
  obtain ⟨hparsed, hbroken⟩ := fixSource_of_changed (p := p.count) ho hchanged (hpath ▸ hwrite)
  rw [hpath] at hparsed hbroken
  have hleft := readSource_of_read hreadBack
  rw [checkFile, hsource]
  dsimp only
  rw [if_pos hfix]
  cases hcorrected : SourceFile.parse name o.text with
  | ok corrected =>
    rw [hcorrected] at hleft
    rw [hparsed corrected hcorrected]
    exact ⟨_, rfl, passes_of_mended hmended hrewritten hreadBack (tree_record _ a corrected)
      (violations_record (p.count.written t o.applied.length) hleft)
      (sources_record (p.count.written t o.applied.length) hleft) (correctionsApplied_record _ a corrected)⟩
  | error e =>
    rw [hcorrected] at hleft
    obtain ⟨hfindings, hrecorded⟩ := a.says_of_error hleft
    obtain ⟨text, hfixed⟩ := hbroken e hcorrected
    rw [hfixed]
    refine ⟨_, rfl, passes_of_mended hmended hrewritten hreadBack rfl ?_ ?_ rfl⟩
    · rw [hfindings, List.append_nil]
      rfl
    · rw [hrecorded, List.append_nil]
      rfl

/-- **A file that can be read is checked**, whether or not it can be parsed, before and after. -/
theorem exists_checkFile (a : Analyzer) (fix : Bool) {text : List Char}
    (hread : p.tree.read name = .ok text) :
    ∃ p', p.checkFile a fix name = .ok p' ∧ Passes a fix [name] p p' := by
  cases hmended : a.mended? fix p.tree name with
  | none => exact exists_checkFile_of_unmended hread hmended
  | some o => exact exists_checkFile_of_mended hmended

/-- A file that is checked can be read. -/
theorem exists_read_of_checkFile (h : p.checkFile a fix name = .ok p') :
    ∃ text, p.tree.read name = .ok text := by
  cases hread : p.tree.read name with
  | ok text => exact ⟨text, rfl⟩
  | error fault =>
    rw [checkFile, readSource, hread] at h
    cases h

/-- Without edits nothing is written. -/
theorem tree_of_checkFile (h : p.checkFile a false name = .ok p') : p'.tree = p.tree := by
  rw [checkFile] at h
  split at h
  · cases h
    rfl
  · cases h
  · cases h
    exact tree_record _ _ _

end Step

/-! ### Several files -/

section Run

variable {a : Analyzer} {fix : Bool} {name : String} {names : List String} {p p' p'' : Progress}

theorem passes_nil (a : Analyzer) (fix : Bool) (p : Progress) : Passes a fix [] p p where
  rewritten := .refl _ _
  read := fun _ hname => absurd hname List.not_mem_nil
  violations := (List.append_nil _).symm
  sources := (List.append_nil _).symm
  corrections := rfl

/-- A file that could be read can be read. -/
theorem Passes.exists_read (h : Passes a fix names p p') (hname : name ∈ names) {text : List Char}
    (hread : p.tree.read name = .ok text) : ∃ left, p'.tree.read name = .ok left := by
  rw [h.read name hname]
  cases a.mended? fix p.tree name with
  | none => exact ⟨text, hread⟩
  | some o => exact ⟨o.text, rfl⟩

/-- Files to which other names lead can be read as before. -/
theorem Passes.read_of_ne (h : Passes a fix names p p') {other : String}
    (hne : ∀ name ∈ names, p.tree.locate name ≠ p.tree.locate other) :
    p'.tree.read other = p.tree.read other := by
  refine h.rewritten.read fun place hplace hled => ?_
  obtain ⟨name, hname, hleads⟩ := hled
  exact hne name (List.mem_of_mem_filter hname) (hleads.trans hplace.symm)

/-- **A file and then others**: neither changes what there is to say of the other. -/
theorem Passes.cons (hstep : Passes a fix [name] p p') (hrest : Passes a fix names p' p'')
    (hne : ∀ other ∈ names, p.tree.locate name ≠ p.tree.locate other) :
    Passes a fix (name :: names) p p'' := by
  have hlater : ∀ other ∈ names, p'.tree.read other = p.tree.read other := fun other hother =>
    hstep.read_of_ne fun first hfirst => List.mem_singleton.1 hfirst ▸ hne other hother
  have hearlier : p''.tree.read name = p'.tree.read name := by
    refine hrest.read_of_ne fun other hother => ?_
    rw [hstep.rewritten.locate, hstep.rewritten.locate]
    exact (hne other hother).symm
  have hmended : ∀ other ∈ names, a.mended? fix p'.tree other = a.mended? fix p.tree other :=
    fun other hother => (a.says_congr (hlater other hother)).2.2 fix
  obtain ⟨hfindings, hrecorded, -⟩ := a.says_congr hearlier
  constructor
  · refine (hstep.rewritten.mono ?_).trans (hrest.rewritten.mono ?_)
    · rintro place ⟨first, hfirst, hleads⟩
      obtain ⟨hmem, hsome⟩ := List.mem_filter.1 hfirst
      exact ⟨first, List.mem_filter.2 ⟨List.mem_cons.2 (.inl (List.mem_singleton.1 hmem)), hsome⟩, hleads⟩
    · rintro place ⟨other, hother, hleads⟩
      obtain ⟨hmem, hsome⟩ := List.mem_filter.1 hother
      rw [hmended other hmem] at hsome
      rw [hstep.rewritten.locate] at hleads
      exact ⟨other, List.mem_filter.2 ⟨List.mem_cons_of_mem name hmem, hsome⟩, hleads⟩
  · intro other hother
    rcases List.mem_cons.1 hother with rfl | hmem
    · rw [hearlier]
      exact hstep.read other (List.mem_singleton_self other)
    · rw [hrest.read other hmem, hmended other hmem, hlater other hmem]
  · rw [hrest.violations, hstep.violations, List.flatMap_singleton, List.flatMap_cons, hfindings,
      List.append_assoc]
  · rw [hrest.sources, hstep.sources, List.flatMap_singleton, List.flatMap_cons, hrecorded,
      List.append_assoc]
  · have hcount : a.editCount fix p'.tree names = a.editCount fix p.tree names := by
      rw [Analyzer.editCount, Analyzer.editCount, List.filterMap_congr hmended]
    rw [hrest.corrections, hstep.corrections, hcount, Nat.add_assoc, ← a.editCount_cons]

/-- **A check of files that can be read comes to its end.** -/
theorem exists_checkFiles (a : Analyzer) (fix : Bool)
    (hnames : names.Pairwise fun x y => p.tree.locate x ≠ p.tree.locate y)
    (hread : ∀ name ∈ names, ∃ text, p.tree.read name = .ok text) :
    ∃ p', p.checkFiles a fix names = (p', none) ∧ Passes a fix names p p' := by
  induction names generalizing p with
  | nil => exact ⟨p, rfl, passes_nil a fix p⟩
  | cons name names ih =>
    obtain ⟨hne, hnames⟩ := List.pairwise_cons.1 hnames
    obtain ⟨⟨text, htext⟩, hread⟩ := List.forall_mem_cons.1 hread
    obtain ⟨p', hfile, hstep⟩ := exists_checkFile a fix htext
    have hnames' : names.Pairwise fun x y => p'.tree.locate x ≠ p'.tree.locate y := by
      simpa only [hstep.rewritten.locate] using hnames
    have hread' : ∀ other ∈ names, ∃ text, p'.tree.read other = .ok text := by
      intro other hother
      rw [hstep.read_of_ne fun first hfirst => List.mem_singleton.1 hfirst ▸ hne other hother]
      exact hread other hother
    obtain ⟨p'', hfiles, hrest⟩ := ih hnames' hread'
    refine ⟨p'', ?_, hstep.cons hrest hne⟩
    rw [checkFiles, hfile]
    exact hfiles

/-- **A check that comes to its end has read all files.** -/
theorem read_of_checkFiles (hnames : names.Pairwise fun x y => p.tree.locate x ≠ p.tree.locate y)
    (h : p.checkFiles a fix names = (p', none)) : ∀ name ∈ names, ∃ text, p.tree.read name = .ok text := by
  induction names generalizing p with
  | nil => exact fun _ hname => absurd hname List.not_mem_nil
  | cons name names ih =>
    obtain ⟨hne, hnames⟩ := List.pairwise_cons.1 hnames
    rw [checkFiles] at h
    cases hfile : p.checkFile a fix name with
    | error e =>
      rw [hfile] at h
      cases h
    | ok next =>
      rw [hfile] at h
      obtain ⟨text, htext⟩ := exists_read_of_checkFile hfile
      obtain ⟨_, hfile', hstep⟩ := exists_checkFile a fix htext
      cases hfile.symm.trans hfile'
      have hnames' : names.Pairwise fun x y => next.tree.locate x ≠ next.tree.locate y := by
        simpa only [hstep.rewritten.locate] using hnames
      refine List.forall_mem_cons.2 ⟨⟨text, htext⟩, fun other hother => ?_⟩
      rw [← hstep.read_of_ne fun first hfirst => List.mem_singleton.1 hfirst ▸ hne other hother]
      exact ih hnames' h other hother

/-- **Without edits nothing is written**, whether or not the check comes to its end. -/
theorem tree_checkFiles (p : Progress) (a : Analyzer) (names : List String) :
    (p.checkFiles a false names).1.tree = p.tree := by
  induction names generalizing p with
  | nil => rfl
  | cons name names ih =>
    rw [checkFiles]
    cases hfile : p.checkFile a false name with
    | error e => rfl
    | ok next => exact (ih next).trans (tree_of_checkFile hfile)

end Run

end Progress

end SourceLint
