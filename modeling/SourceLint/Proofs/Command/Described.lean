import SourceLint.Proofs.Command.WholeCheck
import SourceLint.Proofs.Rules.Reports

/-!
# The report is about the files as they are left

A check that writes edits reads a file before and parses it again afterwards.  Its report is the one that a
look at the files in the end would make.

* **`CheckResult.Describes`** — an outcome says of the files of a tree what there is to say.
* **`check_describes_files_left`** — the outcome of a check describes the tree that the check leaves, and
  another check of this tree has the same outcome as long as the configuration is the same.
* **`check_fails_on_files_left`** — the configuration file may be one of the files that are corrected.
-/

namespace SourceLint

open SourceLint.Files SourceLint.Text

/-- The outcome says what there is to say of the files of a tree. -/
structure CheckResult.Describes (result : CheckResult) (config : Config) (a : Analyzer)
    (files : List String) (t : Tree) : Prop where
  /-- The violations are those that the analyzer finds in one file after the other. -/
  violations : result.report.violations = files.flatMap (a.findingsIn t)
  inOrder : result.report.violations.Pairwise fun v w => v.notAfter w = true
  /-- The files with violations are recorded, each once. -/
  sources : result.sources.map (·.1) = files.filter fun name => !(a.findingsIn t name).isEmpty
  texts : ∀ entry ∈ result.sources, t.read entry.1 = .ok entry.2
  /-- Every violation is a stretch of the text of its file. -/
  covers : ∀ v ∈ result.report.violations, v.location.file ∈ files ∧
    ∃ source, readSource t v.location.file = .ok source ∧ source.Covers v
  failed_iff : result.failed = true ↔
    ∃ v ∈ result.report.violations, config.threshold.reaches v.severity = true

/-! ### One file after the other -/

namespace Analyzer

variable {a : Analyzer} (hbuiltin : ∀ r ∈ a.rules, r.IsBuiltin) {t : Tree} {name : String}

include hbuiltin

theorem covers_of_mem_findingsIn {v : Violation} (hv : v ∈ a.findingsIn t name) :
    v.location.file = name ∧ ∃ source, readSource t name = .ok source ∧ source.Covers v := by
  cases hsource : readSource t name with
  | error e =>
    rw [(a.says_of_error hsource).1] at hv
    cases hv
  | ok source =>
    rw [(a.says_of_readSource hsource).1] at hv
    obtain ⟨text, -, hparse⟩ := readSource_eq_ok_iff.1 hsource
    have hcovers := covers_of_isBuiltin hbuiltin hv
    exact ⟨hcovers.file.trans (SourceFile.parse_eq_ok_iff.1 hparse).1, source, rfl, hcovers⟩

/-- The violations in files that are in order are in order. -/
theorem pairwise_findings {files : List String}
    (hfiles : files.Pairwise fun x y => PathName.order x y = .lt) :
    (files.flatMap (a.findingsIn t)).Pairwise fun v w => v.notAfter w = true := by
  rw [List.pairwise_flatMap]
  constructor
  · intro name _
    rw [findingsIn]
    split
    · exact pairwise_sortViolations _
    · exact List.Pairwise.nil
  · refine hfiles.imp fun {x y} hlt v hv w hw => ?_
    rw [Violation.notAfter, Violation.order, (covers_of_mem_findingsIn hbuiltin hv).1,
      (covers_of_mem_findingsIn hbuiltin hw).1, hlt]
    rfl

end Analyzer

/-- A file is recorded with its text if there are violations in it. -/
theorem Analyzer.mem_recordedIn {a : Analyzer} {t : Tree} {name : String} {entry : String × List Char}
    (h : entry ∈ a.recordedIn t name) : t.read entry.1 = .ok entry.2 := by
  cases hsource : readSource t name with
  | error e =>
    rw [(a.says_of_error hsource).2] at h
    cases h
  | ok source =>
    rw [(a.says_of_readSource hsource).2] at h
    split at h
    · cases h
    · cases List.mem_singleton.1 h
      obtain ⟨text, hread, hparse⟩ := readSource_eq_ok_iff.1 hsource
      rw [(SourceFile.parse_eq_ok_iff.1 hparse).2]
      exact hread

theorem Analyzer.map_recorded (a : Analyzer) (t : Tree) (files : List String) :
    (files.flatMap (a.recordedIn t)).map (·.1) = files.filter fun name => !(a.findingsIn t name).isEmpty := by
  induction files with
  | nil => rfl
  | cons name files ih =>
    rw [List.flatMap_cons, List.map_append, ih, List.filter_cons]
    cases hsource : readSource t name with
    | error e =>
      obtain ⟨hfindings, hrecorded⟩ := a.says_of_error hsource
      rw [hfindings, hrecorded]
      rfl
    | ok source =>
      obtain ⟨hfindings, hrecorded⟩ := a.says_of_readSource hsource
      rw [hfindings, hrecorded]
      cases (a.analyze source).isEmpty with
      | true => rfl
      | false => rfl

/-! ### Checks -/

/-- **What a check makes of its files.** -/
theorem Progress.Passes.describes {a : Analyzer} (hbuiltin : ∀ r ∈ a.rules, r.IsBuiltin) {fix : Bool}
    {files : List String} (hfiles : files.Pairwise fun x y => PathName.order x y = .lt) {t : Tree}
    {p : Progress} (h : (beginning t a).Passes a fix files p) (config : Config) :
    (p.result config).Describes config a files p.tree := by
  have hfound : p.report.violations = files.flatMap (a.findingsIn p.tree) := h.violations
  have hsorted := Analyzer.pairwise_findings hbuiltin (t := p.tree) hfiles
  have hviolations : (p.result config).report.violations = files.flatMap (a.findingsIn p.tree) := by
    show sortViolations p.report.violations = _
    rw [hfound]
    exact List.mergeSort_of_pairwise hsorted
  have hsources : (p.result config).sources = files.flatMap (a.recordedIn p.tree) := h.sources
  constructor
  · exact hviolations
  · rwa [hviolations]
  · rw [hsources, a.map_recorded]
  · intro entry hentry
    rw [hsources] at hentry
    obtain ⟨name, -, hmem⟩ := List.mem_flatMap.1 hentry
    exact Analyzer.mem_recordedIn hmem
  · intro v hv
    rw [hviolations] at hv
    obtain ⟨name, hname, hmem⟩ := List.mem_flatMap.1 hv
    obtain ⟨rfl, hcovers⟩ := Analyzer.covers_of_mem_findingsIn hbuiltin hmem
    exact ⟨hname, hcovers⟩
  · exact List.any_eq_true

/-- Outcomes that describe the same files say the same. -/
theorem CheckResult.Describes.unique {result again : CheckResult} {config : Config} {a : Analyzer}
    {files : List String} {t : Tree} (h : result.Describes config a files t)
    (h' : again.Describes config a files t) :
    again.report.violations = result.report.violations ∧ again.sources = result.sources ∧
      again.failed = result.failed := by
  have hviolations : again.report.violations = result.report.violations :=
    h'.violations.trans h.violations.symm
  have hnamed {entries : List (String × List Char)} (hentries : ∀ e ∈ entries, t.read e.1 = .ok e.2) :
      (entries.map (·.1)).map (fun name => (name, (t.read name).toOption.getD [])) = entries := by
    rw [List.map_map]
    refine (List.map_congr_left fun e he => ?_).trans (List.map_id entries)
    rw [Function.comp_apply, hentries e he]
    rfl
  refine ⟨hviolations, ?_, ?_⟩
  · rw [← hnamed h.texts, ← hnamed h'.texts, h.sources, h'.sources]
  · rw [Bool.eq_iff_iff, h'.failed_iff, h.failed_iff, hviolations]

/-- Where the configuration of a check is does not depend on what is in files. -/
theorem ConfigFile.find_rewritten {p : Place → Prop} {t t' : Tree} (h : Tree.RewrittenAt p t t')
    (target : String) (explicitName? : Option String) :
    find t' target explicitName? = find t target explicitName? := by
  have hentry : t'.hasEntry = t.hasEntry := funext h.hasEntry
  have hproject : projectOf t' target = projectOf t target := by rw [projectOf, projectOf, h.isFile]
  rw [find.eq_def, find.eq_def, hproject, hentry]

/-- What the configuration is depends on what is in the file. -/
theorem ConfigFile.load_congr {f : ConfigFile} {t t' : Tree}
    (h : ∀ name, f.name? = some name → t'.read name = t.read name) : f.load t' = f.load t := by
  rw [load, load]
  cases hname : f.name? with
  | none => rfl
  | some name =>
    dsimp only
    rw [read, read, h name hname]

/-- **The report is about the files as they are left.**  Let a check succeed.  There are a configuration, an
analyzer and files, in strict order, and the outcome says of these files what there is to say when the
check is over: the violations are, in the order of reports, those that the analyzer finds in the texts that
can be parsed, one file after the other; the files with violations are recorded with their texts; every
violation is a stretch of the text of its file; and the check fails exactly if some violation is severe
enough.  So another check without edits says the same, provided that the configuration is still the same. -/
theorem check_describes_files_left {t left : Tree} {options : CheckOptions} {configName? : Option String}
    {result : CheckResult} (ht : t.Lawful) (h : check t options configName? = (left, .ok result)) :
    ∃ config a files, prepare t options configName? = .ok (config, a, files) ∧
      files.Pairwise (fun x y => PathName.order x y = .lt) ∧
      result.Describes config a files left ∧
      ((ConfigFile.find t options.path configName?).load left = .ok config →
        ∃ again, check left { options with fix := false } configName? = (left, .ok again) ∧
          again.report.violations = result.report.violations ∧ again.sources = result.sources ∧
          again.failed = result.failed) := by
  obtain ⟨config, a, files, p, hprepare, hread, hpasses, rfl, rfl⟩ := passes_of_check ht h
  obtain ⟨-, ha, hfiles⟩ := prepare_eq_ok_iff.1 hprepare
  have hbuiltin := isBuiltin_of_checkAnalyzer ha
  have horder := (discover_spec ht hfiles).1
  have hdescribes := hpasses.describes hbuiltin horder config
  refine ⟨config, a, files, hprepare, horder, hdescribes, fun hsame => ?_⟩
  have hrewritten : Tree.RewrittenAt (t.LedToBy files) t p.tree := by
    refine hpasses.rewritten.mono ?_
    rintro place ⟨name, hname, hleads⟩
    exact ⟨name, List.mem_of_mem_filter hname, hleads⟩
  have hprepare' : prepare p.tree { options with fix := false } configName? = .ok (config, a, files) := by
    rw [prepare_eq_ok_iff, ConfigFile.find_rewritten hrewritten]
    exact ⟨hsame, ha, discover_rewritten ht hfiles hrewritten⟩
  have hread' : ∀ name ∈ files, ∃ text, p.tree.read name = .ok text := by
    intro name hname
    obtain ⟨text, htext⟩ := hread name hname
    exact hpasses.exists_read hname htext
  obtain ⟨q, hcheck, hagain⟩ := exists_check (hrewritten.lawful ht) hprepare' hread'
  have htree : q.tree = p.tree := by
    have hkept := tree_check p.tree { options with fix := false } rfl configName?
    rwa [hcheck] at hkept
  refine ⟨q.result config, ?_, ?_⟩
  · rw [hcheck, htree]
  · rw [← htree] at hdescribes
    exact hdescribes.unique (hagain.describes hbuiltin horder config)

/-- A project of which the configuration lets warnings make a check fail, with a test case in which a comment
stands inside a visibility. -/
def warningsFail : Tree where
  directories := []
  files := [
    (["w", "lintel.toml"], .text "fail_on = \"warning\"\n".toList),
    (["w", "a.rs"], .text TestCaseAccessibility.commentInVisibility)]
  workingDirectory := ["w"]

/-- Members of test cases are made private. -/
def hidesMembers : CheckOptions := ⟨".", some TestCaseAccessibility.identifier, [], true⟩

/-- The one edit takes the comment away, so the next member is reported, as it is by the second check. -/
theorem check_describes_files_left_warningsFail :
    warningsFail.Lawful ∧ ∃ left result again,
      check warningsFail hidesMembers none = (left, .ok result) ∧
        result.report.correctionsApplied = 1 ∧ result.failed = true ∧
        check left { hidesMembers with fix := false } none = (left, .ok again) ∧
        again.report.violations = result.report.violations ∧ again.failed = true := by
  -- all that is asked about the first check is decided at once, so that it is run once
  obtain ⟨hlawful, hrun, hfound, hsame⟩ : warningsFail.Lawful ∧
      (check warningsFail hidesMembers none).2.toOption.map
        (fun result => (result.report.correctionsApplied, result.failed)) = some (1, true) ∧
      (ConfigFile.find warningsFail hidesMembers.path none).name? = some "./lintel.toml" ∧
      (check warningsFail hidesMembers none).1.read "./lintel.toml" = warningsFail.read "./lintel.toml" := by
    decide +kernel
  have hconfig : ∀ name, (ConfigFile.find warningsFail hidesMembers.path none).name? = some name →
      (check warningsFail hidesMembers none).1.read name = warningsFail.read name := by
    intro name hname
    cases hfound.symm.trans hname
    exact hsame
  refine ⟨hlawful, ?_⟩
  rcases hcheck : check warningsFail hidesMembers none with ⟨left, outcome⟩
  rw [hcheck] at hrun hconfig
  cases outcome with
  | error e => cases hrun
  | ok result =>
    obtain ⟨hcount, hfailed⟩ := Prod.mk.inj (Option.some.inj hrun)
    obtain ⟨config, a, files, hprepare, -, -, hrest⟩ := check_describes_files_left hlawful hcheck
    have hload := (ConfigFile.load_congr hconfig).trans (prepare_eq_ok_iff.1 hprepare).1
    obtain ⟨again, hagain, hviolations, -, hsame⟩ := hrest hload
    exact ⟨left, result, again, rfl, hcount, hfailed, hagain, hviolations, hsame.trans hfailed⟩

/-! ### A configuration that is corrected -/

/-- A file that is a source file and a configuration.  A visibility stands at the end of a line that is a
comment of the configuration, and the line after it belongs to an array. -/
def selfConfigured : Tree where
  directories := []
  files := [
    (["w", "a.rs"], .text
      ("#[\nk = [ #[a] 0]] #[derive(XCTestCase)] struct T( pub\ninf\n, #[a] X); #[b\n]\n" ++
        "#[c] struct S;\n").toList)]
  workingDirectory := ["w"]

/-- The members in this file are made private. -/
def hidesOwnMembers : CheckOptions := ⟨"a.rs", some TestCaseAccessibility.identifier, [], true⟩

/-- Making the member private joins the two lines, and the configuration cannot be read any more. -/
theorem check_fails_on_files_left :
    selfConfigured.Lawful ∧
      (∃ result, (check selfConfigured hidesOwnMembers (some "a.rs")).2 = .ok result) ∧
      ∃ error, (check (check selfConfigured hidesOwnMembers (some "a.rs")).1
        { hidesOwnMembers with fix := false } (some "a.rs")).2 = .error error := by
  obtain ⟨hlawful, hfirst, hsecond⟩ : selfConfigured.Lawful ∧
      (check selfConfigured hidesOwnMembers (some "a.rs")).2.isOk = true ∧
      (check (check selfConfigured hidesOwnMembers (some "a.rs")).1
        { hidesOwnMembers with fix := false } (some "a.rs")).2.isOk = false := by
    decide +kernel
  exact ⟨hlawful, exists_of_isOk hfirst, exists_error_of_isOk hsecond⟩

end SourceLint
