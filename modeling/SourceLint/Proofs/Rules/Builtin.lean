import SourceLint.Proofs.Analysis.Relocation
import SourceLint.Proofs.Rules.Privacy
import SourceLint.Proofs.Settings.Configured

/-!
# The rules that come with the program

What the rules of the program have in common: they look at the tree, ask for the locations of its nodes,
and write edits in terms of these locations.  So they do not notice whether a file stands behind a byte
order mark.

* **`Rule.IsBuiltin`** — one of the rules, with any settings; `isBuiltin_of_mem_configured` says that a
  configuration yields no others.
* **`PreferExpect.check_map`**, **`TestCaseAccessibility.check_map`** — the places that a rule reports
  depend on the tree and on its options alone.
* **`Rule.IsBuiltin.movesAlong`** — the rules do the same with a file behind a prefix.
* **`byteOrderMark_transparent`** — files with a byte order mark and without.
-/

namespace SourceLint

open SourceLint.Text SourceLint.Syntax

/-- The rule is one of those that come with the program, whatever its settings are. -/
inductive Rule.IsBuiltin : Rule → Prop where
  | preferExpect (settings : PreferExpect) : IsBuiltin (PreferExpect.rule settings)
  | testCaseAccessibility (settings : TestCaseAccessibility) :
      IsBuiltin (TestCaseAccessibility.rule settings)

/-- A configuration yields rules of the program for entries of the program, whatever it says. -/
theorem isBuiltin_of_mem_configured_of_subset {entries : List RuleEntry}
    (hentries : entries ⊆ builtinRules) {config : Config} {r : Rule}
    (h : r ∈ (RuleSet.configured entries config).rules) : r.IsBuiltin := by
  rw [RuleSet.configured_eq] at h
  obtain ⟨e, he, hr⟩ := List.mem_flatMap.1 h
  obtain ⟨s, hs⟩ := (RuleSet.share_ofEntry config e).build_of_mem hr
  have hbuiltin := hentries he
  simp only [builtinRules, List.mem_cons, List.not_mem_nil, or_false] at hbuiltin
  rcases hbuiltin with rfl | rfl
  · obtain ⟨settings, -, rfl⟩ := exists_of_map_ok hs
    exact .preferExpect settings
  · obtain ⟨settings, -, rfl⟩ := exists_of_map_ok hs
    exact .testCaseAccessibility settings

theorem isBuiltin_of_mem_configured {config : Config} {r : Rule}
    (h : r ∈ (RuleSet.configured builtinRules config).rules) : r.IsBuiltin :=
  isBuiltin_of_mem_configured_of_subset (List.Subset.refl builtinRules) h

/-! ### Rules that differ in what they make of places -/

section SameTree

variable {source target : SourceFile} (htree : target.tree = source.tree) {f : Violation → Violation}

namespace PreferExpect

variable (r : PreferExpect) {severity : Severity} (hf : ∀ span reason,
  target.violation identifier severity span reason = f (source.violation identifier r.severity span reason))

include hf in
theorem visitor_map : visitor { r with severity } target = (r.visitor source).map f := by
  rw [visitor, visitor, Visitor.map]
  congr 1
  funext n
  dsimp only
  cases bannedCall? r.bannedPrefix n with
  | none => rfl
  | some name => exact congrArg (fun v => [v]) (hf n.span (reason name))

include htree hf in
/-- Two files with the same tree, and severities of the rule: what is reported is the same, up to what is
made of the places. -/
theorem check_map : (rule { r with severity }).check target = (r.rule.check source).map f := by
  show (visitor _ target).run target.tree = ((r.visitor source).run source.tree).map f
  rw [htree, visitor_map r hf, Visitor.run_map]

end PreferExpect

namespace TestCaseAccessibility

variable (r : TestCaseAccessibility) {severity : Severity} (hf : ∀ span reason,
  target.violation identifier severity span reason = f (source.violation identifier r.severity span reason))

include hf

theorem memberVisitor_map (owner : String) :
    memberVisitor { r with severity } target owner = (r.memberVisitor source owner).map f := by
  rw [memberVisitor, memberVisitor, Visitor.map]
  congr 1
  funext n
  have hexposed : exposed? { r with severity } n = r.exposed? n := rfl
  dsimp only
  rw [hexposed]
  cases r.exposed? n with
  | none => rfl
  | some e => exact congrArg (fun v => [v]) (hf e.2 (reason e.1 owner))

theorem visitor_map (cases : List String) :
    visitor { r with severity } target cases = (r.visitor source cases).map f := by
  rw [visitor, visitor, Visitor.map]
  congr 1
  funext n
  dsimp only
  cases memberNodes n with
  | none => rfl
  | some m =>
    obtain ⟨owner, nodes⟩ := m
    show (if r.isChecked cases owner then
        nodes.flatMap (memberVisitor { r with severity } target owner).delegate else []) =
      (if r.isChecked cases owner then nodes.flatMap (r.memberVisitor source owner).delegate else []).map _
    -- what the members are handed on to makes the same of their places
    have hdelegate : (memberVisitor { r with severity } target owner).delegate = fun node =>
        ((r.memberVisitor source owner).delegate node).map f := by
      funext node
      rw [memberVisitor_map r hf, Visitor.delegate_map]
    rw [apply_ite (List.map _), List.map_flatMap, List.map_nil, hdelegate]

include htree

theorem check_map : (rule { r with severity }).check target = (r.rule.check source).map f := by
  show (visitor _ target (r.testCases target.tree)).run target.tree =
    ((r.visitor source (r.testCases source.tree)).run source.tree).map f
  rw [htree, visitor_map r hf, Visitor.run_map]

end TestCaseAccessibility

end SameTree

/-! ### The rules and files behind a prefix -/

section Moved

variable {before : List Char} {source moved : SourceFile}
  (hmoved : SourceFile.MovedBy before source moved)

include hmoved

theorem SourceFile.MovedBy.violation (rule : String) (severity : Severity) (span : Span)
    (reason : String) :
    moved.violation rule severity span reason =
      (source.violation rule severity span reason).moveBy (byteLength before) := by
  rw [SourceFile.violation, hmoved.location]
  rfl

theorem PreferExpect.movesAlong (r : PreferExpect) :
    r.rule.MovesAlong (byteLength before) source moved where
  check := check_map hmoved.tree r (hmoved.violation _ _)
  correction := by
    intro correct hcorrect
    cases hcorrect

namespace TestCaseAccessibility

/-- The edit is written in terms of the location and of the text from there on, so it moves along. -/
theorem correction?_moved (v : Violation) :
    correction? (v.moveBy (byteLength before)) moved =
      (correction? v source).map (·.moveBy (byteLength before)) := by
  have hdeletion : Substitution.deletion (byteLength before + v.location.offset)
      (byteLength before + v.location.stop) =
      (Substitution.deletion v.location.offset v.location.stop).moveBy (byteLength before) := rfl
  rw [correction?, correction?]
  simp only [Violation.location_moveBy, Location.offset_moveBy, Location.stop_moveBy, hmoved.text,
    hdeletion,
    Substitution.isValid_moveBy, slice_append_add, dropBytes_append_add]
  split
  · rw [Option.map_some, Nat.add_assoc]
    rfl
  · rfl

theorem movesAlong (r : TestCaseAccessibility) :
    r.rule.MovesAlong (byteLength before) source moved where
  check := check_map hmoved.tree r (hmoved.violation _ _)
  correction := by
    intro correct hcorrect v
    cases hcorrect
    exact correction?_moved hmoved v

end TestCaseAccessibility

theorem Rule.IsBuiltin.movesAlong {r : Rule} (h : r.IsBuiltin) :
    r.MovesAlong (byteLength before) source moved := by
  cases h with
  | preferExpect settings => exact settings.movesAlong hmoved
  | testCaseAccessibility settings => exact settings.movesAlong hmoved

end Moved

/-! ### Files with a byte order mark -/

/-- **A byte order mark is transparent.**  A text that does not begin with one is parsed behind one exactly
if it is parsed by itself, and the error is the same otherwise.  If it is parsed, then an analyzer of rules
of the program, whatever their settings are and whether directives are honoured or not, reports the same
violations three bytes later, applies the same edits three bytes later and leaves the same violations three
bytes later; the corrected text is the one without a mark, behind the mark. -/
theorem byteOrderMark_transparent (path : String) {text : List Char} (hmark : hasMark text = false) :
    (∀ e, SourceFile.parse path (byteOrderMark :: text) = .error e ↔
      SourceFile.parse path text = .error e) ∧
    ∀ source, SourceFile.parse path text = .ok source →
      ∃ marked, SourceFile.parse path (byteOrderMark :: text) = .ok marked ∧
        ∀ a : Analyzer, (∀ r ∈ a.rules, r.IsBuiltin) →
          a.analyze marked = (a.analyze source).map (·.moveBy 3) ∧
          ∃ o, a.correct source = .ok o ∧
            a.correct marked = .ok ⟨byteOrderMark :: o.text,
              o.applied.map (Prod.map (·.moveBy 3) (·.moveBy 3)), o.uncorrected.map (·.moveBy 3)⟩ := by
  constructor
  · intro e
    rw [SourceFile.parse_eq_error_iff, SourceFile.parse_eq_error_iff, parseProgram_mark hmark]
  · intro source hsource
    obtain ⟨rfl, rfl⟩ := SourceFile.parse_eq_ok_iff.1 hsource
    have hmoved := source.movedBy_marked hmark
    refine ⟨source.marked hmark, SourceFile.parse_eq_ok_iff.2 ⟨rfl, rfl⟩, fun a hbuiltin => ?_⟩
    have hrules : ∀ r ∈ a.rules, r.MovesAlong (byteLength [byteOrderMark]) source (source.marked hmark) :=
      fun r hr => (hbuiltin r hr).movesAlong hmoved
    rw [← byteLength_mark]
    exact ⟨Analyzer.analyze_moveBy hmoved hrules, Analyzer.correct_moveBy hmoved hrules⟩

/-- An analyzer with both rules of the program, as a configuration enables them. -/
def bothRules : Analyzer where
  rules := (RuleSet.configured builtinRules
    ((Config.standard.enable PreferExpect.identifier).enable TestCaseAccessibility.identifier)).rules
  settingsErrors := []
  honorsDirectives := true

/-- The test case of which two members are not private, behind a byte order mark. -/
theorem byteOrderMark_transparent_loginTests :
    bothRules.identifiers = [PreferExpect.identifier, TestCaseAccessibility.identifier] ∧
      ∃ source marked, SourceFile.parse source.path TestCaseAccessibility.loginTests = .ok source ∧
        SourceFile.parse source.path (byteOrderMark :: TestCaseAccessibility.loginTests) = .ok marked ∧
        bothRules.analyze marked = (bothRules.analyze source).map (·.moveBy 3) ∧
        ∃ o, bothRules.correct source = .ok o ∧
          bothRules.correct marked = .ok ⟨byteOrderMark :: o.text,
            o.applied.map (Prod.map (·.moveBy 3) (·.moveBy 3)), o.uncorrected.map (·.moveBy 3)⟩ := by
  have hmark : hasMark TestCaseAccessibility.loginTests = false := by decide +kernel
  obtain ⟨source, htext, -⟩ := TestCaseAccessibility.exists_loginTests
  have hparsed : SourceFile.parse source.path TestCaseAccessibility.loginTests = .ok source :=
    SourceFile.parse_eq_ok_iff.2 ⟨rfl, htext⟩
  obtain ⟨-, htransparent⟩ := byteOrderMark_transparent source.path hmark
  obtain ⟨marked, hmarked, hall⟩ := htransparent source hparsed
  have hbuiltin : ∀ r ∈ bothRules.rules, r.IsBuiltin := fun r hr => isBuiltin_of_mem_configured hr
  exact ⟨by decide, source, marked, hparsed, hmarked, hall bothRules hbuiltin⟩

end SourceLint
