import Mathlib.Data.List.Nodup
import SourceLint.Proofs.Analysis.Correction
import SourceLint.Proofs.Edit.Deletion
import SourceLint.Proofs.Rules.TestCases
import SourceLint.Proofs.Source.Offset
import SourceLint.Proofs.Syntax.Conceal

/-!
# Making members of test cases private

The edit for an exposed member takes away its visibility and the blanks after it.  That all these edits can
be made in one pass rests on where visibilities stand: no two of them share a byte, and a visibility begins
with `pub`, so the blanks after another one end before it.

* **`exposures_conceal`** — which members are exposed when some of them are made private: the others.
* **`VisibilitiesApart`** — where visibilities stand in a text.
* **`usableCorrection?_of_mem_exposures`**, **`overlaps_removal`** — the edits can be used, and together.
* **`correct_alone`** — a pass of an analyzer that runs only this rule.
* **`correct_removes_exposed_visibilities`**, **`correct_leaves_allowed_members`** — what such a pass
  leaves, without and with comments that allow members.

What is said of members after a pass is said of the tree of the first text without some visibilities.  It is
not shown that the text which the pass leaves has this tree, nor where comments stand in it.
-/

namespace SourceLint

open Syntax Syntax.Node Text

namespace TestCaseAccessibility

/-! ### Members that become private -/

section Concealed

variable (hidden : Address → Bool)

/-- Whether a node makes a type a test case does not depend on visibilities. -/
theorem testCaseOf?_conceal (parents : List String) (n : Node) :
    testCaseOf? parents (n.conceal hidden) = testCaseOf? parents n := by
  rw [testCaseOf?, testCaseOf?, attributes_conceal, label_conceal]
  cases hidden [] with
  | false => rfl
  | true => cases n.label <;> rfl

theorem testCases_conceal (r : TestCaseAccessibility) (tree : Node) :
    r.testCases (tree.conceal hidden) = r.testCases tree := by
  rw [testCases, testCases, Visitor.run_of_skipped_nil rfl, Visitor.run_of_skipped_nil rfl,
    hookable_conceal]
  refine List.flatMap_congr fun p _ => ?_
  rw [Visitor.answersAt, Visitor.answersAt, at?_conceal]
  cases tree.at? p with
  | none => rfl
  | some n => exact congrArg Option.toList (testCaseOf?_conceal _ r.parentTypes n)

theorem ownerName?_conceal (n : Node) :
    ownerName? (n.conceal hidden).label = ownerName? n.label := by
  refine of_label_conceal hidden ownerName? (fun l => ?_) n
  cases l <;> rfl

theorem member?_conceal (n : Node) :
    member? (n.conceal hidden) =
      (member? n).map fun m => if hidden [] then { m with visibility := none } else m := by
  rw [member?, member?, attributes_conceal, label_conceal]
  cases hidden [] with
  | false => simp
  | true =>
    cases n.label with
    | implFunction m receiverOnly =>
      change (if _ then none else some _) = Option.map _ (if _ then none else some m)
      split <;> rfl
    | _ => rfl

/-- A member that is hidden is not exposed, and any other one is if it was. -/
theorem exposed?_conceal (r : TestCaseAccessibility) (n : Node) :
    r.exposed? (n.conceal hidden) = if hidden [] then none else r.exposed? n := by
  rw [exposed?, exposed?, member?_conceal]
  cases hh : hidden [] <;> cases member? n <;> rfl

theorem holds_conceal (n c : Node) (h : Address → Bool) :
    holds (n.conceal hidden).label (c.conceal h).label = holds n.label c.label := by
  have howner : ∀ l m : Label, holds l.conceal m = holds l m := by
    intro l m
    cases l <;> rfl
  have hholder : ∀ l m : Label, holds l m.conceal = holds l m := by
    intro l m
    cases m with
    | part part => rfl
    | _ => cases l <;> rfl
  rw [of_label_conceal hidden (fun l => holds l _) fun l => howner l _]
  exact of_label_conceal h (holds n.label) (hholder n.label) c

theorem membersAt_conceal (n : Node) :
    membersAt (n.conceal hidden) =
      (membersAt n).map fun m => (m.1, m.2.conceal fun p => hidden (m.1 ++ p)) := by
  rw [membersAt, membersAt, zipIdx_children_conceal, List.flatMap_map, List.map_flatMap]
  refine List.flatMap_congr fun c _ => ?_
  rw [holds_conceal]
  split
  · rw [zipIdx_children_conceal, List.map_map, List.map_map]
    rfl
  · rfl

theorem exposure?_conceal (r : TestCaseAccessibility) (owner : String) (q : Address)
    (m : Address × Node) :
    r.exposure? owner q (m.1, m.2.conceal fun p => hidden (q ++ (m.1 ++ p))) =
      (r.exposure? owner q m).filter fun e => !hidden e.place := by
  rw [exposure?, exposure?, exposed?_conceal, List.append_nil]
  cases r.exposed? m.2 with
  | none => cases hidden (q ++ m.1) <;> rfl
  | some e => cases h : hidden (q ++ m.1) <;> simp [Option.filter, h]

theorem exposuresAt_conceal (r : TestCaseAccessibility) (cases : List String) (tree : Node)
    (q : Address) :
    r.exposuresAt cases (tree.conceal hidden) q =
      (r.exposuresAt cases tree q).filter fun e => !hidden e.place := by
  rw [exposuresAt, exposuresAt, at?_conceal]
  cases tree.at? q with
  | none => rfl
  | some n =>
    rw [Option.map_some, Option.elim_some, Option.elim_some, ownerName?_conceal]
    cases ownerName? n.label with
    | none => rfl
    | some owner =>
      dsimp only
      split
      · rw [membersAt_conceal, List.filterMap_map, List.filter_filterMap]
        exact List.filterMap_congr fun m _ => exposure?_conceal hidden r owner q m
      · rfl

/-- **Making members private takes their exposures away and no others.** -/
theorem exposures_conceal (r : TestCaseAccessibility) (tree : Node) :
    r.exposures (tree.conceal hidden) = (r.exposures tree).filter fun e => !hidden e.place := by
  rw [exposures, exposures, hookable_conceal, testCases_conceal, List.filter_flatMap]
  exact List.flatMap_congr fun q _ => exposuresAt_conceal hidden r _ tree q

/-- What the rule reports on a file if the tree is taken for that of the file. -/
def report (r : TestCaseAccessibility) (source : SourceFile) (tree : Node) : List Violation :=
  (r.visitor source (r.testCases tree)).run tree

theorem check_eq_report (r : TestCaseAccessibility) (source : SourceFile) :
    r.rule.check source = r.report source source.tree := rfl

theorem check_eq_exposures (r : TestCaseAccessibility) (source : SourceFile) :
    r.rule.check source = (r.exposures source.tree).map (Exposure.violation r source) :=
  (check_eq_report r source).trans
    (run_visitor_eq_exposures r source (plain_of_parseProgram source.parsed))

/-- What is still reported when members are made private. -/
theorem report_conceal (r : TestCaseAccessibility) (source file : SourceFile) :
    r.report file (source.tree.conceal hidden) =
      ((r.exposures source.tree).filter fun e => !hidden e.place).map
        (Exposure.violation r file) := by
  have hplain : source.tree.Plain := plain_of_parseProgram source.parsed
  rw [report, run_visitor_eq_exposures r file (fits_conceal hidden hplain), exposures_conceal]

/-- When some of the exposed members are made private, the others are still reported. -/
theorem report_conceal_places (r : TestCaseAccessibility) (source file : SourceFile)
    (mended : Exposure → Bool) :
    r.report file (source.tree.conceal
        (((r.exposures source.tree).filter mended).map (·.place)).contains) =
      ((r.exposures source.tree).filter fun e => !mended e).map (Exposure.violation r file) := by
  have hinj := List.inj_on_of_nodup_map (r.nodup_exposures source.tree)
  rw [report_conceal]
  congr 1
  refine List.filter_congr fun e he => ?_
  congr 1
  -- no other exposed member stands at the same address
  rw [Bool.eq_iff_iff, List.contains_iff_mem, List.mem_map]
  constructor
  · rintro ⟨e', he', hplace⟩
    obtain ⟨hmem, hmended⟩ := List.mem_filter.1 he'
    rwa [← hinj hmem he hplace]
  · intro hmended
    exact ⟨e, List.mem_filter.2 ⟨he, hmended⟩, rfl⟩

end Concealed

/-! ### Visibilities in a text -/

/-- No two visibilities of members share a byte of the text, and each begins with `pub`. -/
def VisibilitiesApart (text : List Char) (tree : Node) : Prop :=
  (tree.visibilities.Pairwise fun s t => byteOffset text s.stop ≤ byteOffset text t.start ∨
    byteOffset text t.stop ≤ byteOffset text s.start) ∧
  ∀ s ∈ tree.visibilities,
    "pub".toList <+: slice (byteOffset text s.start) (byteOffset text s.stop) text

instance (text : List Char) (tree : Node) : Decidable (VisibilitiesApart text tree) :=
  inferInstanceAs (Decidable (_ ∧ _))

/-- The edit for a violation: its stretch goes away, with the blanks after it. -/
def removal (text : List Char) (v : Violation) : Substitution :=
  deletionWithBlanks text v.location.offset v.location.stop

/-- A stretch that begins with `pub` is not empty, and its first character is not blank. -/
theorem of_pub_prefix_slice {text : List Char} {start stop : Nat}
    (h : "pub".toList <+: slice start stop text) :
    start < stop ∧ ∃ rest, dropBytes start text = 'p' :: rest := by
  have hdrop : "pub".toList <+: dropBytes start text :=
    h.trans ⟨_, takeBytes_append_dropBytes (stop - start) (dropBytes start text)⟩
  constructor
  · by_contra hle
    rw [slice, Nat.sub_eq_zero_of_le (Nat.le_of_not_lt hle), takeBytes_zero] at h
    exact absurd (List.prefix_nil.1 h) (by decide)
  · obtain ⟨rest, hrest⟩ := hdrop
    exact ⟨'u' :: 'b' :: rest, hrest.symm⟩

/-- An exposed member has a visibility. -/
theorem visibilityAt?_of_mem_exposures {r : TestCaseAccessibility} {tree : Node} {e : Exposure}
    (h : e ∈ r.exposures tree) : tree.visibilityAt? e.place = some e.span := by
  obtain ⟨n, m, ⟨q, i, j, o, holder, hplace, hq, hi, _, hj, hmember⟩, _, _, hvisible⟩ :=
    (mem_exposures.1 h).visible
  have hlabel : n.label.member? = some m := by
    cases hmember with
    | field h | constant h | type h | function h =>
      rw [h]
      rfl
  have hat : tree.at? e.place = some n := by
    rw [hplace, at?_append, hq]
    simp [at?, hi, hj]
  rw [visibilityAt?, hat, Option.bind_some, hlabel, Option.bind_some, hvisible]

section Removal

variable {r : TestCaseAccessibility} {source : SourceFile}
  (happart : VisibilitiesApart source.text source.tree) {e : Exposure}
  (he : e ∈ r.exposures source.tree)

include happart he

theorem pub_prefix_of_mem_exposures :
    "pub".toList <+: slice (source.offset e.span.start) (source.offset e.span.stop) source.text :=
  happart.2 e.span (mem_visibilities.2 ⟨e.place, visibilityAt?_of_mem_exposures he⟩)

/-- An exposure is located exactly at the bytes of the visibility. -/
theorem stop_violation_of_mem_exposures :
    (e.violation r source).location.stop = source.offset e.span.stop := by
  have hlt := (of_pub_prefix_slice (pub_prefix_of_mem_exposures happart he)).1
  exact (source.stop_location e.span).trans (Nat.max_eq_left (Nat.le_of_lt hlt))

theorem removal_violation_of_mem_exposures :
    removal source.text (e.violation r source) =
      deletionWithBlanks source.text (source.offset e.span.start) (source.offset e.span.stop) := by
  rw [removal, stop_violation_of_mem_exposures happart he]
  rfl

theorem isValid_removal :
    (removal source.text (e.violation r source)).isValid source.text = true := by
  have hlt := (of_pub_prefix_slice (pub_prefix_of_mem_exposures happart he)).1
  rw [removal_violation_of_mem_exposures happart he, Substitution.isValid_eq_true_iff]
  exact validate_deletionWithBlanks (source.isBoundary_offset _) (source.isBoundary_offset _)
    (Nat.le_of_lt hlt)

theorem isAnchored_removal :
    Analyzer.isAnchored (removal source.text (e.violation r source)) (e.violation r source) =
      true := by
  have hlt := (of_pub_prefix_slice (pub_prefix_of_mem_exposures happart he)).1
  have hoffset : (e.violation r source).location.offset = source.offset e.span.start := rfl
  rw [removal_violation_of_mem_exposures happart he, Analyzer.isAnchored, Bool.and_eq_true,
    decide_eq_true_eq, decide_eq_true_eq, hoffset]
  exact ⟨Nat.le_refl _, Nat.le_add_right_of_le (Nat.le_of_lt hlt)⟩

/-- The rule proposes the removal of the visibility. -/
theorem correction?_of_mem_exposures :
    correction? (e.violation r source) source =
      some (removal source.text (e.violation r source)) := by
  have hpub := pub_prefix_of_mem_exposures happart he
  have hlt := (of_pub_prefix_slice hpub).1
  have hoffset : (e.violation r source).location.offset = source.offset e.span.start := rfl
  have hvalid : (Substitution.deletion (source.offset e.span.start)
      (source.offset e.span.stop)).isValid source.text = true :=
    Substitution.isValid_eq_true_iff.2 (Substitution.validate_eq_ok_iff.2
      ⟨Nat.le_of_lt hlt, source.isBoundary_offset _, source.isBoundary_offset _⟩)
  simp only [correction?, stop_violation_of_mem_exposures happart he, hoffset, hvalid,
    List.isPrefixOf_iff_prefix.2 hpub, Bool.and_self, if_true, byteLength_sub_trimStart,
    removal_violation_of_mem_exposures happart he]
  rfl

/-- The proposal can be used. -/
theorem usableCorrection?_of_mem_exposures :
    Analyzer.usableCorrection? source r.rule (e.violation r source) =
      some (removal source.text (e.violation r source)) := by
  have hrule : r.rule.correction = some correction? := rfl
  simp only [Analyzer.usableCorrection?, hrule, correction?_of_mem_exposures happart he,
    isAnchored_removal happart he, isValid_removal happart he, Bool.and_self, if_true, bind,
    Option.bind_some]

end Removal

/-- The removals of two visibilities do not overlap. -/
theorem overlaps_removal {r : TestCaseAccessibility} {source : SourceFile}
    (happart : VisibilitiesApart source.text source.tree) {e e' : Exposure}
    (he : e ∈ r.exposures source.tree) (he' : e' ∈ r.exposures source.tree)
    (hne : e.place ≠ e'.place) :
    (removal source.text (e.violation r source)).overlaps
      (removal source.text (e'.violation r source)) = false := by
  rw [removal_violation_of_mem_exposures happart he, removal_violation_of_mem_exposures happart he']
  obtain ⟨hlt, rest, hrest⟩ := of_pub_prefix_slice (pub_prefix_of_mem_exposures happart he)
  obtain ⟨hlt', rest', hrest'⟩ := of_pub_prefix_slice (pub_prefix_of_mem_exposures happart he')
  have hp : isBlank 'p' = false := by decide
  rcases of_pairwise_visibilities Or.symm happart.1 (visibilityAt?_of_mem_exposures he)
    (visibilityAt?_of_mem_exposures he') hne with hle | hle
  · exact overlaps_deletionWithBlanks (source.isBoundary_offset _) (source.isBoundary_offset _) hlt
      hle hrest' hp
  · rw [Substitution.overlaps_comm]
    exact overlaps_deletionWithBlanks (source.isBoundary_offset _) (source.isBoundary_offset _) hlt'
      hle hrest hp

/-! ### One pass -/

section Pass

variable (r : TestCaseAccessibility) (errors : List SettingsError) (honors : Bool)
  (source : SourceFile)

/-- The analyzer that runs nothing but the rule. -/
def alone : Analyzer :=
  ⟨[r.rule], errors, honors⟩

/-- The exposed members whose violations are not allowed by a comment. -/
def counted : List Exposure :=
  (r.exposures source.tree).filter fun e => (r.alone errors honors).counts source (e.violation r source)

theorem runRule_alone_perm :
    ((r.alone errors honors).runRule source r.rule).Perm
      ((r.counted errors honors source).map (Exposure.violation r source)) := by
  rw [Analyzer.runRule, check_eq_exposures, List.filter_map]
  exact sortViolations_perm _

variable {r errors honors source} (happart : VisibilitiesApart source.text source.tree)

include happart

theorem usableCorrection?_of_mem_runRule {v : Violation}
    (hv : v ∈ (r.alone errors honors).runRule source r.rule) :
    Analyzer.usableCorrection? source r.rule v = some (removal source.text v) := by
  obtain ⟨e, he, rfl⟩ := List.mem_map.1 ((runRule_alone_perm r errors honors source).mem_iff.1 hv)
  exact usableCorrection?_of_mem_exposures happart (List.mem_filter.1 he).1

theorem candidates_alone :
    (r.alone errors honors).candidates source =
      ((r.alone errors honors).runRule source r.rule).map fun v => (v, removal source.text v) := by
  rw [Analyzer.candidates, alone, List.flatMap_singleton, Analyzer.siftRule, Analyzer.sift_eq]
  refine List.filterMap_eq_map_iff_forall_eq_some.2 fun v hv => ?_
  rw [usableCorrection?_of_mem_runRule happart hv, Option.map_some]

theorem leftovers_alone :
    (r.alone errors honors).leftovers source = [] := by
  rw [Analyzer.leftovers, alone, List.flatMap_singleton, Analyzer.siftRule, Analyzer.sift_eq,
    List.filter_eq_nil_iff]
  intro v hv
  rw [usableCorrection?_of_mem_runRule happart hv]
  exact Bool.false_ne_true

theorem removals_perm :
    (((r.alone errors honors).candidates source).map (·.2)).Perm
      ((r.counted errors honors source).map fun e => removal source.text (e.violation r source)) := by
  rw [candidates_alone happart, List.map_map]
  have h := (runRule_alone_perm r errors honors source).map (removal source.text)
  rwa [List.map_map] at h

theorem pairwise_removals :
    (((r.alone errors honors).candidates source).map (·.2)).Pairwise
      fun a b => a.overlaps b = false := by
  have hplaces := List.pairwise_map.1 (r.nodup_exposures source.tree)
  have hcounted : ((r.counted errors honors source).map fun e =>
      removal source.text (e.violation r source)).Pairwise fun a b => a.overlaps b = false := by
    rw [List.pairwise_map, counted]
    refine List.Pairwise.filter _ (hplaces.imp_of_mem fun he he' hne => ?_)
    exact overlaps_removal happart he he' hne
  exact hcounted.perm (removals_perm happart).symm fun {a b} hab =>
    (Substitution.overlaps_comm b a).trans hab

/-- **One pass mends everything that counts**, and takes nothing else away. -/
theorem correct_alone :
    ∃ o, (r.alone errors honors).correct source = .ok o ∧
      o.applied = ((r.alone errors honors).runRule source r.rule).map
        (fun v => (v, removal source.text v)) ∧
      o.uncorrected = [] ∧
      utf8 o.text = untouched source.text ((r.counted errors honors source).map fun e =>
        removal source.text (e.violation r source)) := by
  have haccept : acceptNonOverlapping ((r.alone errors honors).candidates source) =
      ((r.alone errors honors).candidates source, []) :=
    acceptAfter_eq_self (pairwise_removals happart)
  have hcompatible := (r.alone errors honors).compatible_candidates source
  have hcorrect := (r.alone errors honors).correct_eq_ok source
  rw [haccept] at hcorrect hcompatible
  have hperm : (((r.alone errors honors).candidates source).map (·.2)).Perm _ :=
    removals_perm happart
  refine ⟨_, hcorrect, candidates_alone happart, ?_, ?_⟩
  · simp [leftovers_alone happart, sortViolations]
  · rw [hcompatible.utf8_splice, untouched, untouched, outside_perm hperm]
    intro s hs
    obtain ⟨e, _, rfl⟩ := List.mem_map.1 (hperm.mem_iff.1 hs)
    rfl

end Pass

/-- A test case with two members that are not private; a comment allows the second one. -/
def loginTests : List Char :=
  ("#[derive(XCTestCase)]\nstruct LoginTests \x7b\n    pub(crate)  session: Session,\n\n" ++
    "    pub retries: u8, // lintel: allow(all)\n\x7d\n").toList

theorem exists_loginTests : ∃ source : SourceFile, source.text = loginTests ∧
    (standard.exposures source.tree).map (·.name) = ["session", "retries"] ∧
    VisibilitiesApart source.text source.tree := by
  obtain ⟨source, htext, h⟩ := SourceFile.exists_of_parseProgram loginTests
    (fun tree => (standard.exposures tree).map (·.name) = ["session", "retries"] ∧
      VisibilitiesApart loginTests tree) (by decide +kernel)
  refine ⟨source, htext, ?_⟩
  rwa [htext]

/-- **Everything that is reported is mended.**  Suppose that no two visibilities share a byte and that each
of them begins with `pub`.  Where comments allow nothing, one pass applies an edit for every violation, and
the bytes of the text that are left are those outside the visibilities of the exposed members and outside
the blanks after these.  And if exactly these members are made private in the tree, nothing is reported. -/
theorem correct_removes_exposed_visibilities (r : TestCaseAccessibility) (errors : List SettingsError)
    (source : SourceFile) (happart : VisibilitiesApart source.text source.tree) :
    ∃ es : List Exposure, (∀ e, e ∈ es ↔ r.Exposes source.tree e) ∧
      r.rule.check source = es.map (Exposure.violation r source) ∧
      (∃ o, (r.alone errors false).correct source = .ok o ∧
        o.applied = (sortViolations (r.rule.check source)).map
          (fun v => (v, removal source.text v)) ∧
        o.uncorrected = [] ∧
        utf8 o.text = untouched source.text (es.map fun e => deletionWithBlanks source.text
          (source.offset e.span.start) (source.offset e.span.stop))) ∧
      ∀ file, r.report file (source.tree.conceal (es.map (·.place)).contains) = [] := by
  have hcounts : ∀ v, (r.alone errors false).counts source v = true := fun _ => rfl
  have hcounted : r.counted errors false source = r.exposures source.tree :=
    List.filter_eq_self.2 fun e _ => hcounts _
  have hrun : (r.alone errors false).runRule source r.rule = sortViolations (r.rule.check source) :=
    congrArg sortViolations (List.filter_eq_self.2 fun v _ => hcounts v)
  refine ⟨r.exposures source.tree, fun _ => mem_exposures, check_eq_exposures r source, ?_, ?_⟩
  · obtain ⟨o, hcorrect, happlied, hleft, htext⟩ := correct_alone happart
    rw [hrun] at happlied
    refine ⟨o, hcorrect, happlied, hleft, ?_⟩
    rw [htext, hcounted]
    exact congrArg _ (List.map_congr_left fun e he => removal_violation_of_mem_exposures happart he)
  · intro file
    have h := r.report_conceal_places source file fun _ => true
    simpa using h

/-- Both members of the test case are made private where comments allow nothing. -/
theorem correct_removes_exposed_visibilities_loginTests :
    ∃ source : SourceFile, source.text = loginTests ∧
      (standard.exposures source.tree).map (·.name) = ["session", "retries"] ∧
      ∃ es : List Exposure, (∀ e, e ∈ es ↔ standard.Exposes source.tree e) ∧
        standard.rule.check source = es.map (Exposure.violation standard source) ∧
        (∃ o, (standard.alone [] false).correct source = .ok o ∧
          o.applied = (sortViolations (standard.rule.check source)).map
            (fun v => (v, removal source.text v)) ∧
          o.uncorrected = [] ∧
          utf8 o.text = untouched source.text (es.map fun e => deletionWithBlanks source.text
            (source.offset e.span.start) (source.offset e.span.stop))) ∧
        ∀ file, standard.report file (source.tree.conceal (es.map (·.place)).contains) = [] := by
  obtain ⟨source, htext, hnames, happart⟩ := exists_loginTests
  exact ⟨source, htext, hnames, correct_removes_exposed_visibilities standard [] source happart⟩

/-- **What comments allow is all that is left.**  Under the same condition, one pass applies an edit for
every violation that no comment allows.  And if exactly these members are made private in the tree, those
are reported that were allowed: no member is reported that was not before.  This is the tree of the text before
the pass, so nothing is said of a second pass. -/
theorem correct_leaves_allowed_members (r : TestCaseAccessibility) (errors : List SettingsError)
    (source : SourceFile) (happart : VisibilitiesApart source.text source.tree) :
    ∃ mended allowed : List Exposure,
      (∀ e, e ∈ mended ↔ r.Exposes source.tree e ∧
        allowance source.text e.span.start.line identifier = .denied) ∧
      (∀ e, e ∈ allowed ↔ r.Exposes source.tree e ∧
        allowance source.text e.span.start.line identifier ≠ .denied) ∧
      (∃ o, (r.alone errors true).correct source = .ok o ∧
        o.applied = (sortViolations (mended.map (Exposure.violation r source))).map
          (fun v => (v, removal source.text v)) ∧
        o.uncorrected = [] ∧
        utf8 o.text = untouched source.text (mended.map fun e => deletionWithBlanks source.text
          (source.offset e.span.start) (source.offset e.span.stop))) ∧
      ∀ file, r.report file (source.tree.conceal (mended.map (·.place)).contains) =
        allowed.map (Exposure.violation r file) := by
  have hcounts : ∀ e : Exposure, (r.alone errors true).counts source (e.violation r source) = true ↔
      allowance source.text e.span.start.line identifier = .denied := by
    intro e
    have hallowance : (r.alone errors true).counts source (e.violation r source) =
        !(allowance source.text e.span.start.line identifier).isAllowed := rfl
    rw [hallowance]
    cases allowance source.text e.span.start.line identifier <;> simp [Allowance.isAllowed]
  refine ⟨r.counted errors true source, (r.exposures source.tree).filter fun e =>
    !(r.alone errors true).counts source (e.violation r source), fun e => ?_, fun e => ?_, ?_, ?_⟩
  · rw [counted, List.mem_filter, mem_exposures, hcounts]
  · rw [List.mem_filter, mem_exposures, Bool.not_eq_true', ← Bool.not_eq_true, hcounts]
  · obtain ⟨o, hcorrect, happlied, hleft, htext⟩ := correct_alone happart
    refine ⟨o, hcorrect, ?_, hleft, ?_⟩
    · rw [happlied, Analyzer.runRule, check_eq_exposures, List.filter_map]
      rfl
    · rw [htext]
      exact congrArg _ (List.map_congr_left fun e he =>
        removal_violation_of_mem_exposures happart (List.mem_filter.1 he).1)
  · exact fun file => r.report_conceal_places source file _

/-- One of the two members of the test case is allowed. -/
theorem correct_leaves_allowed_members_loginTests :
    ∃ source : SourceFile, source.text = loginTests ∧
      (standard.exposures source.tree).map (·.name) = ["session", "retries"] ∧
      ∃ mended allowed : List Exposure,
        (∀ e, e ∈ mended ↔ standard.Exposes source.tree e ∧
          allowance source.text e.span.start.line identifier = .denied) ∧
        (∀ e, e ∈ allowed ↔ standard.Exposes source.tree e ∧
          allowance source.text e.span.start.line identifier ≠ .denied) ∧
        (∃ o, (standard.alone [] true).correct source = .ok o ∧
          o.applied = (sortViolations (mended.map (Exposure.violation standard source))).map
            (fun v => (v, removal source.text v)) ∧
          o.uncorrected = [] ∧
          utf8 o.text = untouched source.text (mended.map fun e => deletionWithBlanks source.text
            (source.offset e.span.start) (source.offset e.span.stop))) ∧
        ∀ file, standard.report file (source.tree.conceal (mended.map (·.place)).contains) =
          allowed.map (Exposure.violation standard file) := by
  obtain ⟨source, htext, hnames, happart⟩ := exists_loginTests
  exact ⟨source, htext, hnames, correct_leaves_allowed_members standard [] source happart⟩

/-- The edits of a second pass, on the text that the first one leaves. -/
def secondPass? (a : Analyzer) (text : List Char) : Option (List (Violation × Substitution)) := do
  let source ← (SourceFile.parse SourceFile.snippetPath text).toOption
  let first ← (a.correct source).toOption
  let corrected ← (SourceFile.parse SourceFile.snippetPath first.text).toOption
  return (← (a.correct corrected).toOption).applied

/-- A test case in which a comment stands inside a visibility and allows the next member. -/
def commentInVisibility : List Char :=
  ("#[derive(XCTestCase)]\nstruct T \x7b\n    pub(\n    // lintel: allow(all)\n" ++
    "    crate) a: u8, pub b: u8,\n\x7d\n").toList

/-- The first pass takes the comment away together with the visibility, so a second pass makes the member
private that the comment allowed. -/
theorem correct_applies_again_commentInVisibility :
    (secondPass? (standard.alone [] true) commentInVisibility).map
        (fun applied => applied.map fun a => a.1.reason) =
      some [some (reason "b" "T")] := by
  decide +kernel

end TestCaseAccessibility

end SourceLint
