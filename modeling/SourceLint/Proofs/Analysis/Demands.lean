import SourceLint.Proofs.Analysis.RulePass
import SourceLint.Proofs.Data.Steps
import SourceLint.Proofs.Rule.Marks
import SourceLint.Rules.Scripted

/-!
# What the examples of a rule demand

The description of a rule says what the rule does with pieces of code.  Each of them is a demand that the
rule meets or fails, and it fails in one way only.  The verification goes through the demands in order and
returns the failure of the first one that is not met.

* **`Demand`**, **`RuleDescription.demands`** — what a description demands, in the order of verification.
* **`Rule.Meets`**, **`Rule.Fails`** — that a rule does what is demanded, and how it does not.
* **`Rule.meets_or_fails`** — one of them is so, whatever the rule does.
* **`verify_eq_ok_iff`**, **`verify_eq_error_iff`** — the verification of one demand.
* **`verifyEach_eq_error_iff`** — the first failure of a list of checks.
* **`verifyExamples_exact`** — the verification of a rule.
-/

namespace SourceLint

/-! ### Demands -/

/-- Something that the description of a rule demands. -/
inductive Demand where
  /-- The code is not reported. -/
  | clean (e : Example)
  /-- The code is reported at its marks. -/
  | flagged (e : Example)
  /-- The first code is corrected to the second one, which is left as it is. -/
  | mended (before after : Example)

/-- The demands that ask for no correction, in the order in which they are verified. -/
def RuleDescription.demandsOnReports (d : RuleDescription) : List Demand :=
  d.nonTriggering.map .clean ++ d.triggering.map .flagged

/-- What a description demands, in the order in which it is verified. -/
def RuleDescription.demands (d : RuleDescription) : List Demand :=
  d.demandsOnReports ++ d.corrections.map fun pair => .mended pair.1 pair.2

/-- The source file of a text that is not in a file. -/
def IsSnippet (text : List Char) (source : SourceFile) : Prop :=
  SourceFile.parse SourceFile.snippetPath text = .ok source

/-- The offsets are those of the violations, in ascending order. -/
structure ListsOffsets (vs : List Violation) (offsets : List Nat) : Prop where
  perm : offsets.Perm (vs.map (·.location.offset))
  ascending : offsets.Pairwise (· ≤ ·)

/-- The violations are where the marks of the code are; in code without marks there is just one. -/
structure Example.MarkedBy (e : Example) (vs : List Violation) : Prop where
  atMarks : Example.marker ∈ e.code.toList → ListsOffsets vs e.markers
  single : Example.marker ∉ e.code.toList → vs.length = 1

/-- The rule does what is demanded. -/
inductive Rule.Meets (r : Rule) : Demand → Prop where
  | clean {e : Example} {source : SourceFile} (parsed : IsSnippet e.text source)
      (silent : r.check source = []) : r.Meets (.clean e)
  | flagged {e : Example} {source : SourceFile} (parsed : IsSnippet e.text source)
      (marked : e.MarkedBy (r.check source)) : r.Meets (.flagged e)
  | mended {before after : Example} {source again : SourceFile}
      (parsed : IsSnippet before.text source) (turns : r.Turns source after.text)
      (parsedAgain : IsSnippet after.text again) (stays : r.Turns again after.text) :
      r.Meets (.mended before after)

/-- The rule does not do what is demanded, and the failure says what goes wrong first. -/
inductive Rule.Fails (r : Rule) : Demand → ExampleFailure → Prop where
  | cleanUnparsable {e : Example} {error : SourceError}
      (unparsed : SourceFile.parse SourceFile.snippetPath e.text = .error error) :
      r.Fails (.clean e) (.unparsable r.identifier e.code error.message)
  | triggered {e : Example} {source : SourceFile} {offsets : List Nat}
      (parsed : IsSnippet e.text source) (reported : r.check source ≠ [])
      (lists : ListsOffsets (r.check source) offsets) :
      r.Fails (.clean e) (.triggered r.description.identifier e.code offsets)
  | flaggedUnparsable {e : Example} {error : SourceError}
      (unparsed : SourceFile.parse SourceFile.snippetPath e.text = .error error) :
      r.Fails (.flagged e) (.unparsable r.identifier e.code error.message)
  | misplaced {e : Example} {source : SourceFile} {offsets : List Nat}
      (parsed : IsSnippet e.text source) (unmarked : ¬ e.MarkedBy (r.check source))
      (lists : ListsOffsets (r.check source) offsets) :
      r.Fails (.flagged e) (.markerMismatch r.description.identifier e.code e.markers offsets)
  | mendedUnparsable {before after : Example} {error : SourceError}
      (unparsed : SourceFile.parse SourceFile.snippetPath before.text = .error error) :
      r.Fails (.mended before after) (.unparsable r.identifier before.code error.message)
  | wrong {before after : Example} {source : SourceFile} {text : List Char}
      (parsed : IsSnippet before.text source) (turns : r.Turns source text)
      (differs : text ≠ after.text) :
      r.Fails (.mended before after) (.wrongCorrection r.description.identifier
        (String.ofList after.text) (String.ofList text))
  | outcomeUnparsable {before after : Example} {source : SourceFile} {error : SourceError}
      (parsed : IsSnippet before.text source) (turns : r.Turns source after.text)
      (unparsed : SourceFile.parse SourceFile.snippetPath after.text = .error error) :
      r.Fails (.mended before after) (.unparsable r.identifier after.code error.message)
  | unstable {before after : Example} {source again : SourceFile} {text : List Char}
      (parsed : IsSnippet before.text source) (turns : r.Turns source after.text)
      (parsedAgain : IsSnippet after.text again) (turnsAgain : r.Turns again text)
      (differs : text ≠ after.text) :
      r.Fails (.mended before after) (.notIdempotent r.description.identifier
        (String.ofList after.text))

/-! ### Offsets -/

theorem listsOffsets_sortedOffsets (vs : List Violation) : ListsOffsets vs (sortedOffsets vs) where
  perm := List.mergeSort_perm _ _
  ascending := by
    have hsorted : (sortedOffsets vs).Pairwise fun a b => decide (a ≤ b) = true :=
      List.pairwise_mergeSort (by simpa using fun a b c => Nat.le_trans) (by simpa using Nat.le_total) _
    simpa using hsorted

/-- There is one way to list offsets in ascending order. -/
theorem ListsOffsets.eq_sortedOffsets {vs : List Violation} {offsets : List Nat}
    (h : ListsOffsets vs offsets) : sortedOffsets vs = offsets := by
  have hsorted := listsOffsets_sortedOffsets vs
  exact (hsorted.perm.trans h.perm.symm).eq_of_pairwise (fun _ _ _ _ => Nat.le_antisymm)
    hsorted.ascending h.ascending

theorem isEmpty_sortedOffsets {vs : List Violation} : (sortedOffsets vs).isEmpty = true ↔ vs = [] := by
  rw [List.isEmpty_iff_length_eq_zero, (listsOffsets_sortedOffsets vs).perm.length_eq, List.length_map,
    List.length_eq_zero_iff]

theorem isEmpty_markers {e : Example} : e.markers.isEmpty = true ↔ Example.marker ∉ e.code.toList := by
  rw [List.isEmpty_iff_length_eq_zero, Example.markers_eq_placesFrom, Example.length_placesFrom,
    List.count_eq_zero]

theorem agrees_iff_markedBy {e : Example} {vs : List Violation} :
    agrees e.markers (sortedOffsets vs) = true ↔ e.MarkedBy vs := by
  rw [agrees]
  by_cases hmark : Example.marker ∈ e.code.toList
  · have hempty : ¬ e.markers.isEmpty = true := fun h => isEmpty_markers.1 h hmark
    rw [if_neg hempty, beq_iff_eq]
    constructor
    · intro h
      exact ⟨fun _ => h ▸ listsOffsets_sortedOffsets vs, fun hno => absurd hmark hno⟩
    · exact fun h => (h.atMarks hmark).eq_sortedOffsets
  · rw [if_pos (isEmpty_markers.2 hmark), beq_iff_eq, (listsOffsets_sortedOffsets vs).perm.length_eq,
      List.length_map]
    exact ⟨fun h => ⟨fun hyes => absurd hyes hmark, fun _ => h⟩, fun h => h.single hmark⟩

/-! ### Parsing and correcting -/

section Steps

variable {r : Rule} {code : String} {text : List Char} {source : SourceFile}

theorem parseExample_of_isSnippet (h : IsSnippet text source) : parseExample r code text = .ok source := by
  rw [parseExample, show SourceFile.parse SourceFile.snippetPath text = .ok source from h]

theorem parseExample_of_unparsed {error : SourceError}
    (h : SourceFile.parse SourceFile.snippetPath text = .error error) :
    parseExample r code text = .error (.unparsable r.identifier code error.message) := by
  rw [parseExample, h]

/-- A text can be parsed or not. -/
theorem isSnippet_or_unparsed (text : List Char) : (∃ source, IsSnippet text source) ∨
    ∃ error, SourceFile.parse SourceFile.snippetPath text = .error error := by
  cases h : SourceFile.parse SourceFile.snippetPath text with
  | ok source => exact .inl ⟨source, h⟩
  | error error => exact .inr ⟨error, rfl⟩

theorem correctOnce_of_turns {before : List Char} (hparsed : IsSnippet before source)
    (hturns : r.Turns source text) : correctOnce r code before = .ok text := by
  rw [correctOnce, parseExample_of_isSnippet hparsed]
  exact congrArg Except.ok (Rule.turns_iff.1 hturns)

theorem correctOnce_of_unparsed {error : SourceError}
    (h : SourceFile.parse SourceFile.snippetPath text = .error error) :
    correctOnce r code text = .error (.unparsable r.identifier code error.message) := by
  rw [correctOnce, parseExample_of_unparsed h]
  rfl

theorem exampleOffsets_of_isSnippet {e : Example} (h : IsSnippet e.text source) :
    exampleOffsets r e = .ok (sortedOffsets (r.check source)) := by
  rw [exampleOffsets, parseExample_of_isSnippet h]
  rfl

theorem exampleOffsets_of_unparsed {e : Example} {error : SourceError}
    (h : SourceFile.parse SourceFile.snippetPath e.text = .error error) :
    exampleOffsets r e = .error (.unparsable r.identifier e.code error.message) := by
  rw [exampleOffsets, parseExample_of_unparsed h]
  rfl

end Steps

/-! ### One demand -/

/-- Verifies one demand. -/
def verify (r : Rule) : Demand → Except ExampleFailure Unit
  | .clean e => verifyNonTriggering r e
  | .flagged e => verifyTriggering r e
  | .mended before after => verifyCorrection r (before, after)

section OneDemand

variable {r : Rule} {e before after : Example} {source : SourceFile}

theorem verify_clean (h : IsSnippet e.text source) :
    verify r (.clean e) = if (sortedOffsets (r.check source)).isEmpty then .ok () else
      .error (.triggered r.description.identifier e.code (sortedOffsets (r.check source))) := by
  rw [verify, verifyNonTriggering, exampleOffsets_of_isSnippet h]
  rfl

theorem verify_flagged (h : IsSnippet e.text source) :
    verify r (.flagged e) = if agrees e.markers (sortedOffsets (r.check source)) then .ok () else
      .error (.markerMismatch r.description.identifier e.code e.markers
        (sortedOffsets (r.check source))) := by
  rw [verify, verifyTriggering, exampleOffsets_of_isSnippet h]
  rfl

/-- Once the right text is there, it has to be left as it is. -/
theorem verify_mended {text : List Char} (hparsed : IsSnippet before.text source)
    (hturns : r.Turns source text) :
    verify r (.mended before after) =
      if text == after.text then
        correctOnce r after.code text >>= fun again => if again == text then .ok () else
          .error (.notIdempotent r.description.identifier (String.ofList text))
      else .error (.wrongCorrection r.description.identifier (String.ofList after.text)
        (String.ofList text)) := by
  rw [verify, verifyCorrection]
  simp only [correctOnce_of_turns hparsed hturns]
  rfl

end OneDemand

theorem Rule.Meets.verify_eq {r : Rule} {d : Demand} (h : r.Meets d) : verify r d = .ok () := by
  cases h with
  | clean hparsed hsilent => rw [verify_clean hparsed, if_pos (isEmpty_sortedOffsets.2 hsilent)]
  | flagged hparsed hmarked => rw [verify_flagged hparsed, if_pos (agrees_iff_markedBy.2 hmarked)]
  | mended hparsed hturns hparsedAgain hstays =>
    rw [verify_mended hparsed hturns, if_pos (beq_self_eq_true _),
      correctOnce_of_turns hparsedAgain hstays]
    exact if_pos (beq_self_eq_true _)

theorem Rule.Fails.verify_eq {r : Rule} {d : Demand} {failure : ExampleFailure}
    (h : r.Fails d failure) : verify r d = .error failure := by
  cases h with
  | cleanUnparsable hunparsed =>
    rw [verify, verifyNonTriggering, exampleOffsets_of_unparsed hunparsed]
    rfl
  | triggered hparsed hreported hlists =>
    rw [verify_clean hparsed, if_neg (mt isEmpty_sortedOffsets.1 hreported), hlists.eq_sortedOffsets]
  | flaggedUnparsable hunparsed =>
    rw [verify, verifyTriggering, exampleOffsets_of_unparsed hunparsed]
    rfl
  | misplaced hparsed hunmarked hlists =>
    rw [verify_flagged hparsed, if_neg (mt agrees_iff_markedBy.1 hunmarked), hlists.eq_sortedOffsets]
  | mendedUnparsable hunparsed =>
    rw [verify, verifyCorrection]
    simp only [correctOnce_of_unparsed hunparsed]
    rfl
  | wrong hparsed hturns hdiffers =>
    rw [verify_mended hparsed hturns, if_neg (mt eq_of_beq hdiffers)]
  | outcomeUnparsable hparsed hturns hunparsed =>
    rw [verify_mended hparsed hturns, if_pos (beq_self_eq_true _), correctOnce_of_unparsed hunparsed]
    rfl
  | unstable hparsed hturns hparsedAgain hturnsAgain hdiffers =>
    rw [verify_mended hparsed hturns, if_pos (beq_self_eq_true _),
      correctOnce_of_turns hparsedAgain hturnsAgain]
    exact if_neg (mt eq_of_beq hdiffers)

/-- A demand is met, or it fails in some way. -/
theorem Rule.meets_or_fails (r : Rule) (d : Demand) : r.Meets d ∨ ∃ failure, r.Fails d failure := by
  cases d with
  | clean e =>
    obtain ⟨source, hparsed⟩ | ⟨error, hunparsed⟩ := isSnippet_or_unparsed e.text
    · by_cases hsilent : r.check source = []
      · exact .inl (.clean hparsed hsilent)
      · exact .inr ⟨_, .triggered hparsed hsilent (listsOffsets_sortedOffsets _)⟩
    · exact .inr ⟨_, .cleanUnparsable hunparsed⟩
  | flagged e =>
    obtain ⟨source, hparsed⟩ | ⟨error, hunparsed⟩ := isSnippet_or_unparsed e.text
    · by_cases hmarked : e.MarkedBy (r.check source)
      · exact .inl (.flagged hparsed hmarked)
      · exact .inr ⟨_, .misplaced hparsed hmarked (listsOffsets_sortedOffsets _)⟩
    · exact .inr ⟨_, .flaggedUnparsable hunparsed⟩
  | mended before after =>
    obtain ⟨source, hparsed⟩ | ⟨error, hunparsed⟩ := isSnippet_or_unparsed before.text
    · have hturns : r.Turns source (correctedText r source) := Rule.turns_iff.2 rfl
      by_cases hright : correctedText r source = after.text
      · rw [hright] at hturns
        obtain ⟨again, hparsedAgain⟩ | ⟨error, hunparsed⟩ := isSnippet_or_unparsed after.text
        · have hturnsAgain : r.Turns again (correctedText r again) := Rule.turns_iff.2 rfl
          by_cases hstays : correctedText r again = after.text
          · exact .inl (.mended hparsed hturns hparsedAgain (hstays ▸ hturnsAgain))
          · exact .inr ⟨_, .unstable hparsed hturns hparsedAgain hturnsAgain hstays⟩
        · exact .inr ⟨_, .outcomeUnparsable hparsed hturns hunparsed⟩
      · exact .inr ⟨_, .wrong hparsed hturns hright⟩
    · exact .inr ⟨_, .mendedUnparsable hunparsed⟩

theorem verify_eq_ok_iff {r : Rule} {d : Demand} : verify r d = .ok () ↔ r.Meets d := by
  refine ⟨fun h => ?_, Rule.Meets.verify_eq⟩
  obtain hmeets | ⟨failure, hfails⟩ := r.meets_or_fails d
  · exact hmeets
  · cases h.symm.trans hfails.verify_eq

theorem verify_eq_error_iff {r : Rule} {d : Demand} {failure : ExampleFailure} :
    verify r d = .error failure ↔ r.Fails d failure := by
  refine ⟨fun h => ?_, Rule.Fails.verify_eq⟩
  obtain hmeets | ⟨other, hfails⟩ := r.meets_or_fails d
  · cases h.symm.trans hmeets.verify_eq
  · cases h.symm.trans hfails.verify_eq
    exact hfails

/-! ### All demands -/

section Each

variable {α β : Type} {check : α → Except ExampleFailure Unit}

theorem verifyEach_append (as bs : List α) :
    verifyEach check (as ++ bs) = verifyEach check as >>= fun _ => verifyEach check bs := by
  induction as with
  | nil => rfl
  | cons a as ih =>
    rw [List.cons_append, verifyEach, verifyEach, ih]
    cases check a <;> rfl

theorem verifyEach_map (f : β → α) (bs : List β) :
    verifyEach check (bs.map f) = verifyEach (fun b => check (f b)) bs := by
  induction bs with
  | nil => rfl
  | cons b bs ih => rw [List.map_cons, verifyEach, verifyEach, ih]

theorem verifyEach_eq_ok_iff {as : List α} :
    verifyEach check as = .ok () ↔ ∀ a ∈ as, check a = .ok () := by
  induction as with
  | nil => simp [verifyEach]
  | cons a as ih =>
    rw [List.forall_mem_cons, ← ih, verifyEach]
    constructor
    · intro h
      obtain ⟨⟨⟩, hfirst, hrest⟩ := exists_of_bind_ok h
      exact ⟨hfirst, hrest⟩
    · rintro ⟨hfirst, hrest⟩
      rw [hfirst]
      exact hrest

/-- The error is that of the first element that has one. -/
theorem verifyEach_eq_error_iff {as : List α} {failure : ExampleFailure} :
    verifyEach check as = .error failure ↔ ∃ before a after, as = before ++ a :: after ∧
      (∀ b ∈ before, check b = .ok ()) ∧ check a = .error failure := by
  induction as with
  | nil => simp [verifyEach]
  | cons a as ih =>
    rw [verifyEach]
    constructor
    · intro h
      obtain hfirst | ⟨⟨⟩, hfirst, hrest⟩ := exists_of_bind_error h
      · exact ⟨[], a, as, rfl, by simp, hfirst⟩
      · obtain ⟨before, c, after, rfl, hbefore, hc⟩ := ih.1 hrest
        exact ⟨a :: before, c, after, rfl, List.forall_mem_cons.2 ⟨hfirst, hbefore⟩, hc⟩
    · rintro ⟨before, c, after, hsplit, hbefore, hc⟩
      cases before with
      | nil =>
        cases hsplit
        rw [hc]
        rfl
      | cons b before =>
        cases hsplit
        obtain ⟨hfirst, hbefore⟩ := List.forall_mem_cons.1 hbefore
        rw [hfirst]
        exact ih.2 ⟨before, c, after, rfl, hbefore, hc⟩

end Each

/-- The rule with other corrections: those that it makes, and those that its description demands. -/
def Rule.withCorrections (r : Rule) (correction : Option (Violation → SourceFile → Option Substitution))
    (corrections : List (Example × Example)) : Rule :=
  { r with
    correction := correction
    description := { r.description with corrections := corrections } }

theorem verifyEach_demandsOnReports (r : Rule) :
    verifyEach (verify r) r.description.demandsOnReports =
      verifyEach (verifyNonTriggering r) r.description.nonTriggering >>= fun _ =>
        verifyEach (verifyTriggering r) r.description.triggering := by
  rw [RuleDescription.demandsOnReports, verifyEach_append, verifyEach_map, verifyEach_map]
  rfl

theorem verifyExamples_eq_bind (r : Rule) :
    verifyExamples r = verifyEach (verify r) r.description.demandsOnReports >>= fun _ =>
      verifyEach (verifyCorrection r) r.description.corrections := by
  rw [verifyEach_demandsOnReports, bind_assoc]
  rfl

theorem verifyExamples_eq_verifyEach (r : Rule) :
    verifyExamples r = verifyEach (verify r) r.description.demands := by
  rw [verifyExamples_eq_bind, RuleDescription.demands, verifyEach_append, verifyEach_map]
  rfl

/-- Where a demand on reports is not met, corrections make no difference. -/
theorem verifyExamples_withCorrections {r : Rule} {d : Demand}
    (hd : d ∈ r.description.demandsOnReports) (hunmet : ¬ r.Meets d)
    (correction : Option (Violation → SourceFile → Option Substitution))
    (corrections : List (Example × Example)) :
    verifyExamples (r.withCorrections correction corrections) = verifyExamples r := by
  have hsame : verifyEach (verify (r.withCorrections correction corrections))
      (r.withCorrections correction corrections).description.demandsOnReports =
      verifyEach (verify r) r.description.demandsOnReports := by
    rw [verifyEach_demandsOnReports, verifyEach_demandsOnReports]
    rfl
  rw [verifyExamples_eq_bind, verifyExamples_eq_bind, hsame]
  cases h : verifyEach (verify r) r.description.demandsOnReports with
  | ok done => exact absurd (verify_eq_ok_iff.1 (verifyEach_eq_ok_iff.1 h d hd)) hunmet
  | error failure => rfl

/-- **The examples are verified exactly.**  The verification of a rule succeeds exactly if the rule meets
every demand of its description.  Otherwise it returns the failure of the first demand that is not met.  And
where already a demand on reports is not met, no correction is looked at: neither the edits of the rule nor
the corrections that are demanded have an influence on the result. -/
theorem verifyExamples_exact (r : Rule) :
    (verifyExamples r = .ok () ↔ ∀ d ∈ r.description.demands, r.Meets d) ∧
      (∀ failure, verifyExamples r = .error failure ↔
        ∃ before d after, r.description.demands = before ++ d :: after ∧
          (∀ earlier ∈ before, r.Meets earlier) ∧ r.Fails d failure) ∧
      ((∃ d ∈ r.description.demandsOnReports, ¬ r.Meets d) → ∀ correction corrections,
        verifyExamples (r.withCorrections correction corrections) = verifyExamples r) := by
  refine ⟨?_, fun failure => ?_, ?_⟩
  · rw [verifyExamples_eq_verifyEach, verifyEach_eq_ok_iff]
    simp only [verify_eq_ok_iff]
  · rw [verifyExamples_eq_verifyEach, verifyEach_eq_error_iff]
    simp only [verify_eq_ok_iff, verify_eq_error_iff]
  · rintro ⟨d, hd, hunmet⟩ correction corrections
    exact verifyExamples_withCorrections hd hunmet correction corrections

/-- Code in which the mark stands behind the place that is reported. -/
def markBehind : Example := ⟨"mod ↓é;"⟩

/-- A rule that reports the beginning of every file and mends nothing, with a correction that is wrong. -/
def reportsBeginning : Rule :=
  Scripted.rule {
    identifier := "beginning"
    description := ⟨"beginning", "", "", .lint, .reject, [], [⟨"↓mod é;"⟩, markBehind],
      [(⟨"mod é;"⟩, ⟨"mod e;"⟩)]⟩
    severity := .warning
    isOptIn := false
    isCorrectable := false
    violations := [⟨"beginning", .warning, 1, 1, 0, 3, none, none⟩] }

/-- The second example that the rule should report is the first one that fails, and the correction is not
looked at. -/
theorem verifyExamples_exact_reportsBeginning :
    (∃ d ∈ reportsBeginning.description.demandsOnReports, ¬ reportsBeginning.Meets d) ∧
      verifyExamples reportsBeginning = .error (.markerMismatch "beginning" "mod ↓é;" [4] [0]) ∧
      ∀ correction corrections, verifyExamples (reportsBeginning.withCorrections correction corrections) =
        verifyExamples reportsBeginning := by
  have hfirst : verify reportsBeginning (.flagged ⟨"↓mod é;"⟩) = .ok () := by decide +kernel
  have hsecond : verify reportsBeginning (.flagged markBehind) =
      .error (.markerMismatch "beginning" "mod ↓é;" [4] [0]) := by decide +kernel
  have hunmet : ∃ d ∈ reportsBeginning.description.demandsOnReports, ¬ reportsBeginning.Meets d := by
    refine ⟨.flagged markBehind, List.mem_cons_of_mem _ List.mem_cons_self, fun hmeets => ?_⟩
    cases hmeets.verify_eq.symm.trans hsecond
  obtain ⟨-, hfailure, hcorrections⟩ := verifyExamples_exact reportsBeginning
  refine ⟨hunmet, (hfailure _).2 ?_, hcorrections hunmet⟩
  exact ⟨[.flagged ⟨"↓mod é;"⟩], .flagged markBehind, [.mended ⟨"mod é;"⟩ ⟨"mod e;"⟩], rfl,
    List.forall_mem_singleton.2 (verify_eq_ok_iff.1 hfirst), verify_eq_error_iff.1 hsecond⟩

end SourceLint
