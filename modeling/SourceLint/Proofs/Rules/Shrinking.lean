import SourceLint.Proofs.Analysis.Rounds
import SourceLint.Proofs.Edit.Length
import SourceLint.Proofs.Rules.Builtin
import SourceLint.Proofs.Rules.Selection

/-!
# The rules that come with the program make files shorter

A second pass over a corrected text may well find more to do.  That the passes come to an end rests on the
length of the text: the only edits that rules of the program propose take a visibility away, which is `pub`
at least.

* **`TestCaseAccessibility.takesAway_of_correction?`** — what the edit of a member takes away.
* **`Analyzer.shrinks_of_isBuiltin`** — every edit that is applied takes three bytes away.
* **`repeated_correction_ends`** — correcting again and again ends after a number of passes that the length
  of the text bounds.
-/

namespace SourceLint

open SourceLint.Text

/-- The edit that makes a member private takes `pub` away, and puts nothing in its place. -/
theorem TestCaseAccessibility.takesAway_of_correction? {v : Violation} {source : SourceFile}
    {s : Substitution} (h : correction? v source = some s) : s.TakesAway 3 := by
  rw [correction?] at h
  dsimp only at h
  split at h
  · rename_i hguard
    rw [Bool.and_eq_true, Substitution.isValid_eq_true_iff, Substitution.validate_eq_ok_iff,
      List.isPrefixOf_iff_prefix] at hguard
    obtain ⟨⟨hle, hstart, hstop⟩, rest, hpub⟩ := hguard
    have hsize : byteLength (slice v.location.offset v.location.stop source.text) =
        v.location.stop - v.location.offset := byteLength_slice hstart hstop hle
    have hthree : byteLength "pub".toList = 3 := by decide
    rw [← hpub, byteLength_append, hthree] at hsize
    cases h
    refine ⟨rfl, ?_⟩
    show v.location.offset + 3 ≤ v.location.stop + _
    omega
  · cases h

/-- The edits of rules of the program take three bytes away. -/
theorem Rule.IsBuiltin.takesAway {r : Rule} (hr : r.IsBuiltin) {source : SourceFile} {v : Violation}
    {s : Substitution} (h : Analyzer.usableCorrection? source r v = some s) : s.TakesAway 3 := by
  simp only [Analyzer.usableCorrection?, Option.bind_eq_bind, Option.bind_eq_some_iff] at h
  obtain ⟨correct, hcorrect, t, ht, hif⟩ := h
  have hst : t = s := by
    split at hif
    · exact Option.some.inj hif
    · cases hif
  subst hst
  cases hr with
  | preferExpect settings => cases hcorrect
  | testCaseAccessibility settings =>
    cases hcorrect
    exact TestCaseAccessibility.takesAway_of_correction? ht

namespace Analyzer

/-- **Every edit that is applied takes three bytes away** where all rules are rules of the program. -/
theorem shrinks_of_isBuiltin {a : Analyzer} (hbuiltin : ∀ r ∈ a.rules, r.IsBuiltin) : a.Shrinks 3 := by
  intro source o ho
  rw [correct_eq_ok] at ho
  cases ho
  have haway : ∀ s ∈ (acceptNonOverlapping (a.candidates source)).1.map (·.2), s.TakesAway 3 := by
    intro s hs
    obtain ⟨c, hc, rfl⟩ := List.mem_map.1 hs
    obtain ⟨r, hr, -, husable⟩ :=
      mem_candidates.1 ((acceptAfter_sublist [] (a.candidates source)).subset hc)
    exact (hbuiltin r hr).takesAway husable
  have hshorter := (a.compatible_candidates source).byteLength_splice_add_le haway
  rwa [List.length_map] at hshorter

end Analyzer

/-- **Correcting again and again comes to an end.**  Take rules of the program, whatever the configuration
says of them and whether directives are honoured or not; they make an analyzer.  A pass makes every text
shorter by three bytes for each edit that it applies.  The loop that corrects a file, parses the text and
corrects it again therefore ends, in one way, and a third of the length of the text bounds the number of
passes that change anything. -/
theorem repeated_correction_ends {entries : List RuleEntry} (hentries : entries.Sublist builtinRules)
    (config : Config) (honors : Bool) :
    ∃ a, Analyzer.build (.configured entries config) honors = .ok a ∧
      (∀ source, ∃ o, a.correct source = .ok o ∧
        byteLength o.text + 3 * o.applied.length ≤ byteLength source.text) ∧
      ∀ source, ∃ rounds, a.Rounds source rounds ∧
        (∀ others, a.Rounds source others → others = rounds) ∧
        rounds.length ≤ byteLength source.text / 3 := by
  have hnames : ∀ e ∈ entries, e.NamesRules := fun e he =>
    namesRules_of_mem_knownEntries (List.mem_cons_of_mem _ (hentries.subset he))
  have hnodup : (entries.map RuleEntry.identifier).Nodup :=
    Registry.nodup_builtinRules.sublist (hentries.map _)
  set rules := RuleSet.configured entries config with hrules
  have hbuild : Analyzer.build rules honors = .ok ⟨rules.rules, rules.settingsErrors, honors⟩ := by
    rw [Analyzer.build, hrules, RuleSet.defect?_configured hnames hnodup]
  have hshrinks : Analyzer.Shrinks ⟨rules.rules, rules.settingsErrors, honors⟩ 3 :=
    Analyzer.shrinks_of_isBuiltin fun r hr => isBuiltin_of_mem_configured_of_subset hentries.subset hr
  refine ⟨_, hbuild, fun source => ?_, fun source => ?_⟩
  · have ho := Analyzer.correct_eq_ok ⟨rules.rules, rules.settingsErrors, honors⟩ source
    exact ⟨_, ho, hshrinks source _ ho⟩
  · obtain ⟨rounds, hrounds, hsum⟩ := hshrinks.exists_rounds (by decide) source
    refine ⟨rounds, hrounds, fun others hothers => hrounds.unique hothers, ?_⟩
    have hlength := hrounds.length_le_sum
    omega

/-- A second pass goes on where the comment inside a visibility allowed the next member; the 99 bytes of
this test case leave room for no more than 33 passes. -/
theorem repeated_correction_ends_commentInVisibility :
    builtinRules.Sublist builtinRules ∧
      ∃ a source rounds, Analyzer.build (.configured builtinRules
          (Config.standard.enable TestCaseAccessibility.identifier)) true = .ok a ∧
        source.text = TestCaseAccessibility.commentInVisibility ∧ a.Rounds source rounds ∧
        rounds.length ≤ 33 := by
  refine ⟨List.Sublist.refl _, ?_⟩
  obtain ⟨source, htext, -⟩ := SourceFile.exists_of_parseProgram TestCaseAccessibility.commentInVisibility
    (fun _ => True) (by decide +kernel)
  obtain ⟨a, hbuild, -, hrounds⟩ := repeated_correction_ends (List.Sublist.refl builtinRules)
    (Config.standard.enable TestCaseAccessibility.identifier) true
  obtain ⟨rounds, hends, -, hlength⟩ := hrounds source
  have hbytes : byteLength TestCaseAccessibility.commentInVisibility = 99 := by decide
  rw [htext, hbytes] at hlength
  exact ⟨a, source, rounds, hbuild, htext, hends, hlength⟩

end SourceLint
