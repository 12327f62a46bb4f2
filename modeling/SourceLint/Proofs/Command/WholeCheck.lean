import SourceLint.Proofs.Command.Progress
import SourceLint.Proofs.Rules.Builtin
import SourceLint.Proofs.Rules.Selection

/-!
# Whole checks

A check finds its configuration, its rules and its files before it looks at any file, so nothing is written
unless all of this is there.  Then it only fails if a file cannot be read.

* **`prepare_eq_ok_iff`** — what a check needs.
* **`isBuiltin_of_checkAnalyzer`** — it runs rules of the program.
* **`passes_of_check`** — a check that succeeds; **`exists_check`** — a check succeeds if its files can be
  read.
-/

namespace SourceLint

open SourceLint.Files

/-! ### What a check needs -/

theorem prepare_eq_ok_iff {t : Tree} {options : CheckOptions} {configName? : Option String}
    {config : Config} {a : Analyzer} {files : List String} :
    prepare t options configName? = .ok (config, a, files) ↔
      (ConfigFile.find t options.path configName?).load t = .ok config ∧
        checkAnalyzer config options.rules = .ok a ∧
        discover t options.path config.files options.exclude = .ok files := by
  rw [prepare]
  constructor
  · intro h
    obtain ⟨config', hconfig, h⟩ := exists_of_bind_ok h
    obtain ⟨a', ha, h⟩ := exists_of_bind_ok h
    obtain ⟨files', hfiles, h⟩ := exists_of_bind_ok h
    cases h
    exact ⟨mapError_eq_ok_iff.1 hconfig, ha, hfiles⟩
  · rintro ⟨hconfig, ha, hfiles⟩
    rw [mapError_eq_ok_iff.2 hconfig]
    show (checkAnalyzer config options.rules >>= fun a => discover t options.path config.files
      options.exclude >>= fun files => .ok (config, a, files)) = _
    rw [ha, hfiles]
    rfl

/-- A check runs rules of the program. -/
theorem isBuiltin_of_checkAnalyzer {config : Config} {rules : Option String} {a : Analyzer}
    (h : checkAnalyzer config rules = .ok a) : ∀ r ∈ a.rules, r.IsBuiltin := by
  rw [checkAnalyzer, Registry.builtin_eq_ok] at h
  have hanalyzer : ∃ (registry : Registry) (enabled : Config), registry.entries ⊆ builtinRules ∧
      registry.analyzer enabled = .ok a := by
    cases rules with
    | none =>
      change (Registry.analyzer ⟨builtinRules⟩ config).mapError CommandError.analyzer = .ok a at h
      exact ⟨⟨builtinRules⟩, config, List.Subset.refl _, mapError_eq_ok_iff.1 h⟩
    | some list =>
      change ((restrict ⟨builtinRules⟩ config (ruleNames list)).mapError CommandError.registry >>=
        fun p => (p.1.analyzer p.2).mapError CommandError.analyzer) = .ok a at h
      obtain ⟨⟨selected, enabled⟩, hrestrict, ha⟩ := exists_of_bind_ok h
      obtain ⟨registry, hselect, hpair⟩ := exists_of_bind_ok (mapError_eq_ok_iff.1 hrestrict)
      have hselected : registry = selected := congrArg Prod.fst (Except.ok.inj hpair)
      subst hselected
      refine ⟨registry, enabled, ?_, mapError_eq_ok_iff.1 ha⟩
      rw [(Registry.select_eq_ok_iff.1 hselect).2]
      exact fun e he => (List.mem_filter.1 he).1
  obtain ⟨registry, enabled, hsub, ha⟩ := hanalyzer
  obtain ⟨rfl, -⟩ := Analyzer.of_build ha
  exact fun r hr => isBuiltin_of_mem_configured_of_subset hsub hr

/-! ### Files, one after the other -/

section Check

variable {t : Tree} {options : CheckOptions} {configName? : Option String} {config : Config}
  {a : Analyzer} {files : List String}

/-- The progress with which a check begins. -/
def beginning (t : Tree) (a : Analyzer) : Progress :=
  .start t (a.settingsErrors.map SettingsError.message).reverse

/-- **A check succeeds if its files can be read.** -/
theorem exists_check (ht : t.Lawful) (hprepare : prepare t options configName? = .ok (config, a, files))
    (hread : ∀ name ∈ files, ∃ text, t.read name = .ok text) :
    ∃ p, check t options configName? = (p.tree, .ok (p.result config)) ∧
      (beginning t a).Passes a options.fix files p := by
  obtain ⟨-, hne, -⟩ := discover_spec ht (prepare_eq_ok_iff.1 hprepare).2.2
  obtain ⟨p, hfiles, hpasses⟩ := Progress.exists_checkFiles (p := beginning t a) a options.fix hne hread
  refine ⟨p, ?_, hpasses⟩
  rw [check, hprepare]
  dsimp only
  rw [beginning] at hfiles
  rw [hfiles]

/-- **A check that succeeds has found what it needs and read all files.** -/
theorem passes_of_check (ht : t.Lawful) {left : Tree} {result : CheckResult}
    (h : check t options configName? = (left, .ok result)) :
    ∃ config a files p, prepare t options configName? = .ok (config, a, files) ∧
      (∀ name ∈ files, ∃ text, t.read name = .ok text) ∧
      (beginning t a).Passes a options.fix files p ∧ left = p.tree ∧ result = p.result config := by
  cases hprepare : prepare t options configName? with
  | error e =>
    rw [check, hprepare] at h
    cases h
  | ok found =>
    obtain ⟨config, a, files⟩ := found
    obtain ⟨-, hne, -⟩ := discover_spec ht (prepare_eq_ok_iff.1 hprepare).2.2
    have hread : ∀ name ∈ files, ∃ text, t.read name = .ok text := by
      rw [check, hprepare] at h
      dsimp only at h
      split at h
      · rename_i p hfiles
        exact Progress.read_of_checkFiles (p := beginning t a) hne hfiles
      · cases h
    obtain ⟨p, hcheck, hpasses⟩ := exists_check ht hprepare hread
    cases h.symm.trans hcheck
    exact ⟨config, a, files, p, rfl, hread, hpasses, rfl, rfl⟩

/-- **A check without edits leaves everything as it was**, whether it succeeds or not. -/
theorem tree_check (t : Tree) (options : CheckOptions) (hfix : options.fix = false)
    (configName? : Option String) : (check t options configName?).1 = t := by
  rw [check]
  split
  · rfl
  · rename_i config a files _
    have htree : ((beginning t a).checkFiles a options.fix files).1.tree = t := by
      rw [hfix]
      exact Progress.tree_checkFiles (beginning t a) a files
    rw [beginning] at htree
    dsimp only
    split
    · rename_i p hfiles
      rwa [hfiles] at htree
    · rename_i p error hfiles
      rwa [hfiles] at htree

end Check

end SourceLint
