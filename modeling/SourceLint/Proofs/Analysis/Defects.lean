import Mathlib.Data.String.Basic
import SourceLint.Proofs.Analysis.Independence

/-!
# What is wrong with a list of rules

Three things can be wrong with a list of rules: a rule goes by another name than its description, a name does
not have the form of a name, or rules share a name.  They are looked for in this order, and the first rule, or
the least of the shared names, is reported.  A list with which nothing of this is wrong makes an analyzer.

* **`mem_duplicates`**, **`pairwise_duplicates`** — names that occur at least twice are listed once, in
  ascending order; `head?_duplicates` is about the least of them.
* **`HasNameForm`** — the form of names, spelled out.
* **`Analyzer.HasDefect`** — what is wrong with some rules; `defect?_eq_some_iff` says that it is what is
  found.
* **`Analyzer.build_exact`** — when there is an analyzer, and the error if there is none.
-/

namespace SourceLint

/-! ### Texts that occur twice -/

/-- A text is a later copy if it was seen before or occurs twice. -/
theorem mem_laterCopies {seen texts : List String} {t : String} :
    t ∈ laterCopies seen texts ↔ (t ∈ seen ∧ t ∈ texts) ∨ 2 ≤ texts.count t := by
  induction texts generalizing seen with
  | nil => simp [laterCopies]
  | cons u us ih =>
    have hcount : 2 ≤ (u :: us).count t ↔ (t = u ∧ t ∈ us) ∨ 2 ≤ us.count t := by
      rw [List.count_cons]
      by_cases htu : t = u
      · subst htu
        have hone : t ∈ us ↔ 1 ≤ us.count t := List.one_le_count_iff.symm
        rw [beq_self_eq_true, if_pos rfl, hone, eq_self_iff_true, true_and]
        omega
      · have hbeq : (u == t) = false := by simpa using Ne.symm htu
        rw [hbeq, if_neg Bool.false_ne_true]
        simp [htu]
    rw [laterCopies, hcount]
    by_cases hu : u ∈ seen
    · have hc : seen.contains u = true := by simpa using hu
      rw [if_pos hc, List.mem_cons, ih, List.mem_cons]
      constructor
      · rintro (rfl | ⟨hseen, hmem⟩ | htwice)
        · exact .inl ⟨hu, .inl rfl⟩
        · exact .inl ⟨hseen, .inr hmem⟩
        · exact .inr (.inr htwice)
      · rintro (⟨hseen, rfl | hmem⟩ | ⟨rfl, -⟩ | htwice)
        · exact .inl rfl
        · exact .inr (.inl ⟨hseen, hmem⟩)
        · exact .inl rfl
        · exact .inr (.inr htwice)
    · have hc : ¬ seen.contains u = true := by simpa using hu
      rw [if_neg hc, ih, List.mem_cons, List.mem_cons]
      constructor
      · rintro (⟨rfl | hseen, hmem⟩ | htwice)
        · exact .inr (.inl ⟨rfl, hmem⟩)
        · exact .inl ⟨hseen, .inr hmem⟩
        · exact .inr (.inr htwice)
      · rintro (⟨hseen, rfl | hmem⟩ | ⟨rfl, hmem⟩ | htwice)
        · exact absurd hseen hu
        · exact .inl ⟨.inr hseen, hmem⟩
        · exact .inl ⟨.inl rfl, hmem⟩
        · exact .inr htwice

theorem mem_sortedSet {texts : List String} {t : String} : t ∈ sortedSet texts ↔ t ∈ texts := by
  rw [sortedSet, List.mem_eraseDups, List.mem_mergeSort]

/-- Leaving out copies makes an ascending list strictly ascending. -/
theorem pairwise_eraseDups :
    ∀ {texts : List String}, texts.Pairwise (· ≤ ·) → texts.eraseDups.Pairwise (· < ·)
  | [], _ => .nil
  | t :: ts, h => by
    obtain ⟨hle, hts⟩ := List.pairwise_cons.1 h
    rw [List.eraseDups_cons]
    refine List.pairwise_cons.2 ⟨fun u hu => ?_, pairwise_eraseDups (hts.filter _)⟩
    obtain ⟨hmem, hne⟩ := List.mem_filter.1 (List.mem_eraseDups.1 hu)
    exact lt_of_le_of_ne (hle u hmem) (Ne.symm (by simpa using hne))
termination_by texts => texts.length
decreasing_by exact Nat.lt_succ_of_le (List.length_filter_le _ ts)

theorem pairwise_sortedSet (texts : List String) : (sortedSet texts).Pairwise (· < ·) := by
  have htrans (a b c : String) (hab : decide (a ≤ b) = true) (hbc : decide (b ≤ c) = true) :
      decide (a ≤ c) = true :=
    decide_eq_true (le_trans (of_decide_eq_true hab) (of_decide_eq_true hbc))
  have htotal (a b : String) : (decide (a ≤ b) || decide (b ≤ a)) = true := by
    rw [Bool.or_eq_true, decide_eq_true_iff, decide_eq_true_iff]
    exact le_total a b
  have hsorted := List.pairwise_mergeSort htrans htotal texts
  exact pairwise_eraseDups (hsorted.imp fun hle => of_decide_eq_true hle)

/-- **A text is a duplicate if it occurs at least twice.** -/
theorem mem_duplicates {texts : List String} {t : String} : t ∈ duplicates texts ↔ 2 ≤ texts.count t := by
  rw [duplicates, mem_sortedSet, mem_laterCopies]
  simp

/-- Duplicates are listed in ascending order, each once. -/
theorem pairwise_duplicates (texts : List String) : (duplicates texts).Pairwise (· < ·) :=
  pairwise_sortedSet _

/-- The first duplicate is the least text that occurs at least twice. -/
theorem head?_duplicates {texts : List String} {t : String} :
    (duplicates texts).head? = some t ↔
      2 ≤ texts.count t ∧ ∀ u, 2 ≤ texts.count u → t ≤ u := by
  simp only [← mem_duplicates]
  have hsorted := pairwise_duplicates texts
  cases hlist : duplicates texts with
  | nil => simp
  | cons first rest =>
    rw [hlist] at hsorted
    have hfirst : ∀ u ∈ first :: rest, first ≤ u := by
      intro u hu
      rcases List.mem_cons.1 hu with rfl | hu
      · exact le_rfl
      · exact (List.rel_of_pairwise_cons hsorted hu).le
    rw [List.head?_cons, Option.some.injEq]
    constructor
    · rintro rfl
      exact ⟨List.mem_cons_self, hfirst⟩
    · rintro ⟨hmem, hleast⟩
      exact le_antisymm (hfirst t hmem) (hleast first List.mem_cons_self)

/-! ### Names -/

/-- A name is not empty, consists of small letters, digits, `-` and `_`, and begins with neither of the last
two. -/
def HasNameForm (name : String) : Prop :=
  name ≠ "" ∧
    (∀ c ∈ name.toList, ('a' ≤ c ∧ c ≤ 'z') ∨ ('0' ≤ c ∧ c ≤ '9') ∨ c = '-' ∨ c = '_') ∧
    name.toList.head? ≠ some '-' ∧ name.toList.head? ≠ some '_'

theorem isIdentifierChar_iff {c : Char} :
    isIdentifierChar c = true ↔ ('a' ≤ c ∧ c ≤ 'z') ∨ ('0' ≤ c ∧ c ≤ '9') ∨ c = '-' ∨ c = '_' := by
  have hrange (a z : Char) : (decide (c.val ≥ a.val) && decide (c.val ≤ z.val)) = true ↔ a ≤ c ∧ c ≤ z := by
    rw [Bool.and_eq_true, decide_eq_true_iff, decide_eq_true_iff]
    rfl
  have hlower : c.isLower = true ↔ 'a' ≤ c ∧ c ≤ 'z' := hrange 'a' 'z'
  have hdigit : c.isDigit = true ↔ '0' ≤ c ∧ c ≤ '9' := hrange '0' '9'
  simp only [isIdentifierChar, Bool.or_eq_true, beq_iff_eq, or_assoc, hlower, hdigit]

theorem isValidIdentifier_iff {name : String} : isValidIdentifier name = true ↔ HasNameForm name := by
  rw [isValidIdentifier, HasNameForm]
  split
  · rename_i hnil
    simp [String.toList_eq_nil_iff.1 hnil]
  · rename_i c cs hcons
    have hne : name ≠ "" := by
      rintro rfl
      cases hcons
    simp only [hcons, List.head?_cons, Bool.and_eq_true, List.all_eq_true, isIdentifierChar_iff,
      bne_iff_ne, Ne, Option.some.injEq, hne, not_false_eq_true, true_and, and_assoc]

namespace Analyzer

/-! ### Defects -/

/-- What is wrong with some rules, of which the first that is to blame is reported; if only names are shared,
the least of them. -/
inductive HasDefect (rules : List Rule) : AnalyzerError → Prop where
  | mismatch (before : List Rule) (r : Rule) (after : List Rule) (hrules : rules = before ++ r :: after)
      (hbefore : ∀ q ∈ before, q.identifier = q.description.identifier)
      (hr : r.identifier ≠ r.description.identifier) :
      HasDefect rules (.identifierMismatch r.identifier r.description.identifier)
  | form (hnamed : ∀ q ∈ rules, q.identifier = q.description.identifier)
      (before : List Rule) (r : Rule) (after : List Rule) (hrules : rules = before ++ r :: after)
      (hbefore : ∀ q ∈ before, HasNameForm q.identifier) (hr : ¬ HasNameForm r.identifier) :
      HasDefect rules (.invalidIdentifier r.identifier)
  | shared (hnamed : ∀ q ∈ rules, q.identifier = q.description.identifier)
      (hforms : ∀ q ∈ rules, HasNameForm q.identifier) (name : String)
      (htwice : 2 ≤ (rules.map (·.identifier)).count name)
      (hleast : ∀ other, 2 ≤ (rules.map (·.identifier)).count other → name ≤ other) :
      HasDefect rules (.duplicateRule name)

theorem find?_unnamed_eq_some_iff {rules : List Rule} {r : Rule} :
    rules.find? (fun q => q.identifier != q.description.identifier) = some r ↔
      r.identifier ≠ r.description.identifier ∧ ∃ before after, rules = before ++ r :: after ∧
        ∀ q ∈ before, q.identifier = q.description.identifier := by
  rw [List.find?_eq_some_iff_append]
  simp only [bne_iff_ne, Ne, Bool.not_eq_true', bne_eq_false_iff_eq]

theorem find?_malformed_eq_some_iff {rules : List Rule} {name : String} :
    (rules.map (·.identifier)).find? (fun n => !isValidIdentifier n) = some name ↔
      ∃ r, (¬ HasNameForm r.identifier ∧ ∃ before after, rules = before ++ r :: after ∧
        ∀ q ∈ before, HasNameForm q.identifier) ∧ r.identifier = name := by
  rw [List.find?_map, Option.map_eq_some_iff]
  simp only [List.find?_eq_some_iff_append, Function.comp_apply, Bool.not_not, isValidIdentifier_iff,
    Bool.not_eq_true', ← Bool.not_eq_true]

/-- **The defect that is found is the one that the rules have.** -/
theorem defect?_eq_some_iff {rules : List Rule} {e : AnalyzerError} :
    defect? rules = some e ↔ HasDefect rules e := by
  have hnamed : rules.find? (fun q => q.identifier != q.description.identifier) = none ↔
      ∀ q ∈ rules, q.identifier = q.description.identifier := by
    simp [List.find?_eq_none]
  have hforms : (rules.map (·.identifier)).find? (fun n => !isValidIdentifier n) = none ↔
      ∀ q ∈ rules, HasNameForm q.identifier := by
    simp [List.find?_eq_none, isValidIdentifier_iff]
  constructor
  · intro h
    rw [defect?] at h
    split at h
    · rename_i r hr
      obtain ⟨hne, before, after, hrules, hbefore⟩ := find?_unnamed_eq_some_iff.1 hr
      obtain rfl := Option.some.inj h
      exact .mismatch before r after hrules hbefore hne
    · rename_i hnone
      dsimp only at h
      split at h
      · rename_i name hname
        obtain ⟨r, ⟨hform, before, after, hrules, hbefore⟩, rfl⟩ := find?_malformed_eq_some_iff.1 hname
        obtain rfl := Option.some.inj h
        exact .form (hnamed.1 hnone) before r after hrules hbefore hform
      · rename_i hvalid
        obtain ⟨name, hname, rfl⟩ := Option.map_eq_some_iff.1 h
        obtain ⟨htwice, hleast⟩ := head?_duplicates.1 hname
        exact .shared (hnamed.1 hnone) (hforms.1 hvalid) name htwice hleast
  · intro h
    rw [defect?]
    cases h with
    | mismatch before r after hrules hbefore hr =>
      rw [find?_unnamed_eq_some_iff.2 ⟨hr, before, after, hrules, hbefore⟩]
    | form hall before r after hrules hbefore hr =>
      rw [hnamed.2 hall]
      dsimp only
      rw [find?_malformed_eq_some_iff.2 ⟨r, ⟨hr, before, after, hrules, hbefore⟩, rfl⟩]
    | shared hall hvalid name htwice hleast =>
      rw [hnamed.2 hall]
      dsimp only
      rw [hforms.2 hvalid, head?_duplicates.2 ⟨htwice, hleast⟩]
      rfl

/-- **There is an analyzer exactly if nothing is wrong with the rules.**  Every rule goes by the name of its
description, every name has the form of a name, and no two rules share one; then the analyzer has these
rules, in this order.  Otherwise the error is about the first rule that goes by another name, if there is
one, or else about the first name of another form, or else about the least name that occurs at least
twice. -/
theorem build_exact (set : RuleSet) (honors : Bool) :
    ((∃ a, build set honors = .ok a) ↔
      (∀ r ∈ set.rules, r.identifier = r.description.identifier) ∧
        (∀ r ∈ set.rules, HasNameForm r.identifier) ∧ (set.rules.map (·.identifier)).Nodup) ∧
      (∀ a, build set honors = .ok a → a.rules = set.rules) ∧
      ∀ e, build set honors = .error e ↔ HasDefect set.rules e := by
  refine ⟨?_, fun a ha => ?_, fun e => ?_⟩
  · simp only [← isValidIdentifier_iff]
    rw [← defect?_eq_none_iff]
    constructor
    · rintro ⟨a, ha⟩
      exact (of_build ha).2
    · intro hnone
      exact ⟨_, by rw [build, hnone]⟩
  · rw [(of_build ha).1]
  · rw [← defect?_eq_some_iff, build]
    cases hdefect : defect? set.rules with
    | none => simp
    | some d => simp

end Analyzer

end SourceLint
