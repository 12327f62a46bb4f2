import Mathlib.Algebra.GroupWithZero.Nat
import SourceLint.Proofs.Analysis.Correction
import SourceLint.Proofs.Source.ByteOrderMark

/-!
# Repeated passes

One pass need not mend everything: what it takes away may have been in the way of other edits, or have
allowed a violation.  So a text may be corrected, parsed and corrected again until a pass changes nothing or
the text cannot be parsed any more.

* **`Analyzer.Rounds`** — the passes that change something, up to the end of the loop.
* **`Analyzer.Rounds.unique`** — there is one way for the loop to go.
* **`Analyzer.Shrinks`** — every edit of a pass makes the text shorter by a number of bytes.
* **`Analyzer.Shrinks.exists_rounds`** — then the loop ends, and the length of the text bounds the edits
  of all its passes together.
-/

namespace SourceLint.Analyzer

open SourceLint.Text

/-- The loop that corrects a file again and again makes these passes, of which each changes something, and
then ends. -/
inductive Rounds (a : Analyzer) : SourceFile → List Outcome → Prop where
  /-- A pass that changes nothing ends the loop. -/
  | settled {source : SourceFile} {o : Outcome} : a.correct source = .ok o → o.isChanged = false →
      Rounds a source []
  /-- The loop ends after a pass whose text cannot be parsed. -/
  | broken {source : SourceFile} {o : Outcome} {e : SourceError} : a.correct source = .ok o →
      o.isChanged = true → SourceFile.parse source.path o.text = .error e → Rounds a source [o]
  /-- It goes on with the text of a pass if this can be parsed. -/
  | again {source corrected : SourceFile} {o : Outcome} {rounds : List Outcome} :
      a.correct source = .ok o → o.isChanged = true →
      SourceFile.parse source.path o.text = .ok corrected → Rounds a corrected rounds →
      Rounds a source (o :: rounds)

variable {a : Analyzer}

/-- The file and the analyzer determine the passes. -/
theorem Rounds.unique {source : SourceFile} {rounds others : List Outcome} (h : a.Rounds source rounds)
    (hothers : a.Rounds source others) : others = rounds := by
  induction h generalizing others with
  | settled ho hsame =>
    cases hothers with
    | settled _ _ => rfl
    | broken ho' hchanged _ | again ho' hchanged _ _ =>
      cases ho.symm.trans ho'
      rw [hsame] at hchanged
      cases hchanged
  | broken ho hchanged hbroken =>
    cases hothers with
    | settled ho' hsame =>
      cases ho.symm.trans ho'
      rw [hsame] at hchanged
      cases hchanged
    | broken ho' _ _ =>
      cases ho.symm.trans ho'
      rfl
    | again ho' _ hparsed _ =>
      cases ho.symm.trans ho'
      cases hbroken.symm.trans hparsed
  | again ho hchanged hparsed _ ih =>
    cases hothers with
    | settled ho' hsame =>
      cases ho.symm.trans ho'
      rw [hsame] at hchanged
      cases hchanged
    | broken ho' _ hbroken =>
      cases ho.symm.trans ho'
      cases hparsed.symm.trans hbroken
    | again ho' _ hparsed' hrest =>
      cases ho.symm.trans ho'
      cases hparsed.symm.trans hparsed'
      rw [ih hrest]

/-- A pass that changes something applies an edit. -/
theorem length_applied_pos {o : Outcome} (h : o.isChanged = true) : 0 < o.applied.length := by
  rw [Outcome.isChanged, Bool.not_eq_true', List.isEmpty_eq_false_iff] at h
  exact List.length_pos_iff.2 h

/-- Every pass applies an edit. -/
theorem Rounds.length_le_sum {source : SourceFile} {rounds : List Outcome} (h : a.Rounds source rounds) :
    rounds.length ≤ (rounds.map fun o => o.applied.length).sum := by
  induction h with
  | settled _ _ => exact Nat.le_refl 0
  | broken _ hchanged _ =>
    have hedit := length_applied_pos hchanged
    simp only [List.length_singleton, List.map_singleton, List.sum_singleton]
    omega
  | again _ hchanged _ _ ih =>
    have hedit := length_applied_pos hchanged
    simp only [List.length_cons, List.map_cons, List.sum_cons]
    omega

/-- Every edit that a pass applies makes the text shorter by at least `n` bytes. -/
def Shrinks (a : Analyzer) (n : Nat) : Prop :=
  ∀ source o, a.correct source = .ok o →
    byteLength o.text + n * o.applied.length ≤ byteLength source.text

/-- **If every edit makes the text shorter, the loop ends**, and all its edits together take no more bytes
than there are. -/
theorem Shrinks.exists_rounds {n : Nat} (h : a.Shrinks n) (hn : 0 < n) (source : SourceFile) :
    ∃ rounds, a.Rounds source rounds ∧
      n * (rounds.map fun o => o.applied.length).sum ≤ byteLength source.text := by
  -- the length of the text decreases with every pass that changes something
  induction hlength : byteLength source.text using Nat.strongRecOn generalizing source with
  | ind length ih =>
    subst hlength
    obtain ⟨o, ho⟩ : ∃ o, a.correct source = .ok o := ⟨_, a.correct_eq_ok source⟩
    have hshorter := h source o ho
    cases hchanged : o.isChanged with
    | false => exact ⟨[], .settled ho hchanged, Nat.zero_le _⟩
    | true =>
      have hedit : n * 1 ≤ n * o.applied.length := Nat.mul_le_mul_left n (length_applied_pos hchanged)
      cases hparsed : SourceFile.parse source.path o.text with
      | error e =>
        refine ⟨[o], .broken ho hchanged hparsed, ?_⟩
        simp only [List.map_singleton, List.sum_singleton]
        omega
      | ok corrected =>
        have htext : corrected.text = o.text := (SourceFile.parse_eq_ok_iff.1 hparsed).2
        obtain ⟨rounds, hrounds, hsum⟩ :=
          ih (byteLength corrected.text) (by rw [htext]; omega) corrected rfl
        refine ⟨o :: rounds, .again ho hchanged hparsed hrounds, ?_⟩
        rw [List.map_cons, List.sum_cons, Nat.mul_add]
        rw [htext] at hsum
        omega

end SourceLint.Analyzer
