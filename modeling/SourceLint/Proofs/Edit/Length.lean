import Mathlib.Algebra.GroupWithZero.Nat
import SourceLint.Proofs.Edit.Compatible

/-!
# How long an edited text is

* **`byteLength_splice`** — a pass trades the bytes of the stretches for those of the replacements.
* **`Compatible.byteLength_splice_add_le`** — a pass of deletions, of which each takes away a number of
  bytes, makes the text shorter by this number for each of them.
-/

namespace SourceLint

open SourceLint.Text

/-- The substitution takes some bytes away and puts nothing in their place. -/
structure Substitution.TakesAway (n : Nat) (s : Substitution) : Prop where
  replacement : s.replacement = ""
  size : s.start + n ≤ s.stop

/-- **A pass trades the bytes of the stretches for those of the replacements.**  What precedes the offset
that was reached counts as kept. -/
theorem byteLength_splice {text : List Char} {done : Nat} {subs : List Substitution}
    (h : Laid text done subs) :
    byteLength (splice text done subs) + done + (subs.map fun s => s.stop - s.start).sum =
      byteLength text + (subs.map fun s => byteLength s.replacement.toList).sum := by
  induction h with
  | @nil done hdone =>
    have hsplit : byteLength (takeBytes done text) + byteLength (dropBytes done text) = byteLength text := by
      rw [← byteLength_append, takeBytes_append_dropBytes]
    have hbefore : byteLength (takeBytes done text) = done := byteLength_takeBytes hdone
    simp only [splice, List.map_nil, List.sum_nil]
    omega
  | @cons done s rest hdone hle hstart hsize _ ih =>
    have hkept : byteLength (slice done s.start text) = s.start - done :=
      byteLength_slice hdone hstart hle
    simp only [splice, byteLength_append, List.map_cons, List.sum_cons, hkept]
    omega

/-- Deletions of at least `n` bytes each take `n` bytes for each of them. -/
theorem mul_length_le_sum {n : Nat} {subs : List Substitution} (h : ∀ s ∈ subs, s.TakesAway n) :
    n * subs.length ≤ (subs.map fun s => s.stop - s.start).sum ∧
      (subs.map fun s => byteLength s.replacement.toList).sum = 0 := by
  induction subs with
  | nil => exact ⟨Nat.le_refl 0, rfl⟩
  | cons s rest ih =>
    obtain ⟨hs, hrest⟩ := List.forall_mem_cons.1 h
    obtain ⟨hsizes, hreplacements⟩ := ih hrest
    have hsize := hs.size
    have hnothing : byteLength s.replacement.toList = 0 := by
      rw [hs.replacement]
      rfl
    constructor
    · rw [List.length_cons, Nat.mul_succ, List.map_cons, List.sum_cons]
      omega
    · rw [List.map_cons, List.sum_cons, hnothing, hreplacements]

/-- **A pass of deletions makes the text shorter**, by the bytes that each of them takes away at least. -/
theorem Compatible.byteLength_splice_add_le {n : Nat} {text : List Char} {subs : List Substitution}
    (hcompatible : Compatible text subs) (h : ∀ s ∈ subs, s.TakesAway n) :
    byteLength (splice text 0 (inTextOrder subs)) + n * subs.length ≤ byteLength text := by
  have hperm := inTextOrder_perm subs
  obtain ⟨hsizes, hreplacements⟩ := mul_length_le_sum fun s hs => h s (hperm.mem_iff.1 hs)
  have htrade := byteLength_splice hcompatible.laid
  rw [hperm.length_eq] at hsizes
  omega

end SourceLint
