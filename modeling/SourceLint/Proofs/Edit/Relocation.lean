import SourceLint.Proofs.Edit.Compatible

/-!
# Edits behind a prefix

A text may be put behind another one.  Substitutions that are moved along by the number of bytes in front
do to the longer text what they did to the text itself, and leave the bytes in front alone.

* **`Substitution.moveBy`** — the substitution, moved by a number of bytes.
* **`Substitution.overlaps_moveBy`**, **`Substitution.isValid_moveBy`** — what is asked about
  substitutions is invariant.
* **`splice_moveBy`** — the pass over the rest of the text; `splice_zero_moveBy` is the pass over the
  whole text.
-/

namespace SourceLint

open SourceLint.Text

namespace Substitution

/-- The substitution of the stretch that comes the given number of bytes later. -/
def moveBy (n : Nat) (s : Substitution) : Substitution :=
  { s with start := n + s.start, stop := n + s.stop }

@[simp] theorem start_moveBy (n : Nat) (s : Substitution) : (s.moveBy n).start = n + s.start := rfl

@[simp] theorem stop_moveBy (n : Nat) (s : Substitution) : (s.moveBy n).stop = n + s.stop := rfl

@[simp] theorem replacement_moveBy (n : Nat) (s : Substitution) :
    (s.moveBy n).replacement = s.replacement := rfl

theorem overlaps_moveBy (n : Nat) (a b : Substitution) :
    (a.moveBy n).overlaps (b.moveBy n) = a.overlaps b := by
  rw [Bool.eq_iff_iff, ← Bool.not_eq_false, ← Bool.not_eq_false, overlaps_eq_false_iff,
    overlaps_eq_false_iff]
  simp only [start_moveBy, stop_moveBy]
  omega

theorem notAfter_moveBy (n : Nat) (a b : Substitution) :
    (a.moveBy n).notAfter (b.moveBy n) = a.notAfter b := by
  rw [Bool.eq_iff_iff, notAfter_iff, notAfter_iff]
  simp only [start_moveBy, stop_moveBy]
  omega

/-- A moved substitution is valid behind the prefix if it was valid before. -/
theorem isValid_moveBy (before text : List Char) (s : Substitution) :
    (s.moveBy (byteLength before)).isValid (before ++ text) = s.isValid text := by
  rw [Bool.eq_iff_iff, isValid_eq_true_iff, isValid_eq_true_iff, validate_eq_ok_iff,
    validate_eq_ok_iff, start_moveBy, stop_moveBy, isBoundary_append_add, isBoundary_append_add,
    Nat.add_le_add_iff_left]

end Substitution

/-! ### Applying -/

theorem inTextOrder_moveBy (n : Nat) (subs : List Substitution) :
    inTextOrder (subs.map (·.moveBy n)) = (inTextOrder subs).map (·.moveBy n) :=
  (List.map_mergeSort fun a _ b _ => (Substitution.notAfter_moveBy n a b).symm).symm

/-- The rest of the text is edited as without the prefix. -/
theorem splice_moveBy (before text : List Char) (done : Nat) (subs : List Substitution) :
    splice (before ++ text) (byteLength before + done)
      (subs.map (·.moveBy (byteLength before))) = splice text done subs := by
  induction subs generalizing done with
  | nil => exact dropBytes_append_add before text done
  | cons s rest ih =>
    rw [List.map_cons, splice, splice, Substitution.start_moveBy, Substitution.stop_moveBy,
      Substitution.replacement_moveBy, slice_append_add, ih]

/-- The prefix stays in front of the edited text. -/
theorem splice_zero_moveBy (before text : List Char) (subs : List Substitution) :
    splice (before ++ text) 0 (subs.map (·.moveBy (byteLength before))) =
      before ++ splice text 0 subs := by
  cases subs with
  | nil => rw [List.map_nil, splice, splice, dropBytes_zero, dropBytes_zero]
  | cons s rest =>
    have hfirst : slice 0 (byteLength before + s.start) (before ++ text) =
        before ++ slice 0 s.start text := by
      rw [slice, slice, dropBytes_zero, dropBytes_zero, Nat.sub_zero, Nat.sub_zero,
        takeBytes_append_add]
    rw [List.map_cons, splice, splice, Substitution.start_moveBy, Substitution.stop_moveBy,
      Substitution.replacement_moveBy, hfirst, splice_moveBy, List.append_assoc,
      List.append_assoc, List.append_assoc]

end SourceLint
