import Mathlib.Data.List.Pairwise
import SourceLint.Proofs.Edit.Compatible

/-!
# Editing in one pass

Substitutions are applied in one pass over the text.  The result is that of plain editing, one
substitution after the other, which begins with the one that begins last so that the offsets of the
others stay right.

* **`Substitution.edit?`**, **`editInTurn?`** — plain editing.
* **`outside`**, **`untouched`** — the bytes of the text outside all stretches.

`applySubstitutions_eq_editInTurn` compares the pass with plain editing.
-/

namespace SourceLint

open SourceLint.Text

/-! ### Plain editing -/

/-- The text in which the one stretch is replaced, if it is a stretch of the text. -/
def Substitution.edit? (s : Substitution) (text : List Char) : Option (List Char) :=
  if s.isValid text then
    some (takeBytes s.start text ++ s.replacement.toList ++ dropBytes s.stop text)
  else none

/-- The substitutions in the order of decreasing beginnings. -/
def latestFirst (subs : List Substitution) : List Substitution :=
  subs.mergeSort fun a b => b.start ≤ a.start

/-- The text after the substitutions were made one after the other, each with the offsets that it was
given, from the one that begins last to the one that begins first. -/
def editInTurn? (text : List Char) (subs : List Substitution) : Option (List Char) :=
  (latestFirst subs).foldlM (fun t s => s.edit? t) text

/-- An edit does not see what follows its end. -/
theorem edit?_takeBytes_append {text rest : List Char} {s : Substitution} {done : Nat}
    (hd : isBoundary text done = true) (hds : done ≤ s.start)
    (hstart : isBoundary text s.start = true) (hle : s.start ≤ s.stop)
    (hstop : isBoundary text s.stop = true) :
    s.edit? (takeBytes s.stop text ++ rest) =
      some (takeBytes done text ++
        (slice done s.start text ++ s.replacement.toList ++ rest)) := by
  have hlen : byteLength (takeBytes s.stop text) = s.stop := byteLength_takeBytes hstop
  -- up to its end the stretch lies in what earlier edits left alone
  have hcut : ∀ n, n ≤ s.stop →
      isBoundary (takeBytes s.stop text ++ rest) n = isBoundary text n := by
    intro n hn
    rw [isBoundary_append_of_le rest (by omega),
      ← isBoundary_append_of_le (dropBytes s.stop text) (by omega), takeBytes_append_dropBytes]
  have hvalid : s.isValid (takeBytes s.stop text ++ rest) = true := by
    rw [Substitution.isValid_eq_true_iff, Substitution.validate_eq_ok_iff, hcut _ hle,
      hcut _ (Nat.le_refl _)]
    exact ⟨hle, hstart, hstop⟩
  have htake : takeBytes s.start (takeBytes s.stop text ++ rest) = takeBytes s.start text := by
    rw [takeBytes_append_of_le rest (by omega),
      ← takeBytes_append_of_le (dropBytes s.stop text) (by omega), takeBytes_append_dropBytes]
  have hdrop : dropBytes s.stop (takeBytes s.stop text ++ rest) = rest := by
    have h := dropBytes_append (takeBytes s.stop text) rest
    rwa [hlen] at h
  rw [Substitution.edit?, if_pos hvalid, htake, hdrop,
    ← takeBytes_append_slice hd hstart hds]
  simp only [List.append_assoc]

/-- Editing from the last substitution to the first leaves what precedes them and makes the rest into
what the pass makes of it. -/
theorem foldrM_edit?_of_laid {text : List Char} {done : Nat} {subs : List Substitution}
    (h : Laid text done subs) :
    subs.foldrM (fun s t => s.edit? t) text =
      some (takeBytes done text ++ splice text done subs) := by
  induction h with
  | nil hd =>
    rw [List.foldrM_nil, splice, takeBytes_append_dropBytes]
    rfl
  | @cons done s rest hd hds hstart hle hrest ih =>
    rw [List.foldrM_cons, ih, splice]
    exact edit?_takeBytes_append hd hds hstart hle hrest.isBoundary

theorem pairwise_latestFirst (subs : List Substitution) :
    (latestFirst subs).Pairwise fun a b => b.start ≤ a.start := by
  have htrans : ∀ a b c : Substitution, decide (b.start ≤ a.start) = true →
      decide (c.start ≤ b.start) = true → decide (c.start ≤ a.start) = true := by
    intro a b c hab hbc
    rw [decide_eq_true_eq] at hab hbc ⊢
    omega
  have htotal : ∀ a b : Substitution,
      (decide (b.start ≤ a.start) || decide (a.start ≤ b.start)) = true := by
    intro a b
    rw [Bool.or_eq_true, decide_eq_true_eq, decide_eq_true_eq]
    omega
  exact (List.pairwise_mergeSort htrans htotal subs).imp fun hab => of_decide_eq_true hab

/-- Compatible substitutions begin at different offsets. -/
theorem Compatible.eq_of_start_eq {text : List Char} {subs : List Substitution}
    (h : Compatible text subs) {a b : Substitution} (ha : a ∈ subs) (hb : b ∈ subs)
    (hs : a.start = b.start) : a = b := by
  by_contra hne
  have hsymm : Std.Symm fun x y : Substitution => x.overlaps y = false :=
    ⟨fun x y hxy => (Substitution.overlaps_comm y x).trans hxy⟩
  have hapart : a.overlaps b = false := h.2.forall ha hb hne
  exact (Substitution.overlaps_eq_false_iff.1 hapart).1 hs

/-- There is one order of decreasing beginnings, that of the text reversed. -/
theorem Compatible.latestFirst_eq {text : List Char} {subs : List Substitution}
    (h : Compatible text subs) : latestFirst subs = (inTextOrder subs).reverse := by
  have hlatest : (latestFirst subs).Perm subs := List.mergeSort_perm subs _
  have hreverse : (inTextOrder subs).reverse.Perm subs :=
    (List.reverse_perm _).trans (inTextOrder_perm subs)
  have hsorted : (inTextOrder subs).reverse.Pairwise fun a b => b.start ≤ a.start :=
    List.pairwise_reverse.2 (h.pairwise_precedes.imp fun hab => Nat.le_of_lt hab.1)
  refine List.Perm.eq_of_pairwise (fun a b ha hb hab hba => ?_) (pairwise_latestFirst subs)
    hsorted (hlatest.trans hreverse.symm)
  exact h.eq_of_start_eq (hlatest.mem_iff.1 ha) (hreverse.mem_iff.1 hb) (Nat.le_antisymm hba hab)

theorem editInTurn?_of_compatible {text : List Char} {subs : List Substitution}
    (h : Compatible text subs) :
    editInTurn? text subs = some (splice text 0 (inTextOrder subs)) := by
  rw [editInTurn?, h.latestFirst_eq, List.foldlM_reverse, foldrM_edit?_of_laid h.laid,
    takeBytes_zero, List.nil_append]

/-! ### Bytes outside the stretches -/

/-- The bytes that lie in no stretch, where the first one has the given offset. -/
def outside (subs : List Substitution) (offset : Nat) (bytes : List UInt8) : List UInt8 :=
  ((bytes.zipIdx offset).filter fun b =>
    subs.all fun s => b.2 < s.start || s.stop ≤ b.2).map (·.1)

/-- The bytes of the text that lie in no stretch. -/
def untouched (text : List Char) (subs : List Substitution) : List UInt8 :=
  outside subs 0 (utf8 text)

theorem outside_append (subs : List Substitution) (offset : Nat) (as bs : List UInt8) :
    outside subs offset (as ++ bs) =
      outside subs offset as ++ outside subs (offset + as.length) bs := by
  rw [outside, List.zipIdx_append, List.filter_append, List.map_append]
  rfl

theorem outside_perm {as bs : List Substitution} (h : as.Perm bs) (offset : Nat)
    (bytes : List UInt8) : outside as offset bytes = outside bs offset bytes := by
  have hall : ∀ i : Nat, (as.all fun s => i < s.start || s.stop ≤ i) =
      bs.all fun s => i < s.start || s.stop ≤ i := by
    intro i
    rw [Bool.eq_iff_iff, List.all_eq_true, List.all_eq_true]
    exact forall_congr' fun s => imp_congr_left h.mem_iff
  simp only [outside, hall]

/-- Bytes that lie before every stretch stay. -/
theorem outside_eq_self {subs : List Substitution} {offset : Nat} (bytes : List UInt8)
    (h : ∀ s ∈ subs, offset + bytes.length ≤ s.start) : outside subs offset bytes = bytes := by
  have hall : ∀ b ∈ bytes.zipIdx offset,
      (subs.all fun s => b.2 < s.start || s.stop ≤ b.2) = true := by
    intro b hb
    have hlt : b.2 < bytes.length + offset := List.snd_lt_of_mem_zipIdx hb
    rw [List.all_eq_true]
    intro s hs
    have hle := h s hs
    rw [Bool.or_eq_true, decide_eq_true_eq]
    left
    omega
  rw [outside, List.filter_eq_self.2 hall, List.zipIdx_map_fst]

/-- Bytes that lie in a stretch go away. -/
theorem outside_eq_nil {subs : List Substitution} {s : Substitution} (hs : s ∈ subs)
    {offset : Nat} (bytes : List UInt8) (hstart : s.start ≤ offset)
    (hstop : offset + bytes.length ≤ s.stop) : outside subs offset bytes = [] := by
  rw [outside, List.map_eq_nil_iff, List.filter_eq_nil_iff]
  intro b hb hall
  have hlt : b.2 < bytes.length + offset := List.snd_lt_of_mem_zipIdx hb
  have hge : offset ≤ b.2 := List.le_snd_of_mem_zipIdx hb
  have h := List.all_eq_true.1 hall s hs
  rw [Bool.or_eq_true, decide_eq_true_eq, decide_eq_true_eq] at h
  omega

/-- A stretch that ends before the bytes takes none of them. -/
theorem outside_cons_of_le {s : Substitution} {rest : List Substitution} {offset : Nat}
    (h : s.stop ≤ offset) (bytes : List UInt8) :
    outside (s :: rest) offset bytes = outside rest offset bytes := by
  rw [outside, outside]
  congr 1
  refine List.filter_congr fun b hb => ?_
  have hge : offset ≤ b.2 := List.le_snd_of_mem_zipIdx hb
  rw [List.all_cons, decide_eq_true (show s.stop ≤ b.2 by omega), Bool.or_true, Bool.true_and]

theorem Laid.le_start {text : List Char} {done : Nat} {subs : List Substitution}
    (h : Laid text done subs) : ∀ s ∈ subs, done ≤ s.start := by
  induction h with
  | nil _ => simp
  | cons _ hds _ hle _ ih =>
    intro t ht
    rcases List.mem_cons.1 ht with rfl | ht
    · exact hds
    · have hst := ih t ht
      omega

/-- Of the bytes from the offset on, those before the first stretch stay and those in it go away. -/
theorem outside_cons_of_laid {text : List Char} {done : Nat} {s : Substitution}
    {rest : List Substitution} (h : Laid text done (s :: rest)) :
    outside (s :: rest) done (utf8 (dropBytes done text)) =
      utf8 (slice done s.start text) ++ outside rest s.stop (utf8 (dropBytes s.stop text)) := by
  obtain _ | ⟨hd, hds, hstart, hle, hrest⟩ := h
  have hstop := hrest.isBoundary
  have hbefore : (utf8 (slice done s.start text)).length = s.start - done := by
    rw [length_utf8, byteLength_slice hd hstart hds]
  have hwithin : (utf8 (slice s.start s.stop text)).length = s.stop - s.start := by
    rw [length_utf8, byteLength_slice hstart hstop hle]
  rw [← slice_append_dropBytes hd hstart hds, ← slice_append_dropBytes hstart hstop hle,
    utf8_append, utf8_append, outside_append, outside_append, hbefore, hwithin,
    outside_eq_self (utf8 (slice done s.start text)),
    outside_eq_nil List.mem_cons_self (utf8 (slice s.start s.stop text)),
    List.nil_append, outside_cons_of_le,
    show done + (s.start - done) + (s.stop - s.start) = s.stop by omega]
  · omega
  · omega
  · rw [hwithin]
    omega
  · intro t ht
    rw [hbefore]
    rcases List.mem_cons.1 ht with rfl | ht
    · omega
    · have hst := hrest.le_start t ht
      omega

/-- The pass keeps the bytes outside the stretches in their order. -/
theorem outside_sublist_splice {text : List Char} {done : Nat} {subs : List Substitution}
    (h : Laid text done subs) :
    (outside subs done (utf8 (dropBytes done text))).Sublist (utf8 (splice text done subs)) := by
  induction subs generalizing done with
  | nil =>
    rw [splice, outside_eq_self _ (by simp)]
  | cons s rest ih =>
    rw [outside_cons_of_laid h, splice, utf8_append, utf8_append]
    exact (List.sublist_append_left _ _).append (ih h.tail)

/-- The pass writes these bytes and those of the replacements, and no others. -/
theorem splice_perm {text : List Char} {done : Nat} {subs : List Substitution}
    (h : Laid text done subs) :
    (utf8 (splice text done subs)).Perm
      (outside subs done (utf8 (dropBytes done text)) ++
        subs.flatMap fun s => utf8 s.replacement.toList) := by
  induction subs generalizing done with
  | nil =>
    rw [splice, outside_eq_self _ (by simp), List.flatMap_nil, List.append_nil]
  | cons s rest ih =>
    rw [outside_cons_of_laid h, splice, utf8_append, utf8_append, List.flatMap_cons,
      List.append_assoc, List.append_assoc, List.perm_append_left_iff]
    refine ((ih h.tail).append_left _).trans ?_
    rw [← List.append_assoc, ← List.append_assoc]
    exact List.perm_append_comm.append_right _

/-! ### The pass and plain editing -/

/-- **Editing in one pass is plain editing.**  The pass succeeds exactly when every substitution is
valid and no two at different places of the list overlap.  Then plain editing succeeds with the same
text, which holds the bytes outside all stretches in their order, and beside them the bytes of the
replacements and nothing else. -/
theorem applySubstitutions_eq_editInTurn (text : List Char) (subs : List Substitution) :
    ((∃ out, applySubstitutions text subs = .ok out) ↔
      (∀ s ∈ subs, s.validate text = .ok ()) ∧
        subs.Pairwise fun a b => a.overlaps b = false) ∧
    ∀ out, applySubstitutions text subs = .ok out →
      editInTurn? text subs = some out ∧
      (untouched text subs).Sublist (utf8 out) ∧
      (utf8 out).Perm (untouched text subs ++ subs.flatMap fun s => utf8 s.replacement.toList) := by
  constructor
  · constructor
    · rintro ⟨out, h⟩
      exact (applySubstitutions_eq_ok_iff.1 h).1
    · intro h
      exact ⟨_, applySubstitutions_eq_ok_iff.2 ⟨h, rfl⟩⟩
  · intro out h
    obtain ⟨hc, rfl⟩ := applySubstitutions_eq_ok_iff.1 h
    have hperm := inTextOrder_perm subs
    have houtside : untouched text subs =
        outside (inTextOrder subs) 0 (utf8 (dropBytes 0 text)) := by
      rw [untouched, dropBytes_zero, outside_perm hperm]
    refine ⟨editInTurn?_of_compatible hc, ?_, ?_⟩
    · rw [houtside]
      exact outside_sublist_splice hc.laid
    · rw [houtside]
      exact (splice_perm hc.laid).trans ((hperm.flatMap_right _).append_left _)

/-- An insertion at the end of a replacement, both after a character of two bytes, in the wrong order. -/
theorem applySubstitutions_eq_editInTurn_touching :
    applySubstitutions "é=1;".toList [⟨4, 4, "0"⟩, ⟨2, 4, "≠2"⟩] = .ok "é≠20;".toList ∧
      editInTurn? "é=1;".toList [⟨4, 4, "0"⟩, ⟨2, 4, "≠2"⟩] = some "é≠20;".toList := by
  have horder : inTextOrder [⟨4, 4, "0"⟩, ⟨2, 4, "≠2"⟩] = [⟨2, 4, "≠2"⟩, ⟨4, 4, "0"⟩] := by
    simp [inTextOrder, List.mergeSort, List.MergeSort.Internal.splitInTwo, Substitution.notAfter]
  have h : applySubstitutions "é=1;".toList [⟨4, 4, "0"⟩, ⟨2, 4, "≠2"⟩] = .ok "é≠20;".toList := by
    rw [applySubstitutions, horder]
    rfl
  exact ⟨h, ((applySubstitutions_eq_editInTurn _ _).2 _ h).1⟩

end SourceLint
