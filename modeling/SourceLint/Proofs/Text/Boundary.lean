import Mathlib.Data.List.Basic
import SourceLint.Text.Utf8

/-!
# Cutting texts at boundaries

An offset that falls between two characters splits the text into a part of exactly that many bytes and
the rest.  The facts here say how the operations on byte offsets act on such a split.

* **`exists_append_of_isBoundary`** — the split at a boundary.
* **`takeBytes_append_of_le`**, **`takeBytes_append_add`** and their like — before the split only the
  first part counts, after it only the second.
* **`takeBytes_append_slice`**, **`slice_append_dropBytes`** — a stretch together with what precedes it
  and with what follows it.
* **`utf8`** — the bytes of a text; `length_utf8` relates them to `byteLength`.
-/

namespace SourceLint.Text

/-! ### Splitting -/

theorem isBoundary_append_of_le {as : List Char} (bs : List Char) {n : Nat}
    (h : n ≤ byteLength as) : isBoundary (as ++ bs) n = isBoundary as n := by
  induction as generalizing n with
  | nil =>
    have hn : n = 0 := by simpa using h
    rw [hn, List.nil_append, isBoundary_zero, isBoundary_zero]
  | cons a as ih =>
    have hle : n - a.utf8Size ≤ byteLength as := by
      rw [byteLength_cons] at h
      omega
    rw [List.cons_append, isBoundary, isBoundary, ih hle]

theorem isBoundary_append_add (as bs : List Char) (n : Nat) :
    isBoundary (as ++ bs) (byteLength as + n) = isBoundary bs n := by
  induction as with
  | nil => simp
  | cons a as ih =>
    have ha : 0 < a.utf8Size := Char.utf8Size_pos a
    have hz : (a.utf8Size + byteLength as + n == 0) = false := beq_eq_false_iff_ne.2 (by omega)
    have hle : a.utf8Size ≤ a.utf8Size + byteLength as + n := by omega
    rw [List.cons_append, byteLength_cons, isBoundary, hz, decide_eq_true hle, Bool.false_or,
      Bool.true_and, show a.utf8Size + byteLength as + n - a.utf8Size = byteLength as + n by omega, ih]

theorem byteLength_le_of_sublist {as bs : List Char} (h : as.Sublist bs) :
    byteLength as ≤ byteLength bs := by
  induction h with
  | slnil => exact Nat.le_refl _
  | cons b _ ih =>
    rw [byteLength_cons]
    omega
  | cons_cons b _ ih =>
    rw [byteLength_cons, byteLength_cons]
    omega

/-- The end of the first part is a boundary. -/
theorem isBoundary_append (as bs : List Char) : isBoundary (as ++ bs) (byteLength as) = true := by
  rw [isBoundary_append_of_le bs (Nat.le_refl _), isBoundary_byteLength]

theorem takeBytes_zero (cs : List Char) : takeBytes 0 cs = [] := by
  cases cs with
  | nil => rfl
  | cons c cs =>
    have hc : 0 < c.utf8Size := Char.utf8Size_pos c
    rw [takeBytes, if_neg (by omega)]

theorem dropBytes_zero (cs : List Char) : dropBytes 0 cs = cs := by
  cases cs with
  | nil => rfl
  | cons c cs =>
    have hc : 0 < c.utf8Size := Char.utf8Size_pos c
    rw [dropBytes, if_neg (by omega)]

theorem takeBytes_append_of_le {as : List Char} (bs : List Char) {n : Nat}
    (h : n ≤ byteLength as) : takeBytes n (as ++ bs) = takeBytes n as := by
  induction as generalizing n with
  | nil =>
    have hn : n = 0 := by simpa using h
    rw [hn, takeBytes_zero, takeBytes_zero]
  | cons a as ih =>
    have hle : n - a.utf8Size ≤ byteLength as := by
      rw [byteLength_cons] at h
      omega
    rw [List.cons_append, takeBytes, takeBytes, ih hle]

theorem takeBytes_append_add (as bs : List Char) (n : Nat) :
    takeBytes (byteLength as + n) (as ++ bs) = as ++ takeBytes n bs := by
  induction as with
  | nil => simp
  | cons a as ih =>
    rw [List.cons_append, byteLength_cons, takeBytes, if_pos (by omega),
      show a.utf8Size + byteLength as + n - a.utf8Size = byteLength as + n by omega, ih,
      List.cons_append]

theorem dropBytes_append_add (as bs : List Char) (n : Nat) :
    dropBytes (byteLength as + n) (as ++ bs) = dropBytes n bs := by
  induction as with
  | nil => simp
  | cons a as ih =>
    rw [List.cons_append, byteLength_cons, dropBytes, if_pos (by omega),
      show a.utf8Size + byteLength as + n - a.utf8Size = byteLength as + n by omega, ih]

theorem takeBytes_append (as bs : List Char) : takeBytes (byteLength as) (as ++ bs) = as := by
  simpa [takeBytes_zero] using takeBytes_append_add as bs 0

theorem dropBytes_append (as bs : List Char) : dropBytes (byteLength as) (as ++ bs) = bs := by
  simpa [dropBytes_zero] using dropBytes_append_add as bs 0

/-- A boundary splits the text into a part of exactly that many bytes and the rest. -/
theorem exists_append_of_isBoundary {cs : List Char} {n : Nat} (h : isBoundary cs n = true) :
    ∃ as bs, cs = as ++ bs ∧ byteLength as = n :=
  ⟨takeBytes n cs, dropBytes n cs, (takeBytes_append_dropBytes n cs).symm, byteLength_takeBytes h⟩

/-- A boundary does not lie past the end. -/
theorem le_byteLength_of_isBoundary {cs : List Char} {n : Nat} (h : isBoundary cs n = true) :
    n ≤ byteLength cs := by
  obtain ⟨as, bs, rfl, rfl⟩ := exists_append_of_isBoundary h
  rw [byteLength_append]
  omega

/-! ### Two offsets -/

/-- Two boundaries split the text into three parts. -/
theorem exists_append_append_of_isBoundary {cs : List Char} {m n : Nat}
    (hm : isBoundary cs m = true) (hn : isBoundary cs n = true) (hmn : m ≤ n) :
    ∃ as bs ds, cs = as ++ bs ++ ds ∧ byteLength as = m ∧ byteLength (as ++ bs) = n := by
  obtain ⟨as, rest, rfl, rfl⟩ := exists_append_of_isBoundary hm
  obtain ⟨k, rfl⟩ := Nat.exists_eq_add_of_le hmn
  rw [isBoundary_append_add] at hn
  obtain ⟨bs, ds, rfl, rfl⟩ := exists_append_of_isBoundary hn
  exact ⟨as, bs, ds, (List.append_assoc as bs ds).symm, rfl, byteLength_append as bs⟩

theorem slice_append (as bs ds : List Char) :
    slice (byteLength as) (byteLength (as ++ bs)) (as ++ bs ++ ds) = bs := by
  rw [slice, List.append_assoc, dropBytes_append, byteLength_append, Nat.add_sub_cancel_left,
    takeBytes_append]

theorem slice_append_add (as bs : List Char) (m n : Nat) :
    slice (byteLength as + m) (byteLength as + n) (as ++ bs) = slice m n bs := by
  rw [slice, slice, dropBytes_append_add, Nat.add_sub_add_left]

/-- What precedes a stretch and the stretch make up what precedes its end. -/
theorem takeBytes_append_slice {cs : List Char} {m n : Nat} (hm : isBoundary cs m = true)
    (hn : isBoundary cs n = true) (hmn : m ≤ n) :
    takeBytes m cs ++ slice m n cs = takeBytes n cs := by
  obtain ⟨as, bs, ds, rfl, rfl, rfl⟩ := exists_append_append_of_isBoundary hm hn hmn
  rw [slice_append, takeBytes_append, List.append_assoc, takeBytes_append]

/-- A stretch and what follows it make up what follows its beginning. -/
theorem slice_append_dropBytes {cs : List Char} {m n : Nat} (hm : isBoundary cs m = true)
    (hn : isBoundary cs n = true) (hmn : m ≤ n) :
    slice m n cs ++ dropBytes n cs = dropBytes m cs := by
  obtain ⟨as, bs, ds, rfl, rfl, rfl⟩ := exists_append_append_of_isBoundary hm hn hmn
  rw [slice_append, dropBytes_append, List.append_assoc, dropBytes_append]

/-- A stretch has as many bytes as lie between its ends. -/
theorem byteLength_slice {cs : List Char} {m n : Nat} (hm : isBoundary cs m = true)
    (hn : isBoundary cs n = true) (hmn : m ≤ n) : byteLength (slice m n cs) = n - m := by
  obtain ⟨as, bs, ds, rfl, rfl, rfl⟩ := exists_append_append_of_isBoundary hm hn hmn
  rw [slice_append, byteLength_append, Nat.add_sub_cancel_left]

/-! ### Bytes -/

/-- The bytes of the text. -/
def utf8 (cs : List Char) : List UInt8 :=
  cs.flatMap String.utf8EncodeChar

@[simp] theorem utf8_append (as bs : List Char) : utf8 (as ++ bs) = utf8 as ++ utf8 bs :=
  List.flatMap_append

@[simp] theorem length_utf8 (cs : List Char) : (utf8 cs).length = byteLength cs := by
  induction cs with
  | nil => rfl
  | cons c cs ih =>
    rw [show utf8 (c :: cs) = String.utf8EncodeChar c ++ utf8 cs from rfl, List.length_append, ih,
      String.length_utf8EncodeChar, byteLength_cons]

end SourceLint.Text
