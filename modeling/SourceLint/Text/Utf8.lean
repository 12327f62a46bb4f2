/-!
# Byte offsets in a text

Offsets count the bytes of the UTF-8 encoding, while a text is a list of characters.  This module
relates the two.

* **`byteLength`** — the number of bytes of a text.
* **`isBoundary`** — an offset falls between two characters, or at either end.
* **`takeBytes`**, **`dropBytes`** — the characters before and after an offset.
* **`slice`** — the characters between two offsets.

`takeBytes_append_dropBytes` says that an offset splits a text without loss, and
`byteLength_takeBytes` that at a boundary the first part has exactly as many bytes as the offset.
-/

namespace SourceLint.Text

/-- The number of bytes of the text. -/
def byteLength : List Char → Nat
  | [] => 0
  | c :: cs => c.utf8Size + byteLength cs

/-- Whether the offset lies between two characters of the text or at one of its ends. -/
def isBoundary : List Char → Nat → Bool
  | [], n => n == 0
  | c :: cs, n => n == 0 || (c.utf8Size ≤ n && isBoundary cs (n - c.utf8Size))

/-- The characters that end at or before the offset. -/
def takeBytes : Nat → List Char → List Char
  | _, [] => []
  | n, c :: cs => if c.utf8Size ≤ n then c :: takeBytes (n - c.utf8Size) cs else []

/-- The characters that `takeBytes` leaves. -/
def dropBytes : Nat → List Char → List Char
  | _, [] => []
  | n, c :: cs => if c.utf8Size ≤ n then dropBytes (n - c.utf8Size) cs else c :: cs

/-- The characters from the offset `start` up to the offset `stop`. -/
def slice (start stop : Nat) (cs : List Char) : List Char :=
  takeBytes (stop - start) (dropBytes start cs)

@[simp] theorem byteLength_nil : byteLength [] = 0 := rfl

@[simp] theorem byteLength_cons (c : Char) (cs : List Char) :
    byteLength (c :: cs) = c.utf8Size + byteLength cs := rfl

@[simp] theorem byteLength_append (as bs : List Char) :
    byteLength (as ++ bs) = byteLength as + byteLength bs := by
  induction as with
  | nil => simp
  | cons a as ih => simp [ih, Nat.add_assoc]

theorem isBoundary_zero (cs : List Char) : isBoundary cs 0 = true := by
  cases cs <;> simp [isBoundary]

theorem isBoundary_byteLength (cs : List Char) : isBoundary cs (byteLength cs) = true := by
  induction cs with
  | nil => rfl
  | cons c cs ih => simp [isBoundary, ih]

/-- An offset splits a text without loss. -/
theorem takeBytes_append_dropBytes (n : Nat) (cs : List Char) :
    takeBytes n cs ++ dropBytes n cs = cs := by
  induction cs generalizing n with
  | nil => rfl
  | cons c cs ih =>
    by_cases h : c.utf8Size ≤ n
    · simp [takeBytes, dropBytes, h, ih]
    · simp [takeBytes, dropBytes, h]

/-- At a boundary the part before the offset has as many bytes as the offset says. -/
theorem byteLength_takeBytes {n : Nat} {cs : List Char} (h : isBoundary cs n = true) :
    byteLength (takeBytes n cs) = n := by
  induction cs generalizing n with
  | nil => exact (beq_iff_eq.1 h).symm
  | cons c cs ih =>
    have hc : 0 < c.utf8Size := Char.utf8Size_pos c
    by_cases hn : c.utf8Size ≤ n
    · have h' : isBoundary cs (n - c.utf8Size) = true := by
        have hz : (n == 0) = false := beq_eq_false_iff_ne.2 (by omega)
        simpa only [isBoundary, hz, hn, decide_true, Bool.true_and, Bool.false_or] using h
      simp only [takeBytes, hn, if_true, byteLength_cons, ih h']
      omega
    · have hz : n = 0 := by
        simpa only [isBoundary, hn, decide_false, Bool.false_and, Bool.or_false, beq_iff_eq] using h
      rw [takeBytes, if_neg hn, hz, byteLength_nil]

end SourceLint.Text
