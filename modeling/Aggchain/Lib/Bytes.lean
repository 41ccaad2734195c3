import Mathlib.Data.Vector.Basic
import Mathlib.Data.Nat.Digits.Lemmas

/-!
# Fixed-width byte strings

Byte strings of a known width (`Bytes n`), big-endian encodings of natural numbers and packed
concatenations.

* `ofBe` reads a big-endian byte list, `beBytes w` writes one of width `w`, `natBe` writes the
  minimal one (`[0]` for zero).
* `packed_inj`: a concatenation of pieces whose widths are known determines the pieces.
-/

/-- Byte strings of width `n`. -/
abbrev Bytes (n : ℕ) := List.Vector UInt8 n

namespace Bytes

/-- The constant byte string. -/
def replicate (n : ℕ) (b : UInt8) : Bytes n := List.Vector.replicate n b

theorem length_val {n : ℕ} (b : Bytes n) : b.val.length = n := b.2

/-! ## Big-endian numbers -/

section BigEndian

/-- The number a big-endian byte list stands for. -/
def ofBe (l : List UInt8) : ℕ := l.foldl (fun acc b => acc * 256 + b.toNat) 0

/-- The `w` low-order bytes of `n`, most significant first. -/
def beBytes : ℕ → ℕ → List UInt8
  | 0, _ => []
  | w + 1, n => beBytes w (n / 256) ++ [UInt8.ofNat n]

/-- The minimal big-endian bytes of `n`: one zero byte for `0`, no leading zero otherwise. -/
def natBe (n : ℕ) : List UInt8 :=
  if n = 0 then [0] else (Nat.digits 256 n).reverse.map UInt8.ofNat

@[simp] theorem ofBe_nil : ofBe [] = 0 := rfl

@[simp] theorem ofBe_concat (l : List UInt8) (b : UInt8) : ofBe (l ++ [b]) = ofBe l * 256 + b.toNat := by
  simp [ofBe, List.foldl_append]

theorem ofBe_zero_cons (l : List UInt8) : ofBe (0 :: l) = ofBe l := rfl

@[simp] theorem length_beBytes (w n : ℕ) : (beBytes w n).length = w := by
  induction w generalizing n with
  | zero => rfl
  | succ w ih => simp [beBytes, ih]

/-- The byte string of width `w` of a number. -/
def ofNat (w n : ℕ) : Bytes w := ⟨beBytes w n, length_beBytes w n⟩

theorem ofBe_beBytes (w n : ℕ) : ofBe (beBytes w n) = n % 256 ^ w := by
  induction w generalizing n with
  | zero => simp [beBytes, Nat.mod_one]
  | succ w ih =>
    rw [pow_succ', Nat.mod_mul, beBytes, ofBe_concat, ih, UInt8.toNat_ofNat']
    omega

theorem ofBe_beBytes_of_lt {w n : ℕ} (h : n < 256 ^ w) : ofBe (beBytes w n) = n := by
  rw [ofBe_beBytes, Nat.mod_eq_of_lt h]

theorem beBytes_inj {w n m : ℕ} (hn : n < 256 ^ w) (hm : m < 256 ^ w)
    (h : beBytes w n = beBytes w m) : n = m := by
  rw [← ofBe_beBytes_of_lt hn, h, ofBe_beBytes_of_lt hm]

/-- A byte list is the big-endian form, at its own width, of the number it stands for. -/
theorem beBytes_ofBe (l : List UInt8) : beBytes l.length (ofBe l) = l := by
  induction l using List.reverseRecOn with
  | nil => rfl
  | append_singleton l b ih =>
    have hb : b.toNat < 256 := b.toNat_lt
    have hdiv : (ofBe l * 256 + b.toNat) / 256 = ofBe l := by omega
    have hlow : UInt8.ofNat (ofBe l * 256 + b.toNat) = b := by
      apply UInt8.toNat_inj.mp
      rw [UInt8.toNat_ofNat']
      omega
    rw [List.length_append, List.length_singleton, beBytes, ofBe_concat, hdiv, ih, hlow]

theorem ofBe_digits (ds : List ℕ) (h : ∀ d ∈ ds, d < 256) :
    ofBe (ds.reverse.map UInt8.ofNat) = Nat.ofDigits 256 ds := by
  induction ds with
  | nil => rfl
  | cons d ds ih =>
    have hd : d < 256 := h d (by simp)
    rw [List.reverse_cons, List.map_append, List.map_singleton, ofBe_concat,
      ih (fun x hx => h x (by simp [hx])), UInt8.toNat_ofNat', Nat.ofDigits_cons]
    omega

theorem ofBe_natBe (n : ℕ) : ofBe (natBe n) = n := by
  unfold natBe
  split_ifs with h
  · rw [h]; rfl
  · rw [ofBe_digits _ (fun d hd => Nat.digits_lt_base (by norm_num) hd), Nat.ofDigits_digits]

/-- How long the minimal form of a positive number is. -/
theorem length_natBe_iff {n w : ℕ} (hn : n ≠ 0) :
    (natBe n).length = w + 1 ↔ 256 ^ w ≤ n ∧ n < 256 ^ (w + 1) := by
  have hle := Nat.digits_length_le_iff (k := w + 1) (by norm_num : 1 < 256) n
  have hlt := Nat.lt_digits_length_iff (k := w) (by norm_num : 1 < 256) n
  rw [natBe, if_neg hn, List.length_map, List.length_reverse, ← hle, ← hlt]
  omega

end BigEndian

/-! ## Packed concatenation -/

section Packed

/-- Pieces of pairwise equal widths are recovered from their concatenation. -/
theorem packed_inj {α : Type*} {xs ys : List (List α)}
    (hw : List.Forall₂ (fun x y => x.length = y.length) xs ys) (h : xs.flatten = ys.flatten) :
    xs = ys := by
  induction hw with
  | nil => rfl
  | cons hxy _ ih =>
    rw [List.flatten_cons, List.flatten_cons] at h
    obtain ⟨h1, h2⟩ := List.append_inj h hxy
    rw [h1, ih h2]

end Packed

end Bytes
