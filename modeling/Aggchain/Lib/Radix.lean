import Mathlib.Algebra.BigOperators.Fin
import Mathlib.Data.List.Induction
import Mathlib.Data.Nat.Digits.Lemmas

/-!
# Horner packing of digits, over the naturals and modulo `n`

`horner b ws` reads the digits `ws` most significant first.  Digit lists of one length are
determined by it (`horner_inj`), and computing it modulo an `n ≥ b ^ ws.length` never wraps
(`hornerMod_val`).
-/

namespace Radix

/-- The number with base-`b` digits `ws`, most significant first. -/
def horner (b : ℕ) (ws : List ℕ) : ℕ := ws.foldl (fun acc w => acc * b + w) 0

/-- The same, computed modulo `n`. -/
def hornerMod (n : ℕ) [NeZero n] (b : ℕ) (ws : List ℕ) : Fin n :=
  ws.foldl (fun acc w => acc * Fin.ofNat n b + Fin.ofNat n w) 0

variable {b : ℕ}

@[simp] theorem horner_concat (ws : List ℕ) (w : ℕ) :
    horner b (ws ++ [w]) = horner b ws * b + w := by
  simp [horner, List.foldl_append]

theorem horner_eq_ofDigits (ws : List ℕ) : horner b ws = Nat.ofDigits b ws.reverse := by
  induction ws using List.reverseRecOn with
  | nil => rfl
  | append_singleton ws w ih =>
    rw [horner_concat, ih, List.reverse_append, List.reverse_singleton, List.singleton_append,
      Nat.ofDigits_cons, Nat.mul_comm, Nat.add_comm]

/-- The leading digit. -/
theorem horner_cons (w : ℕ) (ws : List ℕ) :
    horner b (w :: ws) = w * b ^ ws.length + horner b ws := by
  rw [horner_eq_ofDigits, horner_eq_ofDigits, List.reverse_cons, Nat.ofDigits_append,
    Nat.ofDigits_singleton, List.length_reverse]
  ring

/-- The number as a sum over its digits. -/
theorem horner_ofFn {n : ℕ} (f : Fin n → ℕ) :
    horner b (List.ofFn f) = ∑ i : Fin n, f i * b ^ (n - 1 - i.val) := by
  induction n with
  | zero => simp [horner]
  | succ n ih =>
    rw [List.ofFn_succ, horner_cons, ih, Fin.sum_univ_succ, List.length_ofFn]
    congr 1
    refine Finset.sum_congr rfl fun i _ => ?_
    rw [Fin.val_succ]
    congr 2
    omega

theorem horner_lt (hb : 1 < b) {ws : List ℕ} (h : ∀ w ∈ ws, w < b) :
    horner b ws < b ^ ws.length := by
  rw [horner_eq_ofDigits, ← List.length_reverse]
  exact Nat.ofDigits_lt_base_pow_length hb (fun w hw => h w (List.mem_reverse.mp hw))

/-- Digit lists of the same length are determined by their number. -/
theorem horner_inj (hb : 1 < b) {ws vs : List ℕ} (hlen : ws.length = vs.length)
    (hw : ∀ w ∈ ws, w < b) (hv : ∀ v ∈ vs, v < b) (h : horner b ws = horner b vs) : ws = vs := by
  rw [horner_eq_ofDigits, horner_eq_ofDigits] at h
  have hrev := Nat.ofDigits_inj_of_len_eq hb (by simpa using hlen)
    (fun w hmem => hw w (List.mem_reverse.mp hmem)) (fun v hmem => hv v (List.mem_reverse.mp hmem)) h
  exact List.reverse_injective hrev

/-- Below the modulus nothing wraps. -/
theorem hornerMod_val {n : ℕ} [NeZero n] (hb : 1 < b) {ws : List ℕ} (hw : ∀ w ∈ ws, w < b)
    (hn : b ^ ws.length ≤ n) : (hornerMod n b ws).val = horner b ws := by
  induction ws using List.reverseRecOn with
  | nil => rfl
  | append_singleton ws w ih =>
    have hlt : horner b (ws ++ [w]) < n := (horner_lt hb hw).trans_le hn
    have hpre : b ^ ws.length ≤ n := by
      refine le_trans (Nat.pow_le_pow_right (by omega) ?_) hn
      simp
    have ih' := ih (fun v hv => hw v (List.mem_append_left _ hv)) hpre
    have hstep : hornerMod n b (ws ++ [w]) = hornerMod n b ws * Fin.ofNat n b + Fin.ofNat n w := by
      simp [hornerMod, List.foldl_append]
    rw [hstep, Fin.val_add, Fin.val_mul, ih']
    rw [horner_concat] at hlt ⊢
    simp only [Fin.ofNat_eq_cast, Fin.val_natCast]
    rw [Nat.mul_mod_mod, ← Nat.add_mod]
    exact Nat.mod_eq_of_lt hlt

end Radix
