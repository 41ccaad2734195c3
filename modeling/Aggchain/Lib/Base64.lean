import Mathlib.Data.List.GetD
import Mathlib.Data.List.Nodup
import Mathlib.Tactic.NormNum

/-!
# Base64

The standard alphabet with padding: three bytes make four symbols of six bits, and the last group is
filled up with `=`.  `encode_inj`: bytes can be told apart by their text.
-/

namespace Base64

/-- The standard alphabet. -/
def alphabet : List Char :=
  "ABCDEFGHIJKLMNOPQRSTUVWXYZabcdefghijklmnopqrstuvwxyz0123456789+/".toList

/-- The symbol of six bits. -/
def symbol (n : ℕ) : Char := alphabet.getD n '='

theorem length_alphabet : alphabet.length = 64 := by decide +kernel

theorem symbol_mem {n : ℕ} (hn : n < 64) : symbol n ∈ alphabet := by
  have hlt : n < alphabet.length := by rwa [length_alphabet]
  rw [symbol, List.getD_eq_getElem _ _ hlt]
  exact List.getElem_mem hlt

theorem symbol_ne_pad {n : ℕ} (hn : n < 64) : symbol n ≠ '=' := by
  intro h
  have hmem := symbol_mem hn
  rw [h] at hmem
  exact absurd hmem (by decide +kernel)

theorem symbol_inj {m n : ℕ} (hm : m < 64) (hn : n < 64) (h : symbol m = symbol n) : m = n := by
  have hnodup : alphabet.Nodup := by decide +kernel
  rw [← length_alphabet] at hm hn
  rw [symbol, symbol, List.getD_eq_getElem _ _ hm, List.getD_eq_getElem _ _ hn] at h
  exact (hnodup.getElem_inj_iff).mp h

/-! ## Groups of three bytes -/

def sextet₀ (a : UInt8) : ℕ := a.toNat / 4
def sextet₁ (a b : UInt8) : ℕ := a.toNat % 4 * 16 + b.toNat / 16
def sextet₂ (b c : UInt8) : ℕ := b.toNat % 16 * 4 + c.toNat / 64
def sextet₃ (c : UInt8) : ℕ := c.toNat % 64

def encode : List UInt8 → List Char
  | [] => []
  | [a] => [symbol (sextet₀ a), symbol (sextet₁ a 0), '=', '=']
  | [a, b] => [symbol (sextet₀ a), symbol (sextet₁ a b), symbol (sextet₂ b 0), '=']
  | a :: b :: c :: rest =>
    symbol (sextet₀ a) :: symbol (sextet₁ a b) :: symbol (sextet₂ b c) :: symbol (sextet₃ c) ::
      encode rest

variable {a a' b b' c c' : UInt8}

theorem sextet₀_lt : sextet₀ a < 64 := by
  have := a.toNat_lt
  unfold sextet₀
  omega

theorem sextet₁_lt : sextet₁ a b < 64 := by
  have := b.toNat_lt
  unfold sextet₁
  omega

theorem sextet₂_lt : sextet₂ b c < 64 := by
  have := c.toNat_lt
  unfold sextet₂
  omega

theorem sextet₃_lt : sextet₃ c < 64 := Nat.mod_lt _ (by norm_num)

/-- The first two symbols have the first byte, and the high half of the second. -/
theorem first_inj (h₀ : symbol (sextet₀ a) = symbol (sextet₀ a'))
    (h₁ : symbol (sextet₁ a b) = symbol (sextet₁ a' b')) :
    a = a' ∧ b.toNat / 16 = b'.toNat / 16 := by
  have h₀ := symbol_inj sextet₀_lt sextet₀_lt h₀
  have h₁ := symbol_inj sextet₁_lt sextet₁_lt h₁
  have hb := b.toNat_lt
  have hb' := b'.toNat_lt
  unfold sextet₀ at h₀
  unfold sextet₁ at h₁
  refine ⟨UInt8.toNat_inj.mp ?_, ?_⟩
  · omega
  · omega

/-- The third symbol has the low half of the second byte, and the high bits of the third. -/
theorem second_inj (hhigh : b.toNat / 16 = b'.toNat / 16)
    (h₂ : symbol (sextet₂ b c) = symbol (sextet₂ b' c')) :
    b = b' ∧ c.toNat / 64 = c'.toNat / 64 := by
  have h₂ := symbol_inj sextet₂_lt sextet₂_lt h₂
  have hc := c.toNat_lt
  have hc' := c'.toNat_lt
  unfold sextet₂ at h₂
  refine ⟨UInt8.toNat_inj.mp ?_, ?_⟩
  · omega
  · omega

theorem third_inj (hhigh : c.toNat / 64 = c'.toNat / 64)
    (h₃ : symbol (sextet₃ c) = symbol (sextet₃ c')) : c = c' := by
  have h₃ := symbol_inj sextet₃_lt sextet₃_lt h₃
  unfold sextet₃ at h₃
  refine UInt8.toNat_inj.mp ?_
  omega

/-- Texts of different shape differ in their padding, texts of one shape symbol by symbol. -/
theorem encode_inj : ∀ {l l' : List UInt8}, encode l = encode l' → l = l'
  | [], [], _ => rfl
  | [], [_], h | [], [_, _], h | [], _ :: _ :: _ :: _, h => by simp [encode] at h
  | [_], [], h | [_, _], [], h | _ :: _ :: _ :: _, [], h => by simp [encode] at h
  | [a], [a'], h => by
    simp only [encode, List.cons.injEq] at h
    obtain ⟨h₀, h₁, -⟩ := h
    rw [(first_inj h₀ h₁).1]
  | [a], [a', b'], h => by
    simp only [encode, List.cons.injEq] at h
    exact absurd h.2.2.1.symm (symbol_ne_pad sextet₂_lt)
  | [a], a' :: b' :: c' :: rest', h => by
    simp only [encode, List.cons.injEq] at h
    exact absurd h.2.2.1.symm (symbol_ne_pad sextet₂_lt)
  | [a, b], [a'], h => by
    simp only [encode, List.cons.injEq] at h
    exact absurd h.2.2.1 (symbol_ne_pad sextet₂_lt)
  | [a, b], [a', b'], h => by
    simp only [encode, List.cons.injEq] at h
    obtain ⟨h₀, h₁, h₂, -⟩ := h
    obtain ⟨rfl, hhigh⟩ := first_inj h₀ h₁
    rw [(second_inj hhigh h₂).1]
  | [a, b], a' :: b' :: c' :: rest', h => by
    simp only [encode, List.cons.injEq] at h
    exact absurd h.2.2.2.1.symm (symbol_ne_pad sextet₃_lt)
  | a :: b :: c :: rest, [a'], h => by
    simp only [encode, List.cons.injEq] at h
    exact absurd h.2.2.1 (symbol_ne_pad sextet₂_lt)
  | a :: b :: c :: rest, [a', b'], h => by
    simp only [encode, List.cons.injEq] at h
    exact absurd h.2.2.2.1 (symbol_ne_pad sextet₃_lt)
  | a :: b :: c :: rest, a' :: b' :: c' :: rest', h => by
    simp only [encode, List.cons.injEq] at h
    obtain ⟨h₀, h₁, h₂, h₃, hrest⟩ := h
    obtain ⟨rfl, hhigh⟩ := first_inj h₀ h₁
    obtain ⟨rfl, hhigh'⟩ := second_inj hhigh h₂
    rw [third_inj hhigh' h₃, encode_inj hrest]

end Base64
