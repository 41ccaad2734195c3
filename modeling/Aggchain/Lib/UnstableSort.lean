import Mathlib.Data.List.Sort
import Mathlib.Data.Prod.Lex

/-!
# Sorting by a key with unspecified order on ties

`UnstableSort key` is any function that permutes its input and orders it by `key`.  Where the keys
are distinct its result is determined by the elements alone (`map_sort_eq`), so whatever order
the input was iterated in does not matter.
-/

/-- A sort by `key` that promises nothing about elements of equal key. -/
structure UnstableSort {α κ : Type} [LinearOrder κ] (key : α → κ) where
  sort : List α → List α
  perm : ∀ l, (sort l).Perm l
  sorted : ∀ l, (sort l).Pairwise (fun a b => key a ≤ key b)

namespace UnstableSort

variable {α κ : Type} [LinearOrder κ] {key : α → κ}

/-- Insertion sort is one. -/
def insertionSort (key : α → κ) : UnstableSort key where
  sort l := l.insertionSort (fun a b => key a ≤ key b)
  perm l := List.perm_insertionSort _ l
  sorted l := by
    have htotal : Std.Total (fun a b : α => key a ≤ key b) := ⟨fun a b => le_total _ _⟩
    have htrans : IsTrans α (fun a b => key a ≤ key b) := ⟨fun a b c hab hbc => hab.trans hbc⟩
    exact List.pairwise_insertionSort _ l

/-- If, read through `g`, the elements are those of a list with strictly increasing keys, then so
read the result is that list. -/
theorem map_sort_eq (s : UnstableSort key) {β : Type} {g : α → β} {key' : β → κ}
    (hkey : ∀ a, key' (g a) = key a) {l : List α} {target : List β}
    (hperm : (l.map g).Perm target) (hinc : target.Pairwise (fun a b => key' a < key' b)) :
    (s.sort l).map g = target := by
  have hp : ((s.sort l).map g).Perm target := ((s.perm l).map g).trans hperm
  have hsorted : ((s.sort l).map g).Pairwise (fun a b => key' a ≤ key' b) := by
    refine List.pairwise_map.mpr ((s.sorted l).imp ?_)
    intro a b hab
    rwa [hkey, hkey]
  refine hp.eq_of_pairwise ?_ hsorted (hinc.imp le_of_lt)
  intro a b ha hb hab hba
  -- two members of `target` with one key are one member
  have hnodup : (target.map key').Nodup := List.pairwise_map.mpr (hinc.imp ne_of_lt)
  exact List.inj_on_of_nodup_map hnodup (hp.subset ha) hb (le_antisymm hab hba)

section Distinct

variable {l : List α}

/-- With distinct keys the result is the one ordering of the elements. -/
theorem sort_eq (s : UnstableSort key) {target : List α} (hperm : l.Perm target)
    (hsorted : target.Pairwise (fun a b => key a ≤ key b)) (hnodup : (l.map key).Nodup) :
    s.sort l = target := by
  have hne : target.Pairwise (fun a b => key a ≠ key b) :=
    List.pairwise_map.mp ((hperm.map key).nodup_iff.mp hnodup)
  have hinc : target.Pairwise (fun a b => key a < key b) := by
    refine (hsorted.and hne).imp ?_
    intro a b hab
    exact lt_of_le_of_ne hab.1 hab.2
  have hid : (l.map id).Perm target := by rwa [List.map_id]
  have hsort : (s.sort l).map id = target := s.map_sort_eq (fun _ => rfl) hid hinc
  rwa [List.map_id] at hsort

/-- Neither the order of the input nor the choice of the sort matters. -/
theorem sort_eq_of_perm (s s' : UnstableSort key) {l' : List α} (hperm : l.Perm l')
    (hnodup : (l.map key).Nodup) : s.sort l = s'.sort l' :=
  s.sort_eq (hperm.trans (s'.perm l').symm) (s'.sorted l') hnodup

/-- Where one part stays below the other, the parts can be sorted one by one. -/
theorem sort_append (s : UnstableSort key) {l₁ l₂ : List α} (hperm : l.Perm (l₁ ++ l₂))
    (hle : ∀ a ∈ l₁, ∀ b ∈ l₂, key a ≤ key b) (hnodup : (l.map key).Nodup) :
    s.sort l = s.sort l₁ ++ s.sort l₂ := by
  refine s.sort_eq (hperm.trans ((s.perm l₁).append (s.perm l₂)).symm) ?_ hnodup
  refine List.pairwise_append.mpr ⟨s.sorted l₁, s.sorted l₂, ?_⟩
  intro a ha b hb
  exact hle a ((s.perm l₁).mem_iff.mp ha) b ((s.perm l₂).mem_iff.mp hb)

end Distinct

theorem mem_sort (s : UnstableSort key) {l : List α} {a : α} : a ∈ s.sort l ↔ a ∈ l :=
  (s.perm l).mem_iff

end UnstableSort
