import Mathlib.Data.List.Chain
import Mathlib.Data.List.Induction

/-!
# Hash chains

A chain value is folded with one element after the other: `fold f a [x₁, x₂, …]` is
`f (f a x₁) x₂ …`.  Two element lists that lead from one value to the same value are equal, or
they exhibit one of two failures, both located inside the two lists:

* `Collision f a xs ys`: behind a common suffix, two different pairs (chain value, element) with
  the same image;
* `Cycle f a xs ys`: one list is the other one behind a non-empty prefix that folds `a` back to `a`.

No injectivity of `f` is assumed: over a finite type a bare "there is a collision" holds of every
`f`, so the failures name the positions they occur at.
-/

namespace HashChain

variable {α β : Type*} (f : α → β → α)

/-- The chain value after folding in the elements `xs`. -/
def fold (a : α) (xs : List β) : α := xs.foldl f a

/-- The two lists run into the same image of two different pairs, followed by the same elements. -/
def Collision (a : α) (xs ys : List β) : Prop :=
  ∃ p x q y s, xs = p ++ x :: s ∧ ys = q ++ y :: s ∧
    (fold f a p, x) ≠ (fold f a q, y) ∧ f (fold f a p) x = f (fold f a q) y

/-- One list is the other one behind a non-empty prefix that leads back to the start. -/
def Cycle (a : α) (xs ys : List β) : Prop :=
  ∃ p, p ≠ [] ∧ fold f a p = a ∧ (xs = p ++ ys ∨ ys = p ++ xs)

/-- `xs` and `ys` are the same elements, up to a collision or a cycle that they exhibit. -/
def Bound (a : α) (xs ys : List β) : Prop := xs = ys ∨ Collision f a xs ys ∨ Cycle f a xs ys

variable {f}

@[simp] theorem fold_nil (a : α) : fold f a [] = a := rfl

@[simp] theorem fold_append (a : α) (xs ys : List β) :
    fold f a (xs ++ ys) = fold f (fold f a xs) ys := List.foldl_append

@[simp] theorem fold_concat (a : α) (xs : List β) (x : β) :
    fold f a (xs ++ [x]) = f (fold f a xs) x := by
  simp [fold, List.foldl_append]

/-- Parts of a chain, each from where the part before left it, make up the way from the first value
to the last one. -/
theorem fold_run {ι : Type*} (start stop : ι → α) (elements : ι → List β) {first : ι}
    {rest : List ι} (hrun : (first :: rest).IsChain (fun i j => start j = stop i))
    (hfold : ∀ i ∈ first :: rest, fold f (start i) (elements i) = stop i) :
    fold f (start first) ((first :: rest).flatMap elements) = stop (rest.getLastD first) := by
  induction rest generalizing first with
  | nil =>
    rw [List.flatMap_cons, List.flatMap_nil, List.append_nil]
    exact hfold first List.mem_cons_self
  | cons next rest ih =>
    obtain ⟨hnext, hrun'⟩ := List.isChain_cons_cons.mp hrun
    have htail := ih hrun' fun i hi => hfold i (List.mem_cons_of_mem first hi)
    rw [List.flatMap_cons, fold_append, hfold first List.mem_cons_self, ← hnext, htail,
      List.getLastD_cons]

theorem Collision.append {a : α} {xs ys : List β} (h : Collision f a xs ys) (s : List β) :
    Collision f a (xs ++ s) (ys ++ s) := by
  obtain ⟨p, x, q, y, t, rfl, rfl, hne, heq⟩ := h
  exact ⟨p, x, q, y, t ++ s, by simp, by simp, hne, heq⟩

theorem Cycle.append {a : α} {xs ys : List β} (h : Cycle f a xs ys) (s : List β) :
    Cycle f a (xs ++ s) (ys ++ s) := by
  obtain ⟨p, hp, hcyc, rfl | rfl⟩ := h
  · exact ⟨p, hp, hcyc, Or.inl (by simp)⟩
  · exact ⟨p, hp, hcyc, Or.inr (by simp)⟩

/-- **Binding.**  Two lists between the same two chain values are equal, or they exhibit a
collision or a cycle. -/
theorem bound_of_fold_eq {a : α} {xs ys : List β} (h : fold f a xs = fold f a ys) :
    Bound f a xs ys := by
  induction xs using List.reverseRecOn generalizing ys with
  | nil =>
    -- the other list folds `a` back to `a`
    by_cases hys : ys = []
    · exact Or.inl hys.symm
    · exact Or.inr (Or.inr ⟨ys, hys, h.symm, Or.inr (by simp)⟩)
  | append_singleton xs x ih =>
    induction ys using List.reverseRecOn with
    | nil => exact Or.inr (Or.inr ⟨xs ++ [x], by simp, h, Or.inl (by simp)⟩)
    | append_singleton ys y _ =>
      rw [fold_concat, fold_concat] at h
      by_cases hpair : (fold f a xs, x) = (fold f a ys, y)
      · -- the last pairs agree: strip them and go on with the shorter lists
        obtain ⟨hfold, rfl⟩ := Prod.mk.inj hpair
        rcases ih hfold with rfl | hcol | hcyc
        · exact Or.inl rfl
        · exact Or.inr (Or.inl (hcol.append [x]))
        · exact Or.inr (Or.inr (hcyc.append [x]))
      · exact Or.inr (Or.inl ⟨xs, x, ys, y, [], rfl, rfl, hpair, h⟩)

end HashChain
