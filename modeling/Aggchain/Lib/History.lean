import Mathlib.Data.Set.Insert
import Mathlib.Data.List.Count

/-!
# Insert/remove histories

A history is a list of events `insert v` and `remove k` over values `V` with a key `key : V → K`.
It is valid from a set of live keys if an insert only meets a key that is not live and a remove
only a key that is.  What is left of a history when only its two projections are known
(`inserted`, the values in order, and `removed`, the keys in order) is governed by one counting
identity per key, `count_balance`.
-/

namespace History

/-- One event: a value goes in under its key, or a key goes out. -/
inductive Event (K V : Type*) where
  | insert (v : V)
  | remove (k : K)

variable {K V : Type*} (key : V → K)

/-- The event may happen when `S` is live. -/
def Enabled (S : Set K) : Event K V → Prop
  | .insert v => key v ∉ S
  | .remove k => k ∈ S

/-- The live keys after an event. -/
def apply (S : Set K) : Event K V → Set K
  | .insert v => insert (key v) S
  | .remove k => S \ {k}

/-- The live keys at the end of a history. -/
def live (S : Set K) (h : List (Event K V)) : Set K := h.foldl (apply key) S

/-- Every event of the history is enabled when it happens. -/
def Valid : Set K → List (Event K V) → Prop
  | _, [] => True
  | S, e :: h => Enabled key S e ∧ Valid (apply key S e) h

/-- The inserted values, in order. -/
def inserted : List (Event K V) → List V
  | [] => []
  | .insert v :: h => v :: inserted h
  | .remove _ :: h => inserted h

/-- The removed keys, in order. -/
def removed : List (Event K V) → List K
  | [] => []
  | .insert _ :: h => removed h
  | .remove k :: h => k :: removed h

variable {key}

@[simp] theorem live_nil (S : Set K) : live key S ([] : List (Event K V)) = S := rfl

@[simp] theorem live_append (S : Set K) (h h' : List (Event K V)) :
    live key S (h ++ h') = live key (live key S h) h' := List.foldl_append

theorem valid_append {S : Set K} {h h' : List (Event K V)} :
    Valid key S (h ++ h') ↔ Valid key S h ∧ Valid key (live key S h) h' := by
  induction h generalizing S with
  | nil => simp [Valid]
  | cons e h ih => simp only [List.cons_append, Valid, ih, and_assoc]; rfl

@[simp] theorem removed_append (h h' : List (Event K V)) :
    removed (h ++ h') = removed h ++ removed h' := by
  induction h with
  | nil => rfl
  | cons e h ih => cases e <;> simp [removed, ih]

theorem removed_sublist_flatten {ranges : List (List (Event K V))} {r : List (Event K V)}
    (hr : r ∈ ranges) : (removed r).Sublist (removed ranges.flatten) := by
  obtain ⟨a, b, rfl⟩ := List.append_of_mem hr
  rw [List.flatten_append, List.flatten_cons, removed_append, removed_append]
  exact (List.sublist_append_left _ _).trans (List.sublist_append_right _ _)

/-! ## Counting -/

section Counting

open Classical in
/-- One if the key is live, zero otherwise. -/
noncomputable def ind (S : Set K) (k : K) : ℕ := if k ∈ S then 1 else 0

theorem ind_of_mem {S : Set K} {k : K} (h : k ∈ S) : ind S k = 1 := if_pos h

theorem ind_of_notMem {S : Set K} {k : K} (h : k ∉ S) : ind S k = 0 := if_neg h

theorem ind_le_one (S : Set K) (k : K) : ind S k ≤ 1 := by
  unfold ind
  split_ifs <;> simp

/-- An event under another key leaves `k` as it is. -/
theorem ind_congr {S T : Set K} {k : K} (h : k ∈ S ↔ k ∈ T) : ind S k = ind T k := by
  by_cases hS : k ∈ S
  · rw [ind_of_mem hS, ind_of_mem (h.mp hS)]
  · rw [ind_of_notMem hS, ind_of_notMem (fun hT => hS (h.mpr hT))]

variable [DecidableEq K]

/-- **Balance.**  For every key: inserts, plus one if it was live at the start, are removes, plus
one if it is live at the end. -/
theorem count_balance {S : Set K} {h : List (Event K V)} (hv : Valid key S h) (k : K) :
    ((inserted h).map key).count k + ind S k = (removed h).count k + ind (live key S h) k := by
  induction h generalizing S with
  | nil => simp [inserted, removed]
  | cons e h ih =>
    obtain ⟨hen, hrest⟩ := hv
    have hstep := ih hrest
    change _ = _ + ind (live key (apply key S e) h) k
    cases e with
    | insert v =>
      -- `v`'s own key was not live, so the event moves one unit to the live set
      have hmem : k ∈ apply key S (.insert v) ↔ k = key v ∨ k ∈ S := Set.mem_insert_iff
      simp only [inserted, removed, List.map_cons, List.count_cons, beq_iff_eq]
      by_cases hk : key v = k
      · subst hk
        rw [ind_of_mem (hmem.mpr (Or.inl rfl))] at hstep
        rw [if_pos rfl, ind_of_notMem hen]
        omega
      · have hsame : k ∈ apply key S (.insert v) ↔ k ∈ S := by
          rw [hmem]; exact or_iff_right (fun h' => hk h'.symm)
        rw [ind_congr hsame] at hstep
        rw [if_neg hk]
        omega
    | remove k' =>
      have hmem : k ∈ apply key S (.remove k' : Event K V) ↔ k ∈ S ∧ k ≠ k' := Iff.rfl
      simp only [inserted, removed, List.count_cons, beq_iff_eq]
      by_cases hk : k' = k
      · subst hk
        rw [ind_of_notMem (fun h' => (hmem.mp h').2 rfl)] at hstep
        rw [if_pos rfl, ind_of_mem hen]
        omega
      · have hsame : k ∈ apply key S (.remove k' : Event K V) ↔ k ∈ S := by
          rw [hmem]; exact and_iff_left (fun h' => hk h'.symm)
        rw [ind_congr hsame] at hstep
        rw [if_neg hk]
        omega

/-- A key that goes from not live to live was inserted once more than it was removed. -/
theorem count_of_entered {S : Set K} {h : List (Event K V)} (hv : Valid key S h) {k : K}
    (hk : k ∈ live key S h \ S) : ((inserted h).map key).count k = (removed h).count k + 1 := by
  have hbal := count_balance hv k
  rw [ind_of_notMem hk.2, ind_of_mem hk.1] at hbal
  exact hbal

/-- Every other key was removed at least as often as it was inserted. -/
theorem count_of_not_entered {S : Set K} {h : List (Event K V)} (hv : Valid key S h) {k : K}
    (hk : k ∉ live key S h \ S) : ((inserted h).map key).count k ≤ (removed h).count k := by
  have hbal := count_balance hv k
  by_cases hS : k ∈ S
  · have hle := ind_le_one (live key S h) k
    rw [ind_of_mem hS] at hbal
    omega
  · rw [ind_of_notMem hS, ind_of_notMem (fun h' => hk ⟨h', hS⟩)] at hbal
    exact hbal.le

end Counting

/-! ## Consecutive ranges -/

/-- The live keys at the start of range `i` of a history cut into ranges. -/
def liveAt (key : V → K) (S : Set K) (ranges : List (List (Event K V))) (i : ℕ) : Set K :=
  live key S (ranges.take i).flatten

theorem liveAt_succ {S : Set K} {ranges : List (List (Event K V))} {i : ℕ}
    {r : List (Event K V)} (hr : ranges[i]? = some r) :
    liveAt key S ranges (i + 1) = live key (liveAt key S ranges i) r := by
  obtain ⟨hi, rfl⟩ := List.getElem?_eq_some_iff.mp hr
  rw [liveAt, List.take_succ_eq_append_getElem hi, List.flatten_append, live_append]
  simp [liveAt]

theorem valid_range {S : Set K} {ranges : List (List (Event K V))}
    (hv : Valid key S ranges.flatten) {i : ℕ} {r : List (Event K V)} (hr : ranges[i]? = some r) :
    Valid key (liveAt key S ranges i) r := by
  obtain ⟨hi, rfl⟩ := List.getElem?_eq_some_iff.mp hr
  rw [← List.take_append_drop i ranges, List.flatten_append, valid_append] at hv
  have hdrop := hv.2
  rw [List.drop_eq_getElem_cons hi, List.flatten_cons, valid_append] at hdrop
  exact hdrop.1

/-- A key live at the end and not at the start enters the live set in some range. -/
theorem exists_entered {S : Set K} {ranges : List (List (Event K V))} {k : K}
    (hk : k ∈ live key S ranges.flatten \ S) :
    ∃ i r, ranges[i]? = some r ∧ k ∈ live key (liveAt key S ranges i) r \ liveAt key S ranges i := by
  induction ranges generalizing S with
  | nil => exact absurd hk.1 hk.2
  | cons r ranges ih =>
    by_cases hr : k ∈ live key S r
    · exact ⟨0, r, rfl, by simpa [liveAt] using ⟨hr, hk.2⟩⟩
    · rw [List.flatten_cons, live_append] at hk
      obtain ⟨i, r', hi, hmem⟩ := ih ⟨hk.1, hr⟩
      exact ⟨i + 1, r', hi, by simpa [liveAt] using hmem⟩

end History
