import Aggchain.Guest.StaticCall
import Aggchain.Lib.History
import Mathlib.Data.List.DropRight
import Mathlib.Logic.Function.Basic

/-!
# Aggchain.Guest.FilterValues — `filter_values`

`filter_values` sees two lists: the keys that were removed in a block range and the values that were
inserted.  It counts the removals per key and skips that many values of the key, the earliest ones.

* `filterValues_spec`: per key, what is kept is the inserted values of the key without the first
  `removed.count k`.
* `filterValues_net_effect`: on the two projections of a valid history this is exactly its net
  effect, one value (the last one) for every key that was not live at the start and is at the end;
  over consecutive ranges no such key is lost and none is reported by adjacent ranges.
-/

namespace Aggchain

/-- `usize::MAX` on the guest target (`riscv32im`). -/
def usizeMax : ℕ := 2 ^ 32 - 1

/-- The length of a slice is a `usize`. -/
def InMemory {α : Type*} (l : List α) : Prop := l.length ≤ usizeMax

section Model

variable {K V : Type} [DecidableEq K]

/-- First loop: how many removals are needed for each removed key. -/
def countRemovals (removalMap : K → Option ℕ) :
    List K → Except BridgeConstraintsError (K → Option ℕ)
  | [] => .ok removalMap
  | value :: rest =>
    -- `entry(value).or_insert(0)`, then `checked_add(1)`
    let count := (removalMap value).getD 0
    if usizeMax < count + 1 then .error .hashChainOverflow
    else countRemovals (Function.update removalMap value (some (count + 1))) rest

/-- Second loop: skip one value for each removal that is left for its key. -/
def skipRemoved (keyFn : V → K) (removalMap : K → Option ℕ) : List V → List V
  | [] => []
  | value :: rest =>
    match removalMap (keyFn value) with
    | some (count + 1) =>
      skipRemoved keyFn (Function.update removalMap (keyFn value) (some count)) rest
    | _ => value :: skipRemoved keyFn removalMap rest

/-- `filter_values` -/
def filterValues (removed : List K) (values : List V) (keyFn : V → K) :
    Except BridgeConstraintsError (List V) := do
  let removalMap ← countRemovals (fun _ => none) removed
  .ok (skipRemoved keyFn removalMap values)

end Model

/-! ## What is kept -/

section Kept

variable {K V : Type} [DecidableEq K] {keyFn : V → K}

/-- The removals left for `k`. -/
def pending (removalMap : K → Option ℕ) (k : K) : ℕ := (removalMap k).getD 0

@[simp] theorem pending_update_self (m : K → Option ℕ) (k : K) (n : ℕ) :
    pending (Function.update m k (some n)) k = n := by
  simp [pending]

theorem pending_update_of_ne (m : K → Option ℕ) {k k' : K} (h : k' ≠ k) (n : ℕ) :
    pending (Function.update m k (some n)) k' = pending m k' := by
  simp [pending, Function.update_of_ne h]

theorem countRemovals_ok {removed : List K} : ∀ {m : K → Option ℕ},
    (∀ k, pending m k + removed.count k ≤ usizeMax) →
    ∃ m', countRemovals m removed = .ok m' ∧ ∀ k, pending m' k = pending m k + removed.count k := by
  induction removed with
  | nil => exact fun {m} _ => ⟨m, rfl, by simp⟩
  | cons x rest ih =>
    intro m hle
    set m₁ := Function.update m x (some (pending m x + 1)) with hm₁
    have hpend : ∀ k, pending m₁ k + rest.count k = pending m k + (x :: rest).count k := by
      intro k
      by_cases hk : k = x
      · subst hk
        rw [hm₁, pending_update_self, List.count_cons_self]
        omega
      · rw [hm₁, pending_update_of_ne m hk, List.count_cons_of_ne (Ne.symm hk)]
    obtain ⟨m', hm', hcnt⟩ := ih (m := m₁) (fun k => (hpend k).le.trans (hle k))
    refine ⟨m', ?_, fun k => (hcnt k).trans (hpend k)⟩
    have hx := hle x
    rw [List.count_cons_self] at hx
    have hno : ¬ usizeMax < pending m x + 1 := by omega
    rw [countRemovals]
    simp only [pending] at hno hm₁
    rw [if_neg hno, ← hm₁, hm']

theorem skipRemoved_sublist (m : K → Option ℕ) (values : List V) :
    (skipRemoved keyFn m values).Sublist values := by
  induction values generalizing m with
  | nil => exact List.Sublist.refl []
  | cons v rest ih =>
    rw [skipRemoved]
    split
    · exact (ih _).cons v
    · exact (ih m).cons_cons v

/-- Per key, the second loop drops as many values from the front as removals are pending. -/
theorem skipRemoved_filter (m : K → Option ℕ) (values : List V) (k : K) :
    (skipRemoved keyFn m values).filter (fun v => keyFn v = k) =
      (values.filter (fun v => keyFn v = k)).drop (pending m k) := by
  induction values generalizing m with
  | nil => simp [skipRemoved]
  | cons v rest ih =>
    rw [skipRemoved]
    by_cases hk : keyFn v = k
    · subst hk
      cases hm : m (keyFn v) with
      | none => simp [ih, pending, hm]
      | some n =>
        cases n with
        | zero => simp [ih, pending, hm]
        | succ n => simp [ih, pending, hm]
    · -- a value of another key changes neither side
      split
      · rw [ih, pending_update_of_ne m (Ne.symm hk), List.filter_cons_of_neg (by simpa using hk)]
      · rw [List.filter_cons_of_neg (by simpa using hk), ih,
          List.filter_cons_of_neg (by simpa using hk)]

/-- A success in terms of the counts alone. -/
theorem filterValues_eq_ok {removed : List K} (hfit : InMemory removed) (values : List V)
    (keyFn : V → K) :
    ∃ m, (∀ k, pending m k = removed.count k) ∧
      filterValues removed values keyFn = .ok (skipRemoved keyFn m values) := by
  obtain ⟨m, hm, hcnt⟩ := countRemovals_ok (m := fun _ : K => none)
    (fun k => by simpa [pending] using List.count_le_length.trans hfit)
  refine ⟨m, fun k => ?_, ?_⟩
  · rw [hcnt k]
    simp [pending]
  · rw [filterValues, hm]
    rfl

/-- **Specification**: `filter_values` succeeds on a slice, keeps a subsequence of the values and,
for each key, all its values but the first `removed.count k`. -/
theorem filterValues_spec {removed : List K} (hfit : InMemory removed) (values : List V)
    (keyFn : V → K) :
    ∃ out, filterValues removed values keyFn = .ok out ∧ out.Sublist values ∧
      ∀ k, out.filter (fun v => keyFn v = k) =
        (values.filter (fun v => keyFn v = k)).drop (removed.count k) := by
  obtain ⟨m, hm, hout⟩ := filterValues_eq_ok hfit values keyFn
  refine ⟨skipRemoved keyFn m values, hout, skipRemoved_sublist m values, fun k => ?_⟩
  rw [skipRemoved_filter, hm k]

/-! ### The removals as a multiset -/

theorem skipRemoved_cons_of_zero {m : K → Option ℕ} {v : V} (h : pending m (keyFn v) = 0)
    (rest : List V) : skipRemoved keyFn m (v :: rest) = v :: skipRemoved keyFn m rest := by
  rw [skipRemoved]
  split
  · next count hm =>
    rw [pending, hm] at h
    simp at h
  · rfl

theorem skipRemoved_cons_of_succ {m : K → Option ℕ} {v : V} {n : ℕ}
    (h : pending m (keyFn v) = n + 1) (rest : List V) :
    skipRemoved keyFn m (v :: rest) =
      skipRemoved keyFn (Function.update m (keyFn v) (some n)) rest := by
  have hm : m (keyFn v) = some (n + 1) := by
    cases hv : m (keyFn v) with
    | none =>
      rw [pending, hv] at h
      simp at h
    | some c =>
      rw [pending, hv] at h
      exact congrArg some h
  rw [skipRemoved, hm]

/-- Removals add up: skipping with the sum is skipping with one map and then with the other. -/
theorem skipRemoved_add {m m₁ m₂ : K → Option ℕ}
    (h : ∀ k, pending m k = pending m₁ k + pending m₂ k) (values : List V) :
    skipRemoved keyFn m values = skipRemoved keyFn m₂ (skipRemoved keyFn m₁ values) := by
  induction values generalizing m m₁ m₂ with
  | nil => rfl
  | cons v rest ih =>
    have hv := h (keyFn v)
    cases h₁ : pending m₁ (keyFn v) with
    | succ n =>
      -- the first map takes the value
      have hm : pending m (keyFn v) = n + pending m₂ (keyFn v) + 1 := by omega
      rw [skipRemoved_cons_of_succ hm, skipRemoved_cons_of_succ h₁]
      refine ih fun k => ?_
      by_cases hk : k = keyFn v
      · subst hk
        rw [pending_update_self, pending_update_self]
      · rw [pending_update_of_ne m hk, pending_update_of_ne m₁ hk, h k]
    | zero =>
      rw [skipRemoved_cons_of_zero h₁]
      cases h₂ : pending m₂ (keyFn v) with
      | succ n =>
        -- the first map keeps the value and the second one takes it
        have hm : pending m (keyFn v) = n + 1 := by omega
        rw [skipRemoved_cons_of_succ hm, skipRemoved_cons_of_succ h₂]
        refine ih fun k => ?_
        by_cases hk : k = keyFn v
        · subst hk
          rw [pending_update_self, pending_update_self, h₁, Nat.zero_add]
        · rw [pending_update_of_ne m hk, pending_update_of_ne m₂ hk, h k]
      | zero =>
        have hm : pending m (keyFn v) = 0 := by omega
        rw [skipRemoved_cons_of_zero hm, skipRemoved_cons_of_zero h₂, ih h]

theorem skipRemoved_none (values : List V) : skipRemoved keyFn (fun _ => none) values = values := by
  induction values with
  | nil => rfl
  | cons v rest ih => simp [skipRemoved, ih]

/-- Without removals everything is kept. -/
theorem filterValues_nil (values : List V) : filterValues [] values keyFn = .ok values := by
  show Except.ok (skipRemoved keyFn (fun _ => none) values) = _
  rw [skipRemoved_none]

/-- Nothing is kept of nothing. -/
theorem filterValues_empty {removed : List K} {out : List V}
    (h : filterValues removed [] keyFn = .ok out) : out = [] := by
  obtain ⟨m, -, hout⟩ := Except.bind_eq_ok.mp h
  exact (Except.ok.inj hout).symm

/-- Removals in two lists are removals in one, and then in the other. -/
theorem filterValues_append {removed removed₁ removed₂ : List K} (hfit : InMemory removed)
    (hperm : removed.Perm (removed₁ ++ removed₂)) (values : List V) (keyFn : V → K) :
    ∃ out mid, filterValues removed values keyFn = .ok out ∧
      filterValues removed₁ values keyFn = .ok mid ∧ filterValues removed₂ mid keyFn = .ok out := by
  have hlen := hperm.length_eq
  rw [List.length_append] at hlen
  have hfit₁ : InMemory removed₁ := le_trans (by omega) hfit
  have hfit₂ : InMemory removed₂ := le_trans (by omega) hfit
  obtain ⟨m, hm, hout⟩ := filterValues_eq_ok hfit values keyFn
  obtain ⟨m₁, hm₁, hmid⟩ := filterValues_eq_ok hfit₁ values keyFn
  obtain ⟨m₂, hm₂, hlast⟩ := filterValues_eq_ok hfit₂ (skipRemoved keyFn m₁ values) keyFn
  refine ⟨_, _, hout, hmid, ?_⟩
  rw [hlast, ← skipRemoved_add (m := m) ?_ values]
  intro k
  rw [hm, hm₁, hm₂, hperm.count_eq, List.count_append]

/-- The result does not depend on the order of the removals. -/
theorem filterValues_perm {removed removed' : List K} (hfit : InMemory removed)
    (hperm : removed'.Perm removed) (values : List V) (keyFn : V → K) :
    filterValues removed' values keyFn = filterValues removed values keyFn := by
  have hnil : removed.Perm (removed' ++ []) := by simpa using hperm.symm
  obtain ⟨out, mid, hout, hmid, hlast⟩ := filterValues_append hfit hnil values keyFn
  rw [filterValues_nil] at hlast
  rw [hmid, hout, ← hlast]

/-- **`filter_values` is the difference by occurrences that drops the earliest**: it succeeds, keeps a
subsequence with the last values of each key, as many as are not removed, does not depend on the
order of the removals, and removals compose. -/
theorem filterValues_difference {removed : List K} (hfit : InMemory removed) (values : List V)
    (keyFn : V → K) :
    ∃ out, filterValues removed values keyFn = .ok out ∧ out.Sublist values ∧
      (∀ k, out.filter (fun v => keyFn v = k) = (values.filter (fun v => keyFn v = k)).rtake
        ((values.filter (fun v => keyFn v = k)).length - removed.count k)) ∧
      (∀ removed', removed'.Perm removed → filterValues removed' values keyFn = .ok out) ∧
      ∀ removed₁ removed₂, removed = removed₁ ++ removed₂ →
        ∃ mid, filterValues removed₁ values keyFn = .ok mid ∧
          filterValues removed₂ mid keyFn = .ok out := by
  obtain ⟨out, hout, hsub, hper⟩ := filterValues_spec hfit values keyFn
  refine ⟨out, hout, hsub, ?_, ?_, ?_⟩
  · intro k
    rw [hper k, List.rtake]
    by_cases hle : removed.count k ≤ (values.filter (fun v => keyFn v = k)).length
    · rw [Nat.sub_sub_self hle]
    · rw [List.drop_eq_nil_of_le (by omega), List.drop_eq_nil_of_le (by omega)]
  · intro removed' hperm
    rw [filterValues_perm hfit hperm, hout]
  · rintro removed₁ removed₂ rfl
    obtain ⟨out', mid, hout', hmid, hlast⟩ :=
      filterValues_append hfit (List.Perm.refl _) values keyFn
    obtain rfl := Except.ok.inj (hout.symm.trans hout')
    exact ⟨mid, hmid, hlast⟩

/-- Two removals of key `1` and one of an absent key: of the three values of key `1` the last one
stays. -/
theorem filterValues_difference_twice :
    filterValues [1, 9, 1] [(1, 10), (2, 20), (1, 11), (1, 12)] Prod.fst = .ok [(2, 20), (1, 12)] ∧
    ∃ mid, filterValues [1] [(1, 10), (2, 20), (1, 11), (1, 12)] Prod.fst = .ok mid ∧
      filterValues [9, 1] mid Prod.fst = .ok [(2, 20), (1, 12)] := by
  have hfit : InMemory [1, 9, 1] := by simp [InMemory, usizeMax]
  obtain ⟨out, hout, -, -, -, hcompose⟩ := filterValues_difference hfit
    [(1, 10), (2, 20), (1, 11), (1, 12)] Prod.fst
  obtain rfl : [(2, 20), (1, 12)] = out := Except.ok.inj hout
  exact ⟨rfl, hcompose [1] [9, 1] rfl⟩

end Kept

/-! ## Net effect of a history -/

section NetEffect

open History

variable {K V : Type} [DecidableEq K]

/-- The last value inserted under `k`. -/
def lastInserted (key : V → K) (h : List (Event K V)) (k : K) : Option V :=
  ((inserted h).filter (fun v => key v = k)).getLast?

/-- `out` is the net effect of `h` on the live keys `S`: in insertion order, for every key that
becomes live its last value, and nothing else. -/
structure NetEffect (key : V → K) (S : Set K) (h : List (Event K V)) (out : List V) : Prop where
  sublist : out.Sublist (inserted h)
  entered : ∀ k ∈ live key S h \ S, ∃ v, out.filter (fun v => key v = k) = [v] ∧
    lastInserted key h k = some v
  only : ∀ v ∈ out, key v ∈ live key S h \ S

/-- `filter_values`, on the two projections of a range. -/
def filterRange (key : V → K) (h : List (Event K V)) : Except BridgeConstraintsError (List V) :=
  filterValues (removed h) (inserted h) key

/-- Range `i` returns a value for `k`. -/
def Returned (key : V → K) (ranges : List (List (Event K V))) (i : ℕ) (k : K) : Prop :=
  ∃ r out, ranges[i]? = some r ∧ filterRange key r = .ok out ∧ ∃ v ∈ out, key v = k

variable {key : V → K} {S : Set K} {h : List (Event K V)}

theorem length_filter_key (values : List V) (k : K) :
    (values.filter (fun v => key v = k)).length = (values.map key).count k := by
  rw [List.count_eq_countP, List.countP_map, List.countP_eq_length_filter]
  congr 2

/-- One range: the result is the net effect. -/
theorem filterRange_netEffect (hv : Valid key S h) (hfit : InMemory (removed h)) :
    ∃ out, filterRange key h = .ok out ∧ NetEffect key S h out := by
  obtain ⟨out, hout, hsub, hper⟩ := filterValues_spec hfit (inserted h) key
  refine ⟨out, hout, hsub, fun k hk => ?_, fun v hvo => ?_⟩
  · -- one more insert than removes: the last value of the key survives
    have hlen := (length_filter_key (inserted h) k).trans (count_of_entered hv hk)
    have hne : (inserted h).filter (fun v => key v = k) ≠ [] := by
      intro h0
      rw [h0] at hlen
      simp at hlen
    refine ⟨_, ?_, List.getLast?_eq_some_getLast hne⟩
    rw [hper k, show (removed h).count k =
      ((inserted h).filter (fun v => key v = k)).length - 1 by omega, List.drop_length_sub_one hne]
  · -- otherwise every value of the key is skipped
    by_contra hk
    have hle := (length_filter_key (inserted h) (key v)).le.trans (count_of_not_entered hv hk)
    have hnil := hper (key v)
    rw [List.drop_eq_nil_of_le hle, List.filter_eq_nil_iff] at hnil
    exact hnil v hvo (by simp)

/-- A range returns a value for exactly the keys that enter the live set in it. -/
theorem returned_iff {ranges : List (List (Event K V))} (hv : Valid key S ranges.flatten)
    (hfit : InMemory (removed ranges.flatten)) {i : ℕ} {k : K} : Returned key ranges i k ↔
      ∃ r, ranges[i]? = some r ∧ k ∈ live key (liveAt key S ranges i) r \ liveAt key S ranges i := by
  have hrange : ∀ r, ranges[i]? = some r →
      ∃ out, filterRange key r = .ok out ∧ NetEffect key (liveAt key S ranges i) r out := by
    intro r hr
    refine filterRange_netEffect (valid_range hv hr) (le_trans ?_ hfit)
    exact (removed_sublist_flatten (List.mem_of_getElem? hr)).length_le
  constructor
  · rintro ⟨r, out, hr, hout, v, hvo, rfl⟩
    obtain ⟨out', hout', hnet⟩ := hrange r hr
    obtain rfl : out' = out := by rw [hout] at hout'; exact (Except.ok.inj hout').symm
    exact ⟨r, hr, hnet.only v hvo⟩
  · rintro ⟨r, hr, hk⟩
    obtain ⟨out, hout, hnet⟩ := hrange r hr
    obtain ⟨v, hone, -⟩ := hnet.entered k hk
    have hv' : v ∈ out.filter (fun v => key v = k) := by rw [hone]; simp
    obtain ⟨hvo, hvk⟩ := List.mem_filter.mp hv'
    exact ⟨r, out, hr, hout, v, hvo, by simpa using hvk⟩

/-- **Net effect of `filter_values` over a history**, and over the history cut into consecutive
ranges: a key live at the end and not at the start is returned by some range, and a key returned by
two ranges was not live at the start of the later one, so the two are not adjacent. -/
theorem filterValues_net_effect (hv : Valid key S h) (hfit : InMemory (removed h)) :
    (∃ out, filterValues (removed h) (inserted h) key = .ok out ∧ NetEffect key S h out) ∧
    ∀ ranges : List (List (Event K V)), ranges.flatten = h →
      (∀ k ∈ live key S h \ S, ∃ i, Returned key ranges i k) ∧
      (∀ i j k, i < j → Returned key ranges i k → Returned key ranges j k →
        k ∉ liveAt key S ranges j ∧ j ≠ i + 1) := by
  refine ⟨filterRange_netEffect hv hfit, ?_⟩
  rintro ranges rfl
  refine ⟨fun k hk => ?_, fun i j k hij hi hj => ?_⟩
  · obtain ⟨i, r, hr, hmem⟩ := exists_entered hk
    exact ⟨i, (returned_iff hv hfit).mpr ⟨r, hr, hmem⟩⟩
  · obtain ⟨r, hr, hlive, -⟩ := (returned_iff hv hfit).mp hi
    obtain ⟨-, -, -, hnot⟩ := (returned_iff hv hfit).mp hj
    refine ⟨hnot, ?_⟩
    rintro rfl
    rw [liveAt_succ hr] at hnot
    exact hnot hlive

/-- Key `1` was live before and is reinserted, key `2` is inserted, removed and inserted again with
another payload: only the last value of key `2` is new. -/
theorem filterValues_net_effect_reinserted :
    filterValues [1, 2] [(1, 10), (2, 20), (2, 21)] Prod.fst = .ok [(2, 21)] ∧
    (∃ out, filterValues [1, 2] [(1, 10), (2, 20), (2, 21)] Prod.fst = .ok out ∧
      NetEffect Prod.fst {1} ([.remove 1, .insert (1, 10), .insert (2, 20), .remove 2,
        .insert (2, 21)] : List (Event ℕ (ℕ × ℕ))) out) :=
  ⟨rfl, (@filterValues_net_effect ℕ (ℕ × ℕ) _ Prod.fst {1}
    [.remove 1, .insert (1, 10), .insert (2, 20), .remove 2, .insert (2, 21)]
    (by simp [Valid, Enabled, apply]) (by simp [InMemory, usizeMax, removed])).1⟩

end NetEffect

end Aggchain
