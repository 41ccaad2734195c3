import Mathlib.Data.List.Basic

/-!
# Machines: guarded runs and tallies

A machine is a partial step function on states.  `Reaches step guard s t`: from `s` the state `t` is
reached by steps that all meet the guard.  An invariant is proved for one step and lifted to runs by
`Reaches.invariant`; that a run can be completed is proved with a rank (`exists_run_final`).

The state of a machine often holds a list of parties, and a step changes one of them;
`countP_set_add` is how a tally over the list changes with it.
-/

namespace Machine

/-! ## Guarded runs -/

section Runs

variable {σ α : Type} {step : σ → α → Option σ} {guard : σ → α → Prop} {s t : σ}

/-- States reached from `s` by steps that meet the guard. -/
inductive Reaches (step : σ → α → Option σ) (guard : σ → α → Prop) (s : σ) : σ → Prop where
  | start : Reaches step guard s s
  | step {t u : σ} {a : α} : Reaches step guard s t → guard t a → step t a = some u →
    Reaches step guard s u

/-- **Invariant rule.** -/
theorem Reaches.invariant {Inv : σ → Prop} (hreach : Reaches step guard s t) (hstart : Inv s)
    (hstep : ∀ t a u, guard t a → step t a = some u → Inv t → Inv u) : Inv t := by
  induction hreach with
  | start => exact hstart
  | step _ hguard hnext ih => exact hstep _ _ _ hguard hnext ih

/-- Execute a list of actions. -/
def run (step : σ → α → Option σ) : σ → List α → Option σ
  | s, [] => some s
  | s, a :: as => (step s a).bind (fun t => run step t as)

theorem Reaches.of_run {r : σ} (hreach : Reaches step (fun _ _ => True) r s) {actions : List α}
    (hrun : run step s actions = some t) : Reaches step (fun _ _ => True) r t := by
  induction actions generalizing s with
  | nil =>
    obtain rfl := Option.some.inj hrun
    exact hreach
  | cons a as ih =>
    obtain ⟨u, hu, hrest⟩ := Option.bind_eq_some_iff.mp hrun
    exact ih (hreach.step trivial hu) hrest

/-- **Progress rule**: where every state that is not final has a step to a state of smaller rank, a
final state can be reached. -/
theorem exists_run_final {Inv final : σ → Prop} (rank : σ → ℕ)
    (hprogress : ∀ s, Inv s → ¬ final s → ∃ a t, step s a = some t ∧ Inv t ∧ rank t < rank s) :
    ∀ {s : σ}, Inv s → ∃ actions t, run step s actions = some t ∧ final t := by
  intro s
  induction hn : rank s using Nat.strongRecOn generalizing s with
  | _ n ih =>
    intro hinv
    by_cases hfinal : final s
    · exact ⟨[], s, rfl, hfinal⟩
    · obtain ⟨a, t, hstep, ht, hrank⟩ := hprogress s hinv hfinal
      obtain ⟨actions, u, hrun, hu⟩ := ih (rank t) (hn ▸ hrank) rfl ht
      refine ⟨a :: actions, u, ?_, hu⟩
      rw [run, hstep]
      exact hrun

end Runs

/-! ## Tallies -/

section Tallies

variable {β : Type} {p : β → Bool}

/-- Replacing one party changes a tally by what the party counts before and after. -/
theorem countP_set_add {l : List β} {i : ℕ} {x : β} (y : β) (h : l[i]? = some x) :
    (l.set i y).countP p + (p x).toNat = l.countP p + (p y).toNat := by
  induction l generalizing i with
  | nil => simp at h
  | cons z l ih =>
    cases i with
    | zero =>
      obtain rfl : z = x := by simpa using h
      simp only [List.set_cons_zero, List.countP_cons]
      cases p z <;> cases p y <;> simp
    | succ i =>
      have hrest := ih (by simpa using h)
      simp only [List.set_cons_succ, List.countP_cons]
      omega

theorem countP_concat_add {l : List β} (y : β) :
    (l ++ [y]).countP p = l.countP p + (p y).toNat := by
  rw [List.countP_append, List.countP_singleton]
  cases p y <;> simp

end Tallies

end Machine
