import Mathlib.Data.List.Forall2

/-!
# Fallible computations, with and without a log of their calls

* `Except`: what it means that a chain of fallible steps succeeds (`bind_eq_ok` and friends).
* `Traced ε κ α`: a fallible computation together with the list of calls (of type `κ`) it made up
  to its result or to the error that stopped it.  The projection `result` forgets the calls and is
  a homomorphism to `Except ε` (`result_bind`), so a specification of the result never sees the
  log; `calls_bind_subset` bounds the log of a composite by the logs of its parts.
-/

/-! ## Success of a chain of steps -/

namespace Except

variable {ε ε' α β : Type}

theorem bind_eq_ok {x : Except ε α} {f : α → Except ε β} {b : β} :
    (x >>= f) = .ok b ↔ ∃ a, x = .ok a ∧ f a = .ok b := by
  cases x with
  | error e => simp [Bind.bind, Except.bind]
  | ok a => simp [Bind.bind, Except.bind]

@[simp] theorem pure_eq_ok {a b : α} : (pure a : Except ε α) = .ok b ↔ a = b := by
  simp [Pure.pure, Except.pure]

/-- Relabelling the error does not touch success. -/
@[simp] theorem mapError_eq_ok {f : ε → ε'} {a : α} {x : Except ε α} :
    x.mapError f = .ok a ↔ x = .ok a := by
  cases x with
  | error e => simp [Except.mapError]
  | ok a' => simp [Except.mapError]

/-- A guard that fails under `p`. -/
@[simp] theorem ite_error_eq_ok {p : Prop} [Decidable p] {x : Except ε α} {e : ε} {a : α} :
    (if p then .error e else x) = .ok a ↔ ¬ p ∧ x = .ok a := by
  by_cases hp : p <;> simp [hp]

/-- `Option::ok_or` -/
def okOr (o : Option α) (e : ε) : Except ε α :=
  match o with
  | some a => .ok a
  | none => .error e

@[simp] theorem okOr_eq_ok {o : Option α} {e : ε} {a : α} : okOr o e = .ok a ↔ o = some a := by
  cases o with
  | none => simp [okOr]
  | some b => simp [okOr]

/-- A traversal succeeds with the list of the results. -/
theorem mapM_eq_ok {f : α → Except ε β} {l : List α} {l' : List β} :
    l.mapM f = .ok l' ↔ List.Forall₂ (fun a b => f a = .ok b) l l' := by
  induction l generalizing l' with
  | nil =>
    rw [List.mapM_nil, pure_eq_ok, List.forall₂_nil_left_iff]
    exact eq_comm
  | cons a l ih =>
    simp only [List.mapM_cons, bind_eq_ok, pure_eq_ok, ih, List.forall₂_cons_left_iff]
    constructor
    · rintro ⟨b, hb, bs, hbs, rfl⟩
      exact ⟨b, bs, hb, hbs, rfl⟩
    · rintro ⟨b, bs, hb, hbs, rfl⟩
      exact ⟨b, hb, bs, hbs, rfl⟩

/-- A traversal succeeds exactly when it does at every element. -/
theorem exists_mapM_eq_ok {f : α → Except ε β} {l : List α} :
    (∃ l', l.mapM f = .ok l') ↔ ∀ a ∈ l, ∃ b, f a = .ok b := by
  simp only [mapM_eq_ok]
  induction l with
  | nil => simp
  | cons a l ih =>
    simp only [List.forall₂_cons_left_iff, List.forall_mem_cons, ← ih]
    constructor
    · rintro ⟨-, b, bs, hb, hbs, rfl⟩
      exact ⟨⟨b, hb⟩, bs, hbs⟩
    · rintro ⟨⟨b, hb⟩, bs, hbs⟩
      exact ⟨_, b, bs, hb, hbs, rfl⟩

/-! ### Failure of a chain of steps -/

/-- The error is the one of the first step that fails. -/
theorem bind_eq_error {x : Except ε α} {f : α → Except ε β} {e : ε} :
    (x >>= f) = .error e ↔ x = .error e ∨ ∃ a, x = .ok a ∧ f a = .error e := by
  cases x with
  | error e' => simp [Bind.bind, Except.bind]
  | ok a => simp [Bind.bind, Except.bind]

@[simp] theorem pure_ne_error {a : α} {e : ε} : ¬ (pure a : Except ε α) = .error e := by
  simp [Pure.pure, Except.pure]

@[simp] theorem mapError_eq_error {f : ε → ε'} {e' : ε'} {x : Except ε α} :
    x.mapError f = .error e' ↔ ∃ e, x = .error e ∧ e' = f e := by
  cases x with
  | error e => simp [Except.mapError, eq_comm]
  | ok a => simp [Except.mapError]

@[simp] theorem okOr_eq_error {o : Option α} {e e' : ε} :
    okOr o e = .error e' ↔ o = none ∧ e' = e := by
  cases o with
  | none => simp [okOr, eq_comm]
  | some b => simp [okOr]

/-- A traversal fails with the error of some element. -/
theorem mapM_eq_error {f : α → Except ε β} {l : List α} {e : ε} (h : l.mapM f = .error e) :
    ∃ a ∈ l, f a = .error e := by
  induction l with
  | nil => simp at h
  | cons a l ih =>
    simp only [List.mapM_cons, bind_eq_error, pure_ne_error, and_false, exists_false, or_false] at h
    rcases h with h | ⟨b, -, h⟩
    · exact ⟨a, List.mem_cons_self, h⟩
    · obtain ⟨a', ha', h'⟩ := ih h
      exact ⟨a', List.mem_cons_of_mem a ha', h'⟩

end Except

/-! ## Logged computations -/

/-- A fallible computation with the calls it made. -/
structure Traced (ε κ α : Type) where
  result : Except ε α
  calls : List κ

namespace Traced

variable {ε κ α β : Type}

/-- No call, this result. -/
def ofExcept (x : Except ε α) : Traced ε κ α := ⟨x, []⟩

/-- One call, with its answer. -/
def call (c : κ) (x : Except ε α) : Traced ε κ α := ⟨x, [c]⟩

/-- Run `x`, then `f` on its value; an error stops the computation where it occurs. -/
def bind (x : Traced ε κ α) (f : α → Traced ε κ β) : Traced ε κ β :=
  match x.result with
  | .ok a => ⟨(f a).result, x.calls ++ (f a).calls⟩
  | .error e => ⟨.error e, x.calls⟩

instance : Monad (Traced ε κ) where
  pure a := ⟨.ok a, []⟩
  bind := bind

/-- Stop with an error. -/
def fail (e : ε) : Traced ε κ α := ⟨.error e, []⟩

@[simp] theorem result_pure (a : α) : (pure a : Traced ε κ α).result = .ok a := rfl
@[simp] theorem result_fail (e : ε) : (fail e : Traced ε κ α).result = .error e := rfl
@[simp] theorem result_ofExcept (x : Except ε α) : (ofExcept x : Traced ε κ α).result = x := rfl
@[simp] theorem result_call (c : κ) (x : Except ε α) : (call c x).result = x := rfl
@[simp] theorem calls_pure (a : α) : (pure a : Traced ε κ α).calls = [] := rfl
@[simp] theorem calls_fail (e : ε) : (fail e : Traced ε κ α).calls = [] := rfl
@[simp] theorem calls_ofExcept (x : Except ε α) : (ofExcept x : Traced ε κ α).calls = [] := rfl

@[simp] theorem result_bind (x : Traced ε κ α) (f : α → Traced ε κ β) :
    (x >>= f).result = x.result.bind (fun a => (f a).result) := by
  show (bind x f).result = _
  unfold bind
  cases x.result <;> rfl

/-- A composite succeeds exactly when both parts do. -/
theorem bind_ok_iff (x : Traced ε κ α) (f : α → Traced ε κ β) (b : β) :
    (x >>= f).result = .ok b ↔ ∃ a, x.result = .ok a ∧ (f a).result = .ok b := by
  rw [result_bind]
  cases x.result with
  | error e => simp [Except.bind]
  | ok a => simp [Except.bind]

/-- A composite fails in its first part, or behind it. -/
theorem bind_error_iff (x : Traced ε κ α) (f : α → Traced ε κ β) (e : ε) :
    (x >>= f).result = .error e ↔
      x.result = .error e ∨ ∃ a, x.result = .ok a ∧ (f a).result = .error e := by
  rw [result_bind]
  cases x.result with
  | error e' => simp [Except.bind]
  | ok a => simp [Except.bind]

@[simp] theorem ofExcept_ok_bind (a : α) (f : α → Traced ε κ β) : (ofExcept (.ok a) >>= f) = f a :=
  rfl

/-- A call is made whatever becomes of its answer. -/
@[simp] theorem calls_call_bind_pure (c : κ) (x : Except ε α) (g : α → β) :
    (call c x >>= fun a => pure (g a)).calls = [c] := by
  cases x <;> rfl

/-- The first part's calls are made whatever happens later. -/
theorem calls_subset_bind (x : Traced ε κ α) (f : α → Traced ε κ β) :
    x.calls ⊆ (x >>= f).calls := by
  show _ ⊆ (bind x f).calls
  unfold bind
  cases x.result with
  | error e => exact fun _ h => h
  | ok a => exact List.subset_append_left _ _

/-- **Frame rule for the log**: a composite stays inside `S` if its first part does and every
continuation from a value of the first part does. -/
theorem calls_bind_subset {x : Traced ε κ α} {f : α → Traced ε κ β} {S : Set κ}
    (hx : ∀ c ∈ x.calls, c ∈ S) (hf : ∀ a, x.result = .ok a → ∀ c ∈ (f a).calls, c ∈ S) :
    ∀ c ∈ (x >>= f).calls, c ∈ S := by
  show ∀ c ∈ (bind x f).calls, c ∈ S
  intro c hc
  unfold bind at hc
  cases hr : x.result with
  | error e => rw [hr] at hc; exact hx c hc
  | ok a =>
    rw [hr] at hc
    rcases List.mem_append.mp hc with h | h
    · exact hx c h
    · exact hf a hr c h

end Traced
