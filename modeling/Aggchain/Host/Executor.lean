import Aggchain.Lib.Machine
import Mathlib.Logic.Function.Basic

/-!
# Aggchain.Host.Executor — `prover-executor`: two provers behind concurrency limits

An `Executor` value stores a primary and a fallback service.  A local service is limited: its
`poll_ready` takes a permit from a semaphore and keeps it in the service value until its `call`; a
clone shares the semaphore and not the permit.  `Executor::call` clones the stored services and
lets the request wait for permits of its own.

The machine of this module is any number of executor values and requests on the two semaphores.

* `total_step`: permits are neither lost nor made up, in any run.
* `permitsAccounted_of_reaches`: as long as no call is made on a value whose services hold a permit,
  all permits that are taken belong to admitted requests.
* `leaked_permit`: with one permit, polling a value and calling it blocks the request.
-/

namespace Aggchain

/-! ## Provers -/

/-- The service behind a prover: `build_network_service` or `build_local_service`. -/
inductive ProverKind where
  | networkService
  | localService (concurrency : ℕ)
  deriving DecidableEq

/-- The two services of an executor. -/
inductive ProverSlot where
  | primary
  | fallback
  deriving DecidableEq

structure Provers where
  primary : ProverKind
  fallback : Option ProverKind

/-- The size of the semaphore, if the service is limited. -/
def ProverKind.limit : ProverKind → Option ℕ
  | .networkService => none
  | .localService concurrency => some concurrency

def Provers.limit (self : Provers) : ProverSlot → Option ℕ
  | .primary => self.primary.limit
  | .fallback => self.fallback.bind ProverKind.limit

/-! ## State -/

/-- An `Executor` value: the permits in its stored services, and whether a caller has polled it
since its last call. -/
structure ExecutorValue where
  primaryPermit : Bool
  fallbackPermit : Bool
  polled : Bool
  deriving DecidableEq

namespace ExecutorValue

/-- A new value, or a clone. -/
def fresh : ExecutorValue := ⟨false, false, false⟩

def holds (self : ExecutorValue) : ProverSlot → Bool
  | .primary => self.primaryPermit
  | .fallback => self.fallbackPermit

/-- Keep a permit in a stored service. -/
def keep (self : ExecutorValue) : ProverSlot → ExecutorValue
  | .primary => { self with primaryPermit := true }
  | .fallback => { self with fallbackPermit := true }

end ExecutorValue

/-- Where the future of an `Executor::call` is. -/
inductive RequestPhase where
  /-- in `ready` of its clone of the service, without a permit -/
  | waiting (slot : ProverSlot)
  /-- with a permit, in `poll_ready` of the inner service -/
  | admitted (slot : ProverSlot)
  /-- with the permit in the future of the inner call -/
  | proving (slot : ProverSlot)
  /-- completed, failed or dropped -/
  | finished
  deriving DecidableEq

/-- The request is admitted to the prover and has not finished. -/
def RequestPhase.holds (slot : ProverSlot) : RequestPhase → Bool
  | .waiting _ => false
  | .admitted s => s = slot
  | .proving s => s = slot
  | .finished => false

/-- The semaphores, the executor values (`none` once dropped) and the requests. -/
structure ExecutorState where
  available : ProverSlot → ℕ
  values : List (Option ExecutorValue)
  requests : List RequestPhase

/-- Answers of an inner service to `poll_ready`. -/
inductive Readiness where
  | ready
  | pending
  | failed
  deriving DecidableEq

/-- Answers of `Executor::poll_ready`. -/
inductive PollResult where
  | ready
  | pending
  | unableToInitializePrimaryProver
  | unableToInitializeFallbackProver
  deriving DecidableEq

/-! ## Steps -/

/-- One step of a caller, of a request or of the environment. -/
inductive ExecutorAction where
  | clone (value : ℕ)
  | dropValue (value : ℕ)
  /-- `Executor::poll_ready`, with the answers of the inner services -/
  | pollReady (value : ℕ) (innerPrimary innerFallback : Readiness)
  /-- `Executor::call` -/
  | call (value : ℕ)
  /-- a poll of the request in `ready`, with the answer of the inner service -/
  | pollRequest (request : ℕ) (inner : Readiness)
  | complete (request : ℕ)
  | fail (request : ℕ)
  | timeout (request : ℕ)
  | dropRequest (request : ℕ)
  deriving DecidableEq

namespace Provers

section Model

variable (self : Provers) (s : ExecutorState)

/-- Take a permit, if the service is limited. -/
def take (slot : ProverSlot) : Option ExecutorState :=
  match self.limit slot with
  | none => some s
  | some _ =>
    if 0 < s.available slot then
      some { s with available := Function.update s.available slot (s.available slot - 1) }
    else none

/-- Return a permit, if the service is limited. -/
def release (slot : ProverSlot) : ExecutorState :=
  match self.limit slot with
  | none => s
  | some _ => { s with available := Function.update s.available slot (s.available slot + 1) }

/-- Return the permits in the stored services of a value. -/
def releaseValue (v : ExecutorValue) (slot : ProverSlot) : ExecutorState :=
  if v.holds slot then self.release s slot else s

/-- `ConcurrencyLimit::poll_ready` of a stored service: take a permit unless there is one, then poll
the inner service. -/
def pollService (v : ExecutorValue) (slot : ProverSlot) (inner : Readiness) :
    ExecutorState × ExecutorValue × Readiness :=
  if v.holds slot then (s, v, inner)
  else
    match self.limit slot with
    | none => (s, v, inner)
    | some _ =>
      match self.take s slot with
      | none => (s, v, .pending)
      | some s' => (s', v.keep slot, inner)

/-- `Executor::poll_ready` -/
def pollReady (v : ExecutorValue) (innerPrimary innerFallback : Readiness) :
    ExecutorState × ExecutorValue × PollResult :=
  let (s, v, primary) := self.pollService s v .primary innerPrimary
  match primary with
  | .pending => (s, v, .pending)
  | .failed => (s, v, .unableToInitializePrimaryProver)
  | .ready =>
    match self.fallback with
    | none => (s, v, .ready)
    | some _ =>
      let (s, v, fallback) := self.pollService s v .fallback innerFallback
      match fallback with
      | .ready => (s, v, .ready)
      | .pending => (s, v, .pending)
      | .failed => (s, v, .unableToInitializeFallbackProver)

/-- The request with a permit for `slot`, after the inner service was polled: a failure ends the
request, without a try of the fallback. -/
def pollInner (request : ℕ) (slot : ProverSlot) : Readiness → ExecutorState
  | .ready => { s with requests := s.requests.set request (.proving slot) }
  | .pending => { s with requests := s.requests.set request (.admitted slot) }
  | .failed => self.release { s with requests := s.requests.set request .finished } slot

/-- What follows a failed call of the prover. -/
def afterFailure : ProverSlot → RequestPhase
  | .primary => if self.fallback.isSome then .waiting .fallback else .finished
  | .fallback => .finished

/-- The future of the inner call is gone, and the request goes on in `phase`. -/
def endProving (request : ℕ) (phase : ProverSlot → RequestPhase) : Option ExecutorState :=
  match s.requests[request]? with
  | some (.proving slot) =>
    some (self.release { s with requests := s.requests.set request (phase slot) } slot)
  | _ => none

def step : ExecutorAction → Option ExecutorState
  | .clone i =>
    match s.values[i]? with
    | some (some _) => some { s with values := s.values ++ [some .fresh] }
    | _ => none
  | .dropValue i =>
    match s.values[i]? with
    | some (some v) =>
      let s' := { s with values := s.values.set i none }
      some (self.releaseValue (self.releaseValue s' v .primary) v .fallback)
    | _ => none
  | .pollReady i innerPrimary innerFallback =>
    match s.values[i]? with
    | some (some v) =>
      let (s', v', _) := self.pollReady s v innerPrimary innerFallback
      some { s' with values := s'.values.set i (some { v' with polled := true }) }
    | _ => none
  | .call i =>
    match s.values[i]? with
    | some (some v) =>
      -- the permits stay in the stored services; the request has clones of these
      some { s with
        values := s.values.set i (some { v with polled := false })
        requests := s.requests ++ [.waiting .primary] }
    | _ => none
  | .pollRequest r inner =>
    match s.requests[r]? with
    | some (.waiting slot) => (self.take s slot).map (fun s' => self.pollInner s' r slot inner)
    | some (.admitted slot) => some (self.pollInner s r slot inner)
    | _ => none
  | .complete r => self.endProving s r (fun _ => .finished)
  | .fail r => self.endProving s r self.afterFailure
  -- the timeout is outside the limit: it drops the future with its permit
  | .timeout r => self.endProving s r self.afterFailure
  | .dropRequest r =>
    match s.requests[r]? with
    | some (.proving slot) =>
      some (self.release { s with requests := s.requests.set r .finished } slot)
    | some (.admitted slot) =>
      some (self.release { s with requests := s.requests.set r .finished } slot)
    | some _ => some { s with requests := s.requests.set r .finished }
    | none => none

/-- One executor value, all permits in the semaphores. -/
def initial : ExecutorState where
  available slot := (self.limit slot).getD 0
  values := [some .fresh]
  requests := []

end Model

end Provers

/-! ## Permits are conserved -/

namespace ExecutorState

/-- A stored service of the value holds a permit of `slot`. -/
def valueHolds (slot : ProverSlot) (v : Option ExecutorValue) : Bool :=
  v.any (fun v => v.holds slot)

/-- The permits in stored services. -/
def kept (s : ExecutorState) (slot : ProverSlot) : ℕ := s.values.countP (valueHolds slot)

/-- The requests that are admitted to the prover and have not finished. -/
def admitted (s : ExecutorState) (slot : ProverSlot) : ℕ :=
  s.requests.countP (RequestPhase.holds slot)

/-- All permits of a prover. -/
def total (s : ExecutorState) (slot : ProverSlot) : ℕ :=
  s.available slot + s.kept slot + s.admitted slot

variable {s : ExecutorState} {slot : ProverSlot}

theorem total_setRequest {r : ℕ} {phase : RequestPhase} (phase' : RequestPhase)
    (h : s.requests[r]? = some phase) :
    total { s with requests := s.requests.set r phase' } slot + (phase.holds slot).toNat =
      s.total slot + (phase'.holds slot).toNat := by
  have hcount := Machine.countP_set_add (p := RequestPhase.holds slot) phase' h
  unfold total admitted
  show s.available slot + s.kept slot + (s.requests.set r phase').countP _ + _ = _
  omega

theorem total_setValue {i : ℕ} {v : Option ExecutorValue} (v' : Option ExecutorValue)
    (h : s.values[i]? = some v) :
    total { s with values := s.values.set i v' } slot + (valueHolds slot v).toNat =
      s.total slot + (valueHolds slot v').toNat := by
  have hcount := Machine.countP_set_add (p := valueHolds slot) v' h
  unfold total kept
  show s.available slot + (s.values.set i v').countP _ + s.admitted slot + _ = _
  omega

end ExecutorState

namespace Provers

open ExecutorState

variable {self : Provers} {s s' : ExecutorState} {slot p : ProverSlot} {limit : ℕ}

theorem ne_of_unlimited (hp : self.limit p = none) (hlimit : self.limit slot = some limit) :
    p ≠ slot := by
  rintro rfl
  rw [hp] at hlimit
  cases hlimit

/-- Taking a permit of `p`, seen at any limited prover. -/
theorem total_take (hlimit : self.limit slot = some limit) (h : self.take s p = some s') :
    s'.total slot + (decide (p = slot)).toNat = s.total slot := by
  unfold take at h
  cases hp : self.limit p with
  | none =>
    rw [hp] at h
    obtain rfl := Option.some.inj h
    simp [ne_of_unlimited hp hlimit]
  | some n =>
    rw [hp] at h
    simp only [Option.ite_none_right_eq_some, Option.some.injEq] at h
    obtain ⟨hpos, rfl⟩ := h
    unfold total
    show Function.update s.available p _ slot + s.kept slot + s.admitted slot + _ = _
    by_cases hne : p = slot
    · subst hne
      simp only [Function.update_self, decide_true, Bool.toNat_true]
      omega
    · simp [hne, Function.update_of_ne (Ne.symm hne)]

theorem total_release (hlimit : self.limit slot = some limit) :
    (self.release s p).total slot = s.total slot + (decide (p = slot)).toNat := by
  unfold release
  cases hp : self.limit p with
  | none =>
    simp [ne_of_unlimited hp hlimit]
  | some n =>
    unfold total
    show Function.update s.available p _ slot + s.kept slot + s.admitted slot = _
    by_cases hne : p = slot
    · subst hne
      simp only [Function.update_self, decide_true, Bool.toNat_true]
      omega
    · simp [hne, Function.update_of_ne (Ne.symm hne)]

@[simp] theorem release_values : (self.release s p).values = s.values := by
  unfold release
  cases self.limit p <;> rfl

theorem take_frame (h : self.take s p = some s') :
    s'.values = s.values ∧ s'.requests = s.requests := by
  unfold take at h
  cases hp : self.limit p with
  | none =>
    rw [hp] at h
    obtain rfl := Option.some.inj h
    exact ⟨rfl, rfl⟩
  | some n =>
    rw [hp] at h
    simp only [Option.ite_none_right_eq_some, Option.some.injEq] at h
    obtain ⟨-, rfl⟩ := h
    exact ⟨rfl, rfl⟩

/-! ### What a step does -/

/-- The effects of the steps, with what each finds in the state before it.  A request that `leave`s
the prover gives its permit back. -/
inductive StepEffect (provers : Provers) (s : ExecutorState) :
    ExecutorAction → ExecutorState → Prop where
  | clone {i : ℕ} {v : ExecutorValue} : s.values[i]? = some (some v) →
    StepEffect provers s (.clone i) { s with values := s.values ++ [some .fresh] }
  | dropValue {i : ℕ} {v : ExecutorValue} : s.values[i]? = some (some v) →
    StepEffect provers s (.dropValue i)
      (provers.releaseValue
        (provers.releaseValue { s with values := s.values.set i none } v .primary) v .fallback)
  | pollReady {i : ℕ} {v v' : ExecutorValue} {innerPrimary innerFallback : Readiness}
      {t : ExecutorState} {result : PollResult} : s.values[i]? = some (some v) →
    provers.pollReady s v innerPrimary innerFallback = (t, v', result) →
    StepEffect provers s (.pollReady i innerPrimary innerFallback)
      { t with values := t.values.set i (some { v' with polled := true }) }
  | call {i : ℕ} {v : ExecutorValue} : s.values[i]? = some (some v) →
    StepEffect provers s (.call i)
      { s with
        values := s.values.set i (some { v with polled := false })
        requests := s.requests ++ [.waiting .primary] }
  | acquire {r : ℕ} {slot : ProverSlot} {inner : Readiness} {t : ExecutorState} :
    s.requests[r]? = some (.waiting slot) → provers.take s slot = some t →
    StepEffect provers s (.pollRequest r inner) (provers.pollInner t r slot inner)
  | resume {r : ℕ} {slot : ProverSlot} {inner : Readiness} :
    s.requests[r]? = some (.admitted slot) →
    StepEffect provers s (.pollRequest r inner) (provers.pollInner s r slot inner)
  | leave {a : ExecutorAction} {r : ℕ} {phase phase' : RequestPhase} {slot : ProverSlot} :
    a ∈ [.complete r, .fail r, .timeout r, .dropRequest r] → s.requests[r]? = some phase →
    (∀ p, phase.holds p = decide (slot = p)) → (∀ p, phase'.holds p = false) →
    StepEffect provers s a
      (provers.release { s with requests := s.requests.set r phase' } slot)
  | dropIdle {r : ℕ} {phase : RequestPhase} : s.requests[r]? = some phase →
    (∀ p, phase.holds p = false) →
    StepEffect provers s (.dropRequest r) { s with requests := s.requests.set r .finished }

theorem afterFailure_holds (p : ProverSlot) : (self.afterFailure p).holds slot = false := by
  cases p with
  | primary =>
    unfold afterFailure
    split_ifs <;> rfl
  | fallback => rfl

theorem endProving_effect {a : ExecutorAction} {r : ℕ} {phase : ProverSlot → RequestPhase}
    (ha : a ∈ [.complete r, .fail r, .timeout r, .dropRequest r])
    (hphase : ∀ slot p, (phase slot).holds p = false)
    (h : self.endProving s r phase = some s') : StepEffect self s a s' := by
  unfold endProving at h
  split at h
  · next slot hr =>
    obtain rfl := Option.some.inj h
    exact .leave ha hr (fun _ => rfl) (hphase slot)
  · cases h

/-- **Inversion** of the step function. -/
theorem effect_of_step {a : ExecutorAction} (h : self.step s a = some s') :
    StepEffect self s a s' := by
  cases a with
  | clone i =>
    simp only [step] at h
    split at h
    · next v hv =>
      obtain rfl := Option.some.inj h
      exact .clone hv
    · cases h
  | dropValue i =>
    simp only [step] at h
    split at h
    · next v hv =>
      obtain rfl := Option.some.inj h
      exact .dropValue hv
    · cases h
  | pollReady i innerPrimary innerFallback =>
    simp only [step] at h
    split at h
    · next v hv =>
      obtain rfl := Option.some.inj h
      exact .pollReady hv rfl
    · cases h
  | call i =>
    simp only [step] at h
    split at h
    · next v hv =>
      obtain rfl := Option.some.inj h
      exact .call hv
    · cases h
  | pollRequest r inner =>
    simp only [step] at h
    split at h
    · next slot hr =>
      obtain ⟨t, htake, rfl⟩ := Option.map_eq_some_iff.mp h
      exact .acquire hr htake
    · next slot hr =>
      obtain rfl := Option.some.inj h
      exact .resume hr
    · cases h
  | complete r => exact endProving_effect (by simp) (fun _ _ => rfl) h
  | fail r => exact endProving_effect (by simp) (fun slot _ => afterFailure_holds slot) h
  | timeout r => exact endProving_effect (by simp) (fun slot _ => afterFailure_holds slot) h
  | dropRequest r =>
    simp only [step] at h
    split at h
    · next slot hr =>
      obtain rfl := Option.some.inj h
      exact .leave (by simp) hr (fun _ => rfl) (fun _ => rfl)
    · next slot hr =>
      obtain rfl := Option.some.inj h
      exact .leave (by simp) hr (fun _ => rfl) (fun _ => rfl)
    · next phase hproving hadmitted hr =>
      obtain rfl := Option.some.inj h
      refine .dropIdle hr fun p => ?_
      cases phase with
      | waiting slot => rfl
      | admitted slot => exact absurd rfl (hadmitted slot)
      | proving slot => exact absurd rfl (hproving slot)
      | finished => rfl
    · cases h

/-! ### Polling a value -/

/-- What polling a value does: it only moves permits from the semaphores into the value. -/
structure PollFrame (provers : Provers) (s : ExecutorState) (v : ExecutorValue) (s' : ExecutorState)
    (v' : ExecutorValue) : Prop where
  values : s'.values = s.values
  requests : s'.requests = s.requests
  total : ∀ slot limit, provers.limit slot = some limit →
    s'.total slot + (v'.holds slot).toNat = s.total slot + (v.holds slot).toNat

theorem PollFrame.refl (v : ExecutorValue) : PollFrame self s v s v := ⟨rfl, rfl, fun _ _ _ => rfl⟩

theorem PollFrame.trans {s₁ s₂ s₃ : ExecutorState} {v₁ v₂ v₃ : ExecutorValue}
    (h : PollFrame self s₁ v₁ s₂ v₂) (h' : PollFrame self s₂ v₂ s₃ v₃) :
    PollFrame self s₁ v₁ s₃ v₃ where
  values := h'.values.trans h.values
  requests := h'.requests.trans h.requests
  total slot limit hlimit := (h'.total slot limit hlimit).trans (h.total slot limit hlimit)

theorem keep_holds (v : ExecutorValue) :
    (v.keep p).holds slot = (v.holds slot || decide (p = slot)) := by
  cases p <;> cases slot <;> simp [ExecutorValue.keep, ExecutorValue.holds]

theorem pollService_frame {v v' : ExecutorValue} {inner result : Readiness}
    (h : self.pollService s v p inner = (s', v', result)) : PollFrame self s v s' v' := by
  unfold pollService at h
  split_ifs at h with hholds
  · obtain ⟨rfl, rfl, -⟩ := h
    exact .refl v
  · cases hp : self.limit p with
    | none =>
      rw [hp] at h
      obtain ⟨rfl, rfl, -⟩ := h
      exact .refl v
    | some n =>
      cases htake : self.take s p with
      | none =>
        rw [hp, htake] at h
        obtain ⟨rfl, rfl, -⟩ := h
        exact .refl v
      | some t =>
        rw [hp, htake] at h
        obtain ⟨rfl, rfl, -⟩ := h
        obtain ⟨hvalues, hrequests⟩ := take_frame htake
        refine ⟨hvalues, hrequests, fun slot limit hlimit => ?_⟩
        have htotal := total_take hlimit htake
        rw [keep_holds]
        by_cases hslot : p = slot
        · subst hslot
          rw [Bool.not_eq_true] at hholds
          rw [hholds]
          simpa using htotal
        · simpa [hslot] using htotal

/-- `Executor::poll_ready` only moves permits into the value. -/
theorem pollReady_frame {v v' : ExecutorValue} {innerPrimary innerFallback : Readiness}
    {result : PollResult} (h : self.pollReady s v innerPrimary innerFallback = (s', v', result)) :
    PollFrame self s v s' v' := by
  unfold pollReady at h
  rcases hprimary : self.pollService s v .primary innerPrimary with ⟨s₁, v₁, primary⟩
  rw [hprimary] at h
  have hframe := pollService_frame hprimary
  cases primary with
  | pending =>
    obtain ⟨rfl, rfl, -⟩ := h
    exact hframe
  | failed =>
    obtain ⟨rfl, rfl, -⟩ := h
    exact hframe
  | ready =>
    cases hk : self.fallback with
    | none =>
      simp only [hk] at h
      obtain ⟨rfl, rfl, -⟩ := h
      exact hframe
    | some k =>
      simp only [hk] at h
      rcases hfallback : self.pollService s₁ v₁ .fallback innerFallback with ⟨s₂, v₂, fallback⟩
      rw [hfallback] at h
      have hframe' := hframe.trans (pollService_frame hfallback)
      cases fallback <;> (obtain ⟨rfl, rfl, -⟩ := h; exact hframe')

/-! ### Requests -/

/-- A request that had the permit of `slot`, or has just been given it, polls the inner service. -/
theorem total_pollInner (hlimit : self.limit slot = some limit) {r : ℕ} {phase : RequestPhase}
    (inner : Readiness) (h : s.requests[r]? = some phase) :
    (self.pollInner s r p inner).total slot + (phase.holds slot).toNat =
      s.total slot + (decide (p = slot)).toNat := by
  cases inner with
  | ready => exact total_setRequest (.proving p) h
  | pending => exact total_setRequest (.admitted p) h
  | failed =>
    have hset := @total_setRequest s slot r phase .finished h
    have hrelease := @total_release self { s with requests := s.requests.set r .finished } slot p
      limit hlimit
    simp only [pollInner, hrelease, RequestPhase.holds, Bool.toNat_false] at hset ⊢
    omega

/-- A request gives its permit back and goes on without one. -/
theorem total_leave (hlimit : self.limit slot = some limit) {r : ℕ} {phase phase' : RequestPhase}
    (h : s.requests[r]? = some phase) (hphase : phase.holds slot = decide (p = slot))
    (hphase' : phase'.holds slot = false) :
    (self.release { s with requests := s.requests.set r phase' } p).total slot = s.total slot := by
  have hset := @total_setRequest s slot r phase phase' h
  rw [hphase, hphase'] at hset
  rw [total_release hlimit]
  simpa using hset

theorem total_releaseValue (hlimit : self.limit slot = some limit) (v : ExecutorValue) :
    (self.releaseValue s v p).total slot =
      s.total slot + (v.holds p && decide (p = slot)).toNat := by
  unfold releaseValue
  split_ifs with hholds
  · rw [total_release hlimit, hholds, Bool.true_and]
  · rw [Bool.not_eq_true] at hholds
    rw [hholds]
    rfl

/-- The permits of a dropped value are back. -/
theorem total_dropValue (hlimit : self.limit slot = some limit) {i : ℕ} {v : ExecutorValue}
    (h : s.values[i]? = some (some v)) :
    (self.releaseValue (self.releaseValue { s with values := s.values.set i none } v .primary) v
      .fallback).total slot = s.total slot := by
  have hset := @total_setValue s slot i (some v) none h
  rw [total_releaseValue hlimit, total_releaseValue hlimit]
  cases slot <;>
    simp only [valueHolds, Option.any_some, Option.any_none, Bool.toNat_false, decide_true,
      Bool.and_true, reduceCtorEq, decide_false, Bool.and_false] at hset ⊢ <;> omega

/-- A clone holds no permit. -/
theorem total_clone :
    total { s with values := s.values ++ [some ExecutorValue.fresh] } slot = s.total slot := by
  have hcount := Machine.countP_concat_add (p := valueHolds slot) (l := s.values)
    (some ExecutorValue.fresh)
  have hfresh : valueHolds slot (some ExecutorValue.fresh) = false := by cases slot <;> rfl
  rw [hfresh] at hcount
  unfold total kept
  show s.available slot + (s.values ++ [some ExecutorValue.fresh]).countP _ + s.admitted slot = _
  rw [hcount]
  rfl

/-- The flag of a value plays no part in its permits. -/
theorem valueHolds_polled (v : ExecutorValue) (polled : Bool) :
    valueHolds slot (some { v with polled := polled }) = v.holds slot := by
  cases slot <;> rfl

/-- What a poll takes from a semaphore is in the value. -/
theorem total_poll (hlimit : self.limit slot = some limit) {i : ℕ} {v v' : ExecutorValue}
    (hframe : PollFrame self s v s' v') (h : s.values[i]? = some (some v)) :
    total { s' with values := s'.values.set i (some { v' with polled := true }) } slot =
      s.total slot := by
  have hset := @total_setValue s' slot i (some v) (some { v' with polled := true })
    (by rw [hframe.values]; exact h)
  have htotal := hframe.total slot limit hlimit
  rw [valueHolds_polled v' true] at hset
  simp only [valueHolds, Option.any_some] at hset
  omega

/-- A call moves no permit. -/
theorem total_call {i : ℕ} {v : ExecutorValue} (h : s.values[i]? = some (some v)) :
    total { s with
      values := s.values.set i (some { v with polled := false })
      requests := s.requests ++ [.waiting .primary] } slot = s.total slot := by
  have hset := @total_setValue s slot i (some v) (some { v with polled := false }) h
  have hcount := Machine.countP_concat_add (p := RequestPhase.holds slot) (l := s.requests)
    (.waiting .primary)
  rw [valueHolds_polled v false] at hset
  unfold total kept admitted at hset ⊢
  simp only [hcount, valueHolds, Option.any_some, RequestPhase.holds, Bool.toNat_false] at hset ⊢
  omega

/-- Dropping a request that holds no permit. -/
theorem total_dropIdle {r : ℕ} {phase : RequestPhase} (h : s.requests[r]? = some phase)
    (hphase : phase.holds slot = false) :
    total { s with requests := s.requests.set r .finished } slot = s.total slot := by
  have hset := @total_setRequest s slot r phase .finished h
  rw [hphase] at hset
  simpa [RequestPhase.holds] using hset

/-- **Permits are conserved** by every step. -/
theorem total_step (hlimit : self.limit slot = some limit) {a : ExecutorAction}
    (h : self.step s a = some s') : s'.total slot = s.total slot := by
  cases effect_of_step h with
  | clone _ => exact total_clone
  | dropValue hv => exact total_dropValue hlimit hv
  | pollReady hv hpoll => exact total_poll hlimit (pollReady_frame hpoll) hv
  | call hv => exact total_call hv
  | @acquire r p inner t hr htake =>
    have htotal := total_take hlimit htake
    rw [← (take_frame htake).2] at hr
    have hinner := @total_pollInner self t slot p limit hlimit r (.waiting p) inner hr
    simp only [RequestPhase.holds, Bool.toNat_false] at hinner
    omega
  | @resume r p inner hr =>
    have hinner := @total_pollInner self s slot p limit hlimit r (.admitted p) inner hr
    simp only [RequestPhase.holds] at hinner
    omega
  | leave _ hr hphase hphase' => exact total_leave hlimit hr (hphase slot) (hphase' slot)
  | dropIdle hr hphase => exact total_dropIdle hr (hphase slot)

/-! ## Accounting -/

/-- No caller stands between `Executor::poll_ready` and `Executor::call`. -/
def NoCallerBetween (s : ExecutorState) : Prop := ∀ v, some v ∈ s.values → v.polled = false

/-- The permits of a limited prover are accounted for: none is in a stored service, those taken are
with the requests that are admitted and have not finished, and waiting requests can prove at once,
as many as the limit leaves room for. -/
structure Accounted (provers : Provers) (s : ExecutorState) (slot : ProverSlot) (limit : ℕ) :
    Prop where
  kept : s.kept slot = 0
  taken : limit - s.available slot = s.admitted slot
  prove : ∀ rs : List ℕ, rs.Nodup → (∀ r ∈ rs, s.requests[r]? = some (.waiting slot)) →
    s.admitted slot + rs.length ≤ limit →
    ∃ s', Machine.run provers.step s (rs.map (fun r => .pollRequest r .ready)) = some s' ∧
      s'.admitted slot = s.admitted slot + rs.length ∧
      ∀ r ∈ rs, s'.requests[r]? = some (.proving slot)

/-- The accounting of the limited provers, in a state. -/
def PermitsAccounted (provers : Provers) (s : ExecutorState) : Prop :=
  NoCallerBetween s → ∀ slot limit, provers.limit slot = some limit → Accounted provers s slot limit

/-- A call is made on a value whose stored services hold no permit. -/
def CallsWithoutPermit (s : ExecutorState) (a : ExecutorAction) : Prop :=
  ∀ i v, a = .call i → s.values[i]? = some (some v) → ∀ slot, v.holds slot = false

/-- A value with a permit has been polled since its last call. -/
def KeptPolled (s : ExecutorState) : Prop :=
  ∀ v, some v ∈ s.values → ∀ slot, v.holds slot = true → v.polled = true

section Frames

variable {r : ℕ}

@[simp] theorem pollInner_values {inner : Readiness} :
    (self.pollInner s r slot inner).values = s.values := by
  cases inner <;> simp [pollInner]

@[simp] theorem releaseValue_values {v : ExecutorValue} :
    (self.releaseValue s v slot).values = s.values := by
  unfold releaseValue
  split_ifs
  · exact release_values
  · rfl

end Frames

/-- A replaced value keeps the invariant if the new one does. -/
theorem keptPolled_set {i : ℕ} {v' : Option ExecutorValue} (hinv : KeptPolled s)
    (hv' : ∀ v, v' = some v → ∀ slot, v.holds slot = true → v.polled = true)
    (hvalues : s'.values = s.values.set i v') : KeptPolled s' := by
  intro v hv
  rw [hvalues] at hv
  rcases List.mem_or_eq_of_mem_set hv with hmem | heq
  · exact hinv v hmem
  · exact hv' v heq.symm

theorem keptPolled_of_values (hinv : KeptPolled s) (hvalues : s'.values = s.values) :
    KeptPolled s' := by
  unfold KeptPolled
  rwa [hvalues]

/-- Under the guard, values with permits stay polled. -/
theorem keptPolled_step {a : ExecutorAction} (hguard : CallsWithoutPermit s a)
    (h : self.step s a = some s') (hinv : KeptPolled s) : KeptPolled s' := by
  cases effect_of_step h with
  | clone _ =>
    intro v hv
    rcases List.mem_append.mp hv with hmem | hmem
    · exact hinv v hmem
    · obtain rfl : v = .fresh := by simpa using hmem
      intro p hp
      cases p <;> cases hp
  | dropValue _ =>
    refine keptPolled_set hinv ?_ (releaseValue_values.trans releaseValue_values)
    intro v hv
    cases hv
  | @pollReady i v v' _ _ _ _ hv hpoll =>
    refine keptPolled_set hinv ?_ (congrArg (List.set · i _) (pollReady_frame hpoll).values)
    intro u hu slot _
    obtain rfl := Option.some.inj hu
    rfl
  | @call i v hv =>
    refine keptPolled_set hinv ?_ rfl
    intro u hu slot hholds
    obtain rfl := Option.some.inj hu
    -- the guard: there was no permit in the value
    have hnone := hguard i v rfl hv slot
    cases slot <;> exact absurd (hholds.symm.trans hnone) (by decide)
  | acquire _ htake =>
    exact keptPolled_of_values hinv (pollInner_values.trans (take_frame htake).1)
  | resume _ => exact keptPolled_of_values hinv pollInner_values
  | leave _ _ _ _ => exact keptPolled_of_values hinv release_values
  | dropIdle _ _ => exact keptPolled_of_values hinv rfl

/-! ### Waiting requests -/

/-- With a permit in the semaphore, a waiting request can start. -/
theorem step_start (hlimit : self.limit slot = some limit) (hpos : 0 < s.available slot) {r : ℕ}
    (hr : s.requests[r]? = some (.waiting slot)) :
    self.step s (.pollRequest r .ready) = some
      { s with
        available := Function.update s.available slot (s.available slot - 1)
        requests := s.requests.set r (.proving slot) } := by
  simp only [step, hr, take, hlimit, if_pos hpos, Option.map_some, pollInner]

/-- Waiting requests can start one after the other, as long as there are permits. -/
theorem run_start (hlimit : self.limit slot = some limit) (rs : List ℕ) (hnodup : rs.Nodup)
    (hrs : ∀ r ∈ rs, s.requests[r]? = some (.waiting slot))
    (hroom : rs.length ≤ s.available slot) :
    ∃ s', Machine.run self.step s (rs.map (fun r => .pollRequest r .ready)) = some s' ∧
      s'.admitted slot = s.admitted slot + rs.length ∧
      (∀ r ∈ rs, s'.requests[r]? = some (.proving slot)) ∧
      ∀ r, r ∉ rs → s'.requests[r]? = s.requests[r]? := by
  induction rs generalizing s with
  | nil => exact ⟨s, rfl, rfl, by simp, fun _ _ => rfl⟩
  | cons r rs ih =>
    obtain ⟨hnot, hnodup'⟩ := List.nodup_cons.mp hnodup
    have hr := hrs r List.mem_cons_self
    have hstep := step_start hlimit (by simp at hroom; omega) hr
    set t : ExecutorState :=
      { s with
        available := Function.update s.available slot (s.available slot - 1)
        requests := s.requests.set r (.proving slot) } with ht
    have hother : ∀ r', r' ≠ r → t.requests[r']? = s.requests[r']? := by
      intro r' hne
      exact List.getElem?_set_ne (Ne.symm hne)
    obtain ⟨u, hrun, hcount, hproving, hrest⟩ := @ih t hnodup'
      (fun r' hr' => by
        rw [hother r' (fun heq => hnot (heq ▸ hr'))]
        exact hrs r' (List.mem_cons_of_mem _ hr'))
      (by
        show rs.length ≤ Function.update s.available slot _ slot
        rw [Function.update_self]
        simp at hroom
        omega)
    refine ⟨u, ?_, ?_, ?_, ?_⟩
    · rw [List.map_cons, Machine.run, hstep]
      exact hrun
    · have hset := Machine.countP_set_add (p := RequestPhase.holds slot) (.proving slot) hr
      have hadmitted : t.admitted slot = s.admitted slot + 1 := by
        show (s.requests.set r (.proving slot)).countP (RequestPhase.holds slot) =
          s.requests.countP (RequestPhase.holds slot) + 1
        simpa [RequestPhase.holds] using hset
      rw [hcount, hadmitted, List.length_cons]
      omega
    · intro r' hr'
      rcases List.mem_cons.mp hr' with rfl | hmem
      · rw [hrest _ hnot]
        exact List.getElem?_set_self (List.getElem?_eq_some_iff.mp hr).1
      · exact hproving r' hmem
    · intro r' hr'
      rw [hrest r' (fun hmem => hr' (List.mem_cons_of_mem _ hmem)),
        hother r' (fun heq => hr' (heq ▸ List.mem_cons_self))]

/-! ### Runs -/

theorem total_initial (hlimit : self.limit slot = some limit) :
    self.initial.total slot = limit := by
  have hkept : self.initial.kept slot = 0 := by cases slot <;> rfl
  have havailable : self.initial.available slot = limit := by
    show (self.limit slot).getD 0 = limit
    rw [hlimit]
    rfl
  unfold total
  rw [hkept, havailable]
  rfl

theorem keptPolled_initial : KeptPolled self.initial := by
  intro v hv slot hholds
  obtain rfl : v = .fresh := by simpa [initial] using hv
  cases slot <;> cases hholds

/-- In any run, guarded or not, all permits are where `total` looks for them. -/
theorem total_of_reaches {guard : ExecutorState → ExecutorAction → Prop}
    (hreach : Machine.Reaches self.step guard self.initial s)
    (hlimit : self.limit slot = some limit) : s.total slot = limit :=
  hreach.invariant (total_initial hlimit) fun _ _ _ _ hstep hinv =>
    (total_step hlimit hstep).trans hinv

/-- Where no value holds a permit, the permits are accounted for. -/
theorem accounted_of_kept (hlimit : self.limit slot = some limit) (htotal : s.total slot = limit)
    (hkept : s.kept slot = 0) : Accounted self s slot limit := by
  unfold total at htotal
  refine ⟨hkept, by omega, ?_⟩
  intro rs hnodup hrs hroom
  obtain ⟨s', hrun, hcount, hproving, -⟩ := run_start hlimit rs hnodup hrs (by omega)
  exact ⟨s', hrun, hcount, hproving⟩

/-- **Concurrency accounting.**  In every run in which each call is made on a value without a
permit, the permits are accounted for in every state. -/
theorem permitsAccounted_of_reaches
    (hreach : Machine.Reaches self.step CallsWithoutPermit self.initial s) :
    PermitsAccounted self s := by
  intro hidle slot limit hlimit
  have hpolled : KeptPolled s := hreach.invariant keptPolled_initial
    fun _ _ _ hguard hstep hinv => keptPolled_step hguard hstep hinv
  refine accounted_of_kept hlimit (total_of_reaches hreach hlimit) ?_
  refine List.countP_eq_zero.mpr fun o ho hholds => ?_
  cases o with
  | none => cases hholds
  | some v => exact absurd ((hpolled v ho slot hholds).symm.trans (hidle v ho)) (by decide)

/-- The guard is needed: a call on a value with a permit leaves the permit outside of all
requests. -/
theorem not_accounted_of_call {i : ℕ} {v : ExecutorValue} (hv : s.values[i]? = some (some v))
    (hholds : v.holds slot = true) (hstep : self.step s (.call i) = some s') :
    ¬ Accounted self s' slot limit := by
  intro haccounted
  simp only [step, hv, Option.some.injEq] at hstep
  subst hstep
  have hmem : some { v with polled := false } ∈ s.values.set i (some { v with polled := false }) :=
    List.mem_set (List.getElem?_eq_some_iff.mp hv).1 _
  have hnone := List.countP_eq_zero.mp haccounted.kept _ hmem
  rw [valueHolds_polled v false] at hnone
  exact hnone hholds

end Provers

/-! ## One permit -/

/-- A local prover with one permit, without a fallback. -/
def onePermit : Provers := ⟨.localService 1, none⟩

/-- `call` on a value that nobody has polled: the request gets the permit. -/
theorem permitsAccounted_onePermit :
    ∃ s, Machine.run onePermit.step onePermit.initial [.call 0, .pollRequest 0 .ready] = some s ∧
      s.requests = [.proving .primary] ∧ Provers.PermitsAccounted onePermit s := by
  have hcall : Provers.CallsWithoutPermit onePermit.initial (.call 0) := by
    intro i v hi hv slot
    obtain rfl := ExecutorAction.call.inj hi
    obtain rfl := Option.some.inj (Option.some.inj hv)
    cases slot <;> rfl
  refine ⟨_, rfl, rfl, Provers.permitsAccounted_of_reaches ?_⟩
  refine (Machine.Reaches.step .start hcall rfl).step (a := .pollRequest 0 .ready) ?_ rfl
  intro i v hi
  cases hi

/-- `ready` and then `call` on one value: the request waits for the permit in the value, and no poll
of it will get one. -/
theorem leaked_permit :
    ∃ s, Machine.Reaches onePermit.step (fun _ _ => True) onePermit.initial s ∧
      Provers.NoCallerBetween s ∧ s.requests = [.waiting .primary] ∧
      (∀ inner, onePermit.step s (.pollRequest 0 inner) = none) ∧
      ¬ Provers.PermitsAccounted onePermit s := by
  have hrun : Machine.run onePermit.step onePermit.initial
      [.pollReady 0 .ready .ready, .call 0] = some _ := rfl
  -- the value after the two steps: a permit, and nobody about to use it
  have hidle : ∀ s : ExecutorState, s.values = [some ⟨true, false, false⟩] →
      Provers.NoCallerBetween s := by
    intro s hvalues v hv
    rw [hvalues] at hv
    obtain rfl := Option.some.inj (List.mem_singleton.mp hv)
    rfl
  refine ⟨_, Machine.Reaches.of_run .start hrun, hidle _ rfl, rfl, fun _ => rfl, ?_⟩
  intro haccounted
  exact absurd (haccounted (hidle _ rfl) .primary 1 rfl).kept (by decide)

end Aggchain
