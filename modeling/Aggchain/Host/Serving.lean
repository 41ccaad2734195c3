import Aggchain.Host.ConfigRoundTrip
import Aggchain.Host.ProverService

/-!
# Aggchain.Host.Serving — requests to the provers, from the call to the answer

Many requests are under way at the same time, at one executor.  `Executor.serve` adds to the steps of
the executor what is asked of the SDK and how each request is answered.

* `Executor.answers_of_reaches`: in every run, a request is answered at most once, and with what
  `Executor.call` makes of how its own proving ended.  A proof that is answered verifies under the
  key of the program, for the prover that made it.
-/

namespace Aggchain

/-! ## The machine -/

section Model

variable {T : ConfigTexts} (K : Sp1Sdk T)

/-- A run of the SDK that has ended. -/
structure ProverRun where
  slot : ProverSlot
  request : Sp1ProofRequest K
  result : ProvingEnd K

/-- How the future of a request ends: with a result, or dropped by its caller. -/
inductive Outcome where
  | done (result : Except ProverError K.Proof)
  | cancelled

structure Serving where
  executor : ExecutorState
  /-- what was asked, in the order of the calls -/
  requests : List (ProverRequest K)
  runs : ℕ → List (ProverRun K)
  outcomes : ℕ → List (Outcome K)

/-- One step of a caller, of a request or of the environment.  The services are always ready. -/
inductive ServeAction where
  | clone (value : ℕ)
  | dropValue (value : ℕ)
  | pollReady (value : ℕ)
  | call (value : ℕ) (request : ProverRequest K)
  | poll (request : ℕ)
  /-- the proving ends -/
  | proved (request : ℕ) (result : ProvingEnd K)
  | cancel (request : ℕ)

variable {K}

namespace Serving

/-- A step of the executor that shows nothing. -/
def silent (s : Serving K) (executor : ExecutorState) : Serving K := { s with executor }

def logRun (s : Serving K) (r : ℕ) (run : ProverRun K) : Serving K :=
  { s with runs := Function.update s.runs r (s.runs r ++ [run]) }

def answer (s : Serving K) (r : ℕ) (outcome : Outcome K) : Serving K :=
  { s with outcomes := Function.update s.outcomes r (s.outcomes r ++ [outcome]) }

end Serving

/-- What the executor sees of a call that has failed. -/
def ProvingEnd.failure (r : ℕ) : ProvingEnd K → ExecutorAction
  | .returned _ => .fail r
  | .elapsed => .timeout r

namespace Executor

variable (self : Executor K) (s : Serving K)

/-- The future of a request is dropped before it is done. -/
def abandon (r : ℕ) : Option (Serving K) :=
  match s.executor.requests[r]? with
  | some .finished => none
  | _ => (self.provers.step s.executor (.dropRequest r)).map
      (fun executor => (s.silent executor).answer r .cancelled)

def serve : ServeAction K → Option (Serving K)
  | .clone i => (self.provers.step s.executor (.clone i)).map s.silent
  | .dropValue i => (self.provers.step s.executor (.dropValue i)).map s.silent
  | .pollReady i => (self.provers.step s.executor (.pollReady i .ready .ready)).map s.silent
  | .call i request =>
    (self.provers.step s.executor (.call i)).map (fun executor =>
      { s with executor, requests := s.requests ++ [request] })
  | .poll r => (self.provers.step s.executor (.pollRequest r .ready)).map s.silent
  | .proved r result =>
    match s.executor.requests[r]?, s.requests[r]? with
    | some (.proving slot), some request => do
      let service ← self.service slot
      let run := ⟨slot, service.proofRequest request, result⟩
      match service.call result with
      | .ok proof =>
        let executor ← self.provers.step s.executor (.complete r)
        pure (((s.silent executor).logRun r run).answer r (.done (.ok proof)))
      | .error error =>
        let executor ← self.provers.step s.executor (result.failure r)
        let s' := (s.silent executor).logRun r run
        -- the error of the primary prover is only logged if there is a fallback
        pure (if self.provers.afterFailure slot = .finished then s'.answer r (.done (.error error))
          else s')
    | _, _ => none
  | .cancel r => self.abandon s r

def serveInitial : Serving K where
  executor := self.provers.initial
  requests := []
  runs _ := []
  outcomes _ := []

/-- The runs behind a result of `Executor::call`. -/
def runsOf (request : ProverRequest K) (primary fallback : ProvingEnd K) : List (ProverRun K) :=
  ⟨.primary, self.primary.proofRequest request, primary⟩ ::
    match self.primary.call primary, self.fallback with
    | .error _, some service => [⟨.fallback, service.proofRequest request, fallback⟩]
    | _, _ => []

end Executor

end Model

/-! ## Every request by itself -/

section Runs

open Provers

variable {T : ConfigTexts} {K : Sp1Sdk T} {self : Executor K} {s s' : Serving K}

namespace Executor

/-- The primary prover has failed, and there is another one. -/
def FellBack (self : Executor K) (request : ProverRequest K) (runs : List (ProverRun K)) : Prop :=
  ∃ service primary error, self.fallback = some service ∧
    self.primary.call primary = .error error ∧
    runs = [⟨.primary, self.primary.proofRequest request, primary⟩]

/-- How a request has ended. -/
def EndedWith (self : Executor K) (request : ProverRequest K) (runs : List (ProverRun K)) :
    Outcome K → Prop
  | .done result => ∃ primary fallback, result = self.call primary fallback ∧
    runs = self.runsOf request primary fallback
  | .cancelled => runs = [] ∨ self.FellBack request runs

/-- What is known of a request, by the phase it is in. -/
def PhaseLog (self : Executor K) (request : ProverRequest K) (runs : List (ProverRun K))
    (outcomes : List (Outcome K)) : RequestPhase → Prop
  | .waiting .primary => runs = [] ∧ outcomes = []
  | .admitted .primary => runs = [] ∧ outcomes = []
  | .proving .primary => runs = [] ∧ outcomes = []
  | .waiting .fallback => self.FellBack request runs ∧ outcomes = []
  | .admitted .fallback => self.FellBack request runs ∧ outcomes = []
  | .proving .fallback => self.FellBack request runs ∧ outcomes = []
  | .finished => ∃ outcome, outcomes = [outcome] ∧ self.EndedWith request runs outcome

/-- What is known of the request with this number. -/
def Logged (self : Executor K) (s : Serving K) (r : ℕ) : Prop :=
  match s.executor.requests[r]?, s.requests[r]? with
  | none, none => s.runs r = [] ∧ s.outcomes r = []
  | some phase, some request => self.PhaseLog request (s.runs r) (s.outcomes r) phase
  | _, _ => False

/-! ### Phases -/

section Phases

variable {request : ProverRequest K} {runs : List (ProverRun K)} {outcomes : List (Outcome K)}
  {slot : ProverSlot}

/-- What is known while a request is at a prover, in any phase. -/
def AtProver (self : Executor K) (request : ProverRequest K) (runs : List (ProverRun K)) :
    ProverSlot → Prop
  | .primary => runs = []
  | .fallback => self.FellBack request runs

/-- The phases at one prover are alike. -/
theorem phaseLog_iff {phase : RequestPhase}
    (h : phase = .waiting slot ∨ phase = .admitted slot ∨ phase = .proving slot) :
    self.PhaseLog request runs outcomes phase ↔ self.AtProver request runs slot ∧ outcomes = [] := by
  rcases h with rfl | rfl | rfl <;> cases slot <;> exact Iff.rfl

/-- A request that is not done is at a prover. -/
theorem atProver_of_ne_finished {phase : RequestPhase} (hne : phase ≠ .finished)
    (h : self.PhaseLog request runs outcomes phase) :
    ∃ slot, self.AtProver request runs slot ∧ outcomes = [] := by
  cases phase with
  | waiting slot => exact ⟨slot, (phaseLog_iff (Or.inl rfl)).mp h⟩
  | admitted slot => exact ⟨slot, (phaseLog_iff (Or.inr (Or.inl rfl))).mp h⟩
  | proving slot => exact ⟨slot, (phaseLog_iff (Or.inr (Or.inr rfl))).mp h⟩
  | finished => exact absurd rfl hne

/-- Dropped at a prover. -/
theorem endedWith_cancelled (h : self.AtProver request runs slot) :
    self.EndedWith request runs .cancelled := by
  cases slot with
  | primary => exact Or.inl h
  | fallback => exact Or.inr h

/-- The prover has made a proof. -/
theorem endedWith_ok {service : ProverService K} {result : ProvingEnd K} {proof : K.Proof}
    (hservice : self.service slot = some service) (hcall : service.call result = .ok proof)
    (h : self.AtProver request runs slot) :
    self.EndedWith request (runs ++ [⟨slot, service.proofRequest request, result⟩])
      (.done (.ok proof)) := by
  cases slot with
  | primary =>
    obtain rfl := Option.some.inj hservice
    obtain rfl : runs = [] := h
    refine ⟨result, result, ?_, ?_⟩
    · simp only [call, hcall]
    · simp only [runsOf, hcall, List.nil_append]
  | fallback =>
    obtain ⟨service', primary, error, hfallback, hprimary, rfl⟩ := h
    obtain rfl := Option.some.inj (hfallback.symm.trans hservice)
    refine ⟨primary, result, ?_, ?_⟩
    · simp only [call, hprimary, hfallback, hcall]
    · simp only [runsOf, hprimary, hfallback, List.singleton_append]

/-- The prover has failed, and there is no other one. -/
theorem endedWith_error {service : ProverService K} {result : ProvingEnd K} {error : ProverError}
    (hservice : self.service slot = some service) (hcall : service.call result = .error error)
    (hlast : self.provers.afterFailure slot = .finished) (h : self.AtProver request runs slot) :
    self.EndedWith request (runs ++ [⟨slot, service.proofRequest request, result⟩])
      (.done (.error error)) := by
  cases slot with
  | primary =>
    obtain rfl := Option.some.inj hservice
    obtain rfl : runs = [] := h
    have hnone : self.fallback = none := by
      cases hfallback : self.fallback with
      | none => rfl
      | some service => simp [afterFailure, provers, hfallback] at hlast
    refine ⟨result, result, ?_, ?_⟩
    · simp only [call, hcall, hnone]
    · simp only [runsOf, hcall, hnone, List.nil_append]
  | fallback =>
    obtain ⟨service', primary, error', hfallback, hprimary, rfl⟩ := h
    obtain rfl := Option.some.inj (hfallback.symm.trans hservice)
    refine ⟨primary, result, ?_, ?_⟩
    · simp only [call, hprimary, hfallback, hcall]
    · simp only [runsOf, hprimary, hfallback, List.singleton_append]

/-- The primary prover has failed, and the request goes on to the other one. -/
theorem atProver_afterFailure {service : ProverService K} {result : ProvingEnd K}
    {error : ProverError} (hservice : self.service slot = some service)
    (hcall : service.call result = .error error)
    (hnext : self.provers.afterFailure slot ≠ .finished) (h : self.AtProver request runs slot) :
    self.provers.afterFailure slot = .waiting .fallback ∧
      self.AtProver request (runs ++ [⟨slot, service.proofRequest request, result⟩]) .fallback := by
  cases slot with
  | primary =>
    obtain rfl := Option.some.inj hservice
    obtain rfl : runs = [] := h
    cases hfallback : self.fallback with
    | none => simp [afterFailure, provers, hfallback] at hnext
    | some service' =>
      refine ⟨by simp [afterFailure, provers, hfallback], ?_⟩
      exact ⟨service', result, error, hfallback, hcall, rfl⟩
  | fallback => simp [afterFailure] at hnext

end Phases

/-! ### Steps -/

theorem Logged.inv {r : ℕ} {phase : RequestPhase} (h : self.Logged s r)
    (hphase : s.executor.requests[r]? = some phase) : ∃ request,
      s.requests[r]? = some request ∧ self.PhaseLog request (s.runs r) (s.outcomes r) phase := by
  unfold Logged at h
  rw [hphase] at h
  cases hrequest : s.requests[r]? with
  | none =>
    rw [hrequest] at h
    exact h.elim
  | some request =>
    rw [hrequest] at h
    exact ⟨request, rfl, h⟩

theorem Logged.intro {r : ℕ} {phase : RequestPhase} {request : ProverRequest K}
    (hphase : s.executor.requests[r]? = some phase) (hrequest : s.requests[r]? = some request)
    (h : self.PhaseLog request (s.runs r) (s.outcomes r) phase) : self.Logged s r := by
  unfold Logged
  rw [hphase, hrequest]
  exact h

/-- A step that is about another request. -/
theorem Logged.frame {r : ℕ} (h : self.Logged s r)
    (hphase : s'.executor.requests[r]? = s.executor.requests[r]?)
    (hrequest : s'.requests[r]? = s.requests[r]?) (hruns : s'.runs r = s.runs r)
    (houtcomes : s'.outcomes r = s.outcomes r) : self.Logged s' r := by
  unfold Logged
  rw [hphase, hrequest, hruns, houtcomes]
  exact h

/-- A step of the executor about the request `r`, with what it shows of it. -/
theorem logged_request {a : ExecutorAction} {r : ℕ} {executor : ExecutorState}
    (hreq : a.request = some r) (hstep : self.provers.step s.executor a = some executor)
    (hexecutor : s'.executor = executor) (hrequests : s'.requests = s.requests)
    (hruns : ∀ r' ≠ r, s'.runs r' = s.runs r')
    (houtcomes : ∀ r' ≠ r, s'.outcomes r' = s.outcomes r')
    (htarget : ∀ phase request, s.executor.requests[r]? = some phase →
      s.requests[r]? = some request → Acts a phase →
      self.PhaseLog request (s.runs r) (s.outcomes r) phase →
      self.PhaseLog request (s'.runs r) (s'.outcomes r) (self.provers.nextPhase a phase))
    (hinv : ∀ r, self.Logged s r) (r' : ℕ) : self.Logged s' r' := by
  obtain ⟨phase, hphase, hacts, hset⟩ := step_request hreq hstep
  by_cases heq : r' = r
  · subst heq
    obtain ⟨request, hrequest, hlog⟩ := (hinv r').inv hphase
    refine .intro ?_ (hrequests ▸ hrequest) (htarget phase request hphase hrequest hacts hlog)
    rw [hexecutor, hset, List.getElem?_set_self (List.getElem?_eq_some_iff.mp hphase).1]
  · refine (hinv r').frame ?_ (by rw [hrequests]) (hruns r' heq) (houtcomes r' heq)
    rw [hexecutor, hset, List.getElem?_set_ne (Ne.symm heq)]

/-- A step of a caller that is no call. -/
theorem logged_caller {a : ExecutorAction} {executor : ExecutorState} (hreq : a.request = none)
    (hcall : ∀ i, a ≠ .call i) (hstep : self.provers.step s.executor a = some executor)
    (hinv : ∀ r, self.Logged s r) (r : ℕ) : self.Logged (s.silent executor) r := by
  rcases step_no_request hreq hstep with ⟨-, hsame⟩ | ⟨⟨i, hi⟩, -⟩
  · exact (hinv r).frame (by rw [Serving.silent, hsame]) rfl rfl rfl
  · exact absurd hi (hcall i)

theorem logged_call {i : ℕ} {executor : ExecutorState} (request : ProverRequest K)
    (hstep : self.provers.step s.executor (.call i) = some executor)
    (hinv : ∀ r, self.Logged s r) (r : ℕ) :
    self.Logged { s with executor, requests := s.requests ++ [request] } r := by
  rcases step_no_request rfl hstep with ⟨hne, -⟩ | ⟨-, happend⟩
  · exact absurd rfl (hne i)
  · have hr := hinv r
    -- both lists have the same length: the numbers of the requests agree
    have hlength : s.executor.requests.length = s.requests.length := by
      by_contra hne
      have hmin := hinv (min s.executor.requests.length s.requests.length)
      unfold Logged at hmin
      rcases Nat.lt_or_gt_of_ne hne with hlt | hgt
      · rw [Nat.min_eq_left hlt.le, List.getElem?_eq_none le_rfl, List.getElem?_eq_getElem hlt] at hmin
        exact hmin
      · rw [Nat.min_eq_right hgt.le, List.getElem?_eq_getElem hgt, List.getElem?_eq_none le_rfl] at hmin
        exact hmin
    rcases Nat.lt_trichotomy r s.executor.requests.length with hlt | heq | hgt
    · refine hr.frame ?_ (List.getElem?_append_left (by omega)) rfl rfl
      rw [happend, List.getElem?_append_left hlt]
    · unfold Logged at hr
      rw [List.getElem?_eq_none (by omega), List.getElem?_eq_none (by omega)] at hr
      have hphase : executor.requests[r]? = some (.waiting .primary) := by
        rw [happend, heq, List.getElem?_concat_length]
      have hrequest : (s.requests ++ [request])[r]? = some request := by
        rw [heq, hlength, List.getElem?_concat_length]
      exact .intro hphase hrequest hr
    · refine hr.frame ?_ ?_ rfl rfl
      · rw [happend, List.getElem?_eq_none (by simp; omega), List.getElem?_eq_none (by omega)]
      · show (s.requests ++ [request])[r]? = _
        rw [List.getElem?_eq_none (by simp; omega), List.getElem?_eq_none (by omega)]

/-- The future of a request is dropped. -/
theorem logged_abandon {r : ℕ} (h : self.abandon s r = some s') (hinv : ∀ r, self.Logged s r)
    (r' : ℕ) : self.Logged s' r' := by
  unfold abandon at h
  split at h
  · cases h
  · next hunfinished =>
    obtain ⟨executor, hstep, rfl⟩ := Option.map_eq_some_iff.mp h
    refine logged_request rfl hstep ?_ ?_ ?_ ?_ ?_ hinv r'
    · rfl
    · rfl
    · exact fun _ _ => rfl
    · exact fun _ hne => Function.update_of_ne hne _ _
    · intro phase request hphase _ _ hlog
      have hne : phase ≠ .finished := by
        rintro rfl
        exact hunfinished hphase
      obtain ⟨slot, hat, hnone⟩ := atProver_of_ne_finished hne hlog
      refine ⟨.cancelled, ?_, endedWith_cancelled hat⟩
      simp [Serving.answer, Serving.silent, hnone]

/-- The proving ends, and what is logged of it is right for the next phase. -/
theorem logged_run {a : ExecutorAction} {r : ℕ} {executor : ExecutorState} {slot : ProverSlot}
    {request : ProverRequest K} (run : ProverRun K) (hreq : a.request = some r)
    (hphase : s.executor.requests[r]? = some (.proving slot))
    (hrequest : s.requests[r]? = some request)
    (hstep : self.provers.step s.executor a = some executor) (hexecutor : s'.executor = executor)
    (hrequests : s'.requests = s.requests)
    (hruns : s'.runs = Function.update s.runs r (s.runs r ++ [run]))
    (houtcomes : ∀ r' ≠ r, s'.outcomes r' = s.outcomes r')
    (htarget : self.AtProver request (s.runs r) slot → s.outcomes r = [] →
      self.PhaseLog request (s.runs r ++ [run]) (s'.outcomes r)
        (self.provers.nextPhase a (.proving slot)))
    (hinv : ∀ r, self.Logged s r) (r' : ℕ) : self.Logged s' r' := by
  refine logged_request hreq hstep hexecutor hrequests ?_ houtcomes ?_ hinv r'
  · intro r' hne
    rw [hruns, Function.update_of_ne hne]
  · intro phase' request' hphase' hrequest' _ hlog
    obtain rfl := Option.some.inj (hphase'.symm.trans hphase)
    obtain rfl := Option.some.inj (hrequest'.symm.trans hrequest)
    obtain ⟨hat, hnone⟩ := (phaseLog_iff (Or.inr (Or.inr rfl))).mp hlog
    rw [hruns, Function.update_self]
    exact htarget hat hnone

theorem logged_proved {r : ℕ} {result : ProvingEnd K}
    (h : self.serve s (.proved r result) = some s') (hinv : ∀ r, self.Logged s r) (r' : ℕ) :
    self.Logged s' r' := by
  simp only [serve] at h
  split at h
  · next slot request hphase hrequest =>
    obtain ⟨service, hservice, h⟩ := Option.bind_eq_some_iff.mp h
    split at h
    · next proof hcall =>
      obtain ⟨executor, hstep, h⟩ := Option.bind_eq_some_iff.mp h
      obtain rfl := Option.some.inj h
      refine logged_run ⟨slot, service.proofRequest request, result⟩ rfl hphase hrequest hstep ?_ ?_ ?_ ?_ ?_ hinv r'
      · rfl
      · rfl
      · rfl
      · exact fun _ hne => Function.update_of_ne hne _ _
      · intro hat hnone
        refine ⟨.done (.ok proof), ?_, endedWith_ok hservice hcall hat⟩
        simp [Serving.answer, Serving.logRun, Serving.silent, hnone]
    · next error hcall =>
      obtain ⟨executor, hstep, h⟩ := Option.bind_eq_some_iff.mp h
      obtain rfl := Option.some.inj h
      have hreq : (result.failure r).request = some r := by
        cases result <;> rfl
      have hnext : self.provers.nextPhase (result.failure r) (.proving slot) =
          self.provers.afterFailure slot := by
        cases result <;> rfl
      refine logged_run ⟨slot, service.proofRequest request, result⟩ hreq hphase hrequest hstep ?_ ?_ ?_ ?_ ?_ hinv r'
      · split_ifs <;> rfl
      · split_ifs <;> rfl
      · split_ifs <;> rfl
      · intro r' hne
        split_ifs
        · exact Function.update_of_ne hne _ _
        · rfl
      · intro hat hnone
        rw [hnext]
        split_ifs with hlast
        · rw [hlast]
          refine ⟨.done (.error error), ?_, endedWith_error hservice hcall hlast hat⟩
          simp [Serving.answer, Serving.logRun, Serving.silent, hnone]
        · obtain ⟨hphase', hat'⟩ := atProver_afterFailure hservice hcall hlast hat
          rw [hphase']
          exact (phaseLog_iff (Or.inl rfl)).mpr ⟨hat', hnone⟩
  · cases h

/-- **One step** keeps what is known of all requests. -/
theorem logged_serve {a : ServeAction K} (h : self.serve s a = some s')
    (hinv : ∀ r, self.Logged s r) : ∀ r, self.Logged s' r := by
  cases a with
  | clone i =>
    obtain ⟨executor, hstep, rfl⟩ := Option.map_eq_some_iff.mp h
    exact logged_caller (a := .clone i) rfl nofun hstep hinv
  | dropValue i =>
    obtain ⟨executor, hstep, rfl⟩ := Option.map_eq_some_iff.mp h
    exact logged_caller (a := .dropValue i) rfl nofun hstep hinv
  | pollReady i =>
    obtain ⟨executor, hstep, rfl⟩ := Option.map_eq_some_iff.mp h
    exact logged_caller (a := .pollReady i .ready .ready) rfl nofun hstep hinv
  | call i request =>
    obtain ⟨executor, hstep, rfl⟩ := Option.map_eq_some_iff.mp h
    exact logged_call request hstep hinv
  | poll r =>
    obtain ⟨executor, hstep, rfl⟩ := Option.map_eq_some_iff.mp h
    refine logged_request rfl hstep ?_ ?_ ?_ ?_ ?_ hinv
    · rfl
    · rfl
    · exact fun _ _ => rfl
    · exact fun _ _ => rfl
    · rintro phase request - - ⟨slot, hacts⟩ hlog
      have hat := (phaseLog_iff (hacts.imp_right Or.inl)).mp hlog
      rcases hacts with rfl | rfl
      · exact (phaseLog_iff (Or.inr (Or.inr rfl))).mpr hat
      · exact (phaseLog_iff (Or.inr (Or.inr rfl))).mpr hat
  | proved r result => exact logged_proved h hinv
  | cancel r => exact logged_abandon h hinv

theorem logged_of_reaches {guard : Serving K → ServeAction K → Prop}
    (hreach : Machine.Reaches self.serve guard self.serveInitial s) : ∀ r, self.Logged s r := by
  refine hreach.invariant ?_ fun _ _ _ _ hstep hinv => logged_serve hstep hinv
  intro r
  exact ⟨rfl, rfl⟩

/-! ### What is answered -/

/-- A result that is a proof was returned by one of the provers and verifies. -/
theorem call_ok {primary fallback : ProvingEnd K} {proof : K.Proof} (request : ProverRequest K)
    (h : self.call primary fallback = .ok proof) : ∃ slot service,
      self.service slot = some service ∧
      ⟨slot, service.proofRequest request, .returned (.ok (.ok proof))⟩ ∈
        self.runsOf request primary fallback ∧
      K.verify service.client proof service.verificationKey = .ok (.ok ()) := by
  unfold call at h
  split at h
  · next res hprimary =>
    obtain rfl := Except.ok.inj h
    obtain ⟨rfl, hverify⟩ := ProverService.call_ok_iff.mp hprimary
    exact ⟨.primary, self.primary, rfl, List.mem_cons_self, hverify⟩
  · next err hprimary =>
    split at h
    · next service hfallback =>
      obtain ⟨rfl, hverify⟩ := ProverService.call_ok_iff.mp h
      refine ⟨.fallback, service, hfallback, ?_, hverify⟩
      simp [runsOf, hprimary, hfallback]
    · cases h

/-- A result that is an error is the one of the last prover. -/
theorem call_error {primary fallback : ProvingEnd K} {error : ProverError}
    (request : ProverRequest K) (h : self.call primary fallback = .error error) :
    ∃ slot service fin, self.service slot = some service ∧
      (slot = .fallback ∨ self.fallback = none) ∧
      (self.runsOf request primary fallback).getLast? =
        some ⟨slot, service.proofRequest request, fin⟩ ∧
      service.Reason fin error := by
  unfold call at h
  split at h
  · cases h
  · next err hprimary =>
    split at h
    · next service hfallback =>
      refine ⟨.fallback, service, fallback, hfallback, Or.inl rfl, ?_,
        ProverService.call_error_iff.mp h⟩
      simp [runsOf, hprimary, hfallback]
    · next hnone =>
      obtain rfl := Except.error.inj h
      refine ⟨.primary, self.primary, primary, rfl, Or.inr hnone, ?_,
        ProverService.call_error_iff.mp hprimary⟩
      simp [runsOf, hprimary, hnone]

/-- The request of an outcome, and how it has ended. -/
theorem Logged.ended {r : ℕ} {outcome : Outcome K} (h : self.Logged s r)
    (hmem : outcome ∈ s.outcomes r) : ∃ request, s.requests[r]? = some request ∧
      s.executor.requests[r]? = some .finished ∧ s.outcomes r = [outcome] ∧
      self.EndedWith request (s.runs r) outcome := by
  cases hphase : s.executor.requests[r]? with
  | none =>
    unfold Logged at h
    rw [hphase] at h
    cases hrequest : s.requests[r]? with
    | none =>
      rw [hrequest] at h
      rw [h.2] at hmem
      cases hmem
    | some request =>
      rw [hrequest] at h
      exact h.elim
  | some phase =>
    obtain ⟨request, hrequest, hlog⟩ := h.inv hphase
    by_cases hfinished : phase = .finished
    · subst hfinished
      obtain ⟨outcome', heq, hended⟩ := hlog
      rw [heq] at hmem
      obtain rfl := List.mem_singleton.mp hmem
      exact ⟨request, hrequest, rfl, heq, hended⟩
    · obtain ⟨slot, -, hnone⟩ := atProver_of_ne_finished hfinished hlog
      rw [hnone] at hmem
      cases hmem

/-- **Answers of an executor.**  In every run, however the requests are interleaved: a request has
an outcome exactly when it is finished, and then only one.  A result is the one `Executor::call`
gives for the runs of the SDK that were made for this request, and no others were.  A proof was
returned by one of the provers for what was asked, under the keys of the program, and it verifies;
an error has its reason in the last run, at the last prover there is. -/
theorem answers_of_reaches {primary : ProverType T} {fallback : Option (ProverType T)}
    {program : List UInt8} (hnew : new K primary fallback program = .ok self)
    {guard : Serving K → ServeAction K → Prop}
    (hreach : Machine.Reaches self.serve guard self.serveInitial s) (r : ℕ) :
    (s.executor.requests[r]? = some .finished ↔ s.outcomes r ≠ []) ∧ (s.outcomes r).length ≤ 1 ∧
    (∀ result, .done result ∈ s.outcomes r → ∃ request p f, s.requests[r]? = some request ∧
      result = self.call p f ∧ s.runs r = self.runsOf request p f) ∧
    (∀ proof, .done (.ok proof) ∈ s.outcomes r → ∃ slot service request,
      self.service slot = some service ∧ s.requests[r]? = some request ∧
      ⟨slot, service.proofRequest request, .returned (.ok (.ok proof))⟩ ∈ s.runs r ∧
      K.setup service.client program = .ok (service.provingKey, service.verificationKey) ∧
      K.verify service.client proof service.verificationKey = .ok (.ok ())) ∧
    (∀ error, .done (.error error) ∈ s.outcomes r → ∃ slot service request fin,
      self.service slot = some service ∧ s.requests[r]? = some request ∧
      (slot = .fallback ∨ self.fallback = none) ∧
      (s.runs r).getLast? = some ⟨slot, service.proofRequest request, fin⟩ ∧
      service.Reason fin error) := by
  have hlogged := logged_of_reaches hreach r
  refine ⟨?_, ?_, ?_, ?_, ?_⟩
  · constructor
    · intro hphase
      obtain ⟨request, -, outcome, heq, -⟩ := hlogged.inv hphase
      rw [heq]
      exact List.cons_ne_nil _ _
    · intro hne
      obtain ⟨outcome, hmem⟩ := List.exists_mem_of_ne_nil _ hne
      obtain ⟨request, -, hphase, -, -⟩ := hlogged.ended hmem
      exact hphase
  · by_cases hne : s.outcomes r = []
    · rw [hne]
      exact Nat.zero_le 1
    · obtain ⟨outcome, hmem⟩ := List.exists_mem_of_ne_nil _ hne
      obtain ⟨request, -, -, heq, -⟩ := hlogged.ended hmem
      rw [heq]
      rfl
  · intro result hmem
    obtain ⟨request, hrequest, -, -, p, f, hresult, hruns⟩ := hlogged.ended hmem
    exact ⟨request, p, f, hrequest, hresult, hruns⟩
  · intro proof hmem
    obtain ⟨request, hrequest, -, -, p, f, hresult, hruns⟩ := hlogged.ended hmem
    obtain ⟨slot, service, hservice, hrun, hverify⟩ := call_ok request hresult.symm
    exact ⟨slot, service, request, hservice, hrequest, hruns ▸ hrun,
      (new_ok hnew).2 slot service hservice, hverify⟩
  · intro error hmem
    obtain ⟨request, hrequest, -, -, p, f, hresult, hruns⟩ := hlogged.ended hmem
    obtain ⟨slot, service, fin, hservice, hlast, hrun, hreason⟩ := call_error request hresult.symm
    exact ⟨slot, service, request, fin, hservice, hrequest, hlast, hruns ▸ hrun, hreason⟩

end Executor

end Runs

namespace Sample

/-- A proof is the key of the program and the bytes of its input. -/
def sp1 : Sp1Sdk configTexts where
  Stdin := List UInt8
  Proof := List UInt8
  ProvingKey := List UInt8
  VerifyingKey := List UInt8
  setup _ program := .ok (program, program)
  verify _ proof verificationKey :=
    .ok (if verificationKey.isPrefixOf proof then .ok () else .error .invalidPublicValues)

def localConfig : LocalProverConfig := ⟨defaultMaxConcurrencyLimit, none, defaultProvingTimeout⟩

def program : List UInt8 := [1, 2]

/-- A mock prover, and a CPU prover to fall back on. -/
def executor : Executor sp1 where
  vkey := program
  primary := .localService (.fromSecs 301) 100 ⟨program, program, true⟩
  fallback := some (.localService (.fromSecs 301) 100 ⟨program, program, false⟩)

theorem executor_new :
    Executor.new sp1 (.mockProver localConfig) (some (.cpuProver localConfig)) program =
      .ok executor := rfl

/-- The primary prover returns a proof for another program, the fallback the right one. -/
def servedActions : List (ServeAction sp1) :=
  [.pollReady 0, .call 0 ⟨[7], .plonk⟩, .poll 0, .proved 0 (.returned (.ok (.ok [3, 7]))), .poll 0,
    .proved 0 (.returned (.ok (.ok [1, 2, 7])))]

end Sample

open Sample

theorem answers_of_reaches_fallback : ∃ s,
    Machine.run executor.serve executor.serveInitial servedActions = some s ∧
    s.outcomes 0 = [.done (.ok [1, 2, 7])] ∧
    ∃ slot service request, executor.service slot = some service ∧
      s.requests[0]? = some request ∧
      ⟨slot, service.proofRequest request, .returned (.ok (.ok [1, 2, 7]))⟩ ∈ s.runs 0 ∧
      sp1.setup service.client program = .ok (service.provingKey, service.verificationKey) ∧
      sp1.verify service.client [1, 2, 7] service.verificationKey = .ok (.ok ()) := by
  have hrun : Machine.run executor.serve executor.serveInitial servedActions = some _ := rfl
  have hreach := Machine.Reaches.of_run .start hrun
  refine ⟨_, hrun, rfl, ?_⟩
  exact (Executor.answers_of_reaches executor_new hreach 0).2.2.2.1 _ List.mem_cons_self

end Aggchain
