import Aggchain.Host.Executor

/-!
# Aggchain.Host.ExecutorRuns — runs of the prover services

Both provers put their `Executor` behind a `tower` buffer.  The worker of the buffer owns one
executor value, polls it until it is ready and then calls it; the value is neither cloned nor
dropped.

* `buffered_capacity`: used so, a prover with `n` permits proves at most `n - 1` requests at a time,
  and that many it can.  A primary prover with one permit never proves a request, and its fallback is
  never tried.
* `attempts_of_reaches`: in any run, every request goes through the provers in one of a few orders:
  the primary first, the fallback only after a failure of the primary, neither of them twice.
-/

namespace Aggchain

open ExecutorState Provers

/-! ## One value behind a buffer -/

/-- What `Poll::Ready` leaves in a value: a permit for each limited prover. -/
def ExecutorValue.Ready (provers : Provers) (v : ExecutorValue) : Prop :=
  ∀ slot limit, provers.limit slot = some limit → v.holds slot = true

/-- The worker of the buffer: it neither clones nor drops its value, and calls it once it is
ready. -/
def BufferedUse (provers : Provers) (s : ExecutorState) : ExecutorAction → Prop
  | .clone _ => False
  | .dropValue _ => False
  | .call i => ∀ v, s.values[i]? = some (some v) → v.Ready provers
  | _ => True

namespace Provers

variable {self : Provers} {s s' : ExecutorState} {slot p : ProverSlot} {limit : ℕ}

/-- Polling a stored service only adds a permit. -/
theorem pollService_holds {v v' : ExecutorValue} {inner result : Readiness}
    (h : self.pollService s v p inner = (s', v', result)) (hholds : v.holds slot = true) :
    v'.holds slot = true := by
  unfold pollService at h
  split_ifs at h with hp
  · obtain ⟨-, rfl, -⟩ := h
    exact hholds
  · split at h
    · obtain ⟨-, rfl, -⟩ := h
      exact hholds
    · split at h
      · obtain ⟨-, rfl, -⟩ := h
        exact hholds
      · obtain ⟨-, rfl, -⟩ := h
        rw [keep_holds, hholds, Bool.true_or]

/-- The two polls of `Executor::poll_ready`. -/
theorem pollReady_cases {v v' : ExecutorValue} {innerPrimary innerFallback : Readiness}
    {result : PollResult} (h : self.pollReady s v innerPrimary innerFallback = (s', v', result)) :
    ∃ t u first, self.pollService s v .primary innerPrimary = (t, u, first) ∧
      ((v' = u ∧ (result = .ready → first = .ready ∧ self.fallback = none)) ∨
      ∃ second, first = .ready ∧ self.pollService t u .fallback innerFallback = (s', v', second) ∧
        (result = .ready → second = .ready)) := by
  unfold pollReady at h
  rcases hprimary : self.pollService s v .primary innerPrimary with ⟨t, u, first⟩
  rw [hprimary] at h
  refine ⟨t, u, first, rfl, ?_⟩
  cases first with
  | pending =>
    obtain ⟨-, rfl, rfl⟩ := h
    exact Or.inl ⟨rfl, fun h' => by cases h'⟩
  | failed =>
    obtain ⟨-, rfl, rfl⟩ := h
    exact Or.inl ⟨rfl, fun h' => by cases h'⟩
  | ready =>
    cases hk : self.fallback with
    | none =>
      simp only [hk] at h
      obtain ⟨-, rfl, -⟩ := h
      exact Or.inl ⟨rfl, fun _ => ⟨rfl, rfl⟩⟩
    | some k =>
      simp only [hk] at h
      rcases hfallback : self.pollService t u .fallback innerFallback with ⟨t', u', second⟩
      rw [hfallback] at h
      cases second <;> (obtain ⟨rfl, rfl, rfl⟩ := h; exact Or.inr ⟨_, rfl, rfl, by simp⟩)

theorem pollReady_holds {v v' : ExecutorValue} {innerPrimary innerFallback : Readiness}
    {result : PollResult} (h : self.pollReady s v innerPrimary innerFallback = (s', v', result))
    (hholds : v.holds slot = true) : v'.holds slot = true := by
  obtain ⟨t, u, first, hprimary, ⟨rfl, -⟩ | ⟨second, -, hfallback, -⟩⟩ := pollReady_cases h
  · exact pollService_holds hprimary hholds
  · exact pollService_holds hfallback (pollService_holds hprimary hholds)

/-- The worker has its one value, with a permit for each limited prover from the first request
on. -/
def OneReadyValue (self : Provers) (s : ExecutorState) : Prop :=
  ∃ v, s.values = [some v] ∧ (s.requests ≠ [] → v.Ready self)

theorem value_eq {v w : ExecutorValue} {i : ℕ} (hvalues : s.values = [some v])
    (hi : s.values[i]? = some (some w)) : i = 0 ∧ w = v := by
  rw [hvalues] at hi
  cases i with
  | zero => exact ⟨rfl, (Option.some.inj (Option.some.inj hi)).symm⟩
  | succ i => simp at hi

/-- A step that leaves the values alone and is about a request that is there. -/
theorem oneReadyValue_of_request {r : ℕ} {phase : RequestPhase} (hinv : OneReadyValue self s)
    (hr : s.requests[r]? = some phase) (hvalues : s'.values = s.values) :
    OneReadyValue self s' := by
  obtain ⟨v, hv, hready⟩ := hinv
  refine ⟨v, hvalues.trans hv, fun _ => hready ?_⟩
  intro hnil
  rw [hnil] at hr
  simp at hr

theorem oneReadyValue_step {a : ExecutorAction} (hguard : BufferedUse self s a)
    (h : self.step s a = some s') (hinv : OneReadyValue self s) : OneReadyValue self s' := by
  cases effect_of_step h with
  | clone _ => exact hguard.elim
  | dropValue _ => exact hguard.elim
  | @pollReady i w w' _ _ t _ hw hpoll =>
    obtain ⟨v, hv, hready⟩ := hinv
    obtain ⟨rfl, rfl⟩ := value_eq hv hw
    have hframe := pollReady_frame hpoll
    refine ⟨{ w' with polled := true }, ?_, ?_⟩
    · show t.values.set 0 _ = _
      rw [hframe.values, hv]
      rfl
    · intro hne slot limit hlimit
      have hholds := hready (hframe.requests ▸ hne) slot limit hlimit
      have hholds' := pollReady_holds hpoll hholds
      cases slot <;> exact hholds'
  | @call i w hw =>
    obtain ⟨v, hv, -⟩ := hinv
    have hready : w.Ready self := hguard w hw
    obtain ⟨rfl, rfl⟩ := value_eq hv hw
    refine ⟨{ w with polled := false }, ?_, ?_⟩
    · show s.values.set 0 _ = _
      rw [hv]
      rfl
    · intro _ slot limit hlimit
      have hholds := hready slot limit hlimit
      cases slot <;> exact hholds
  | acquire hr htake =>
    exact oneReadyValue_of_request hinv hr (pollInner_values.trans (take_frame htake).1)
  | resume hr => exact oneReadyValue_of_request hinv hr pollInner_values
  | leave _ hr _ _ => exact oneReadyValue_of_request hinv hr release_values
  | dropIdle hr _ => exact oneReadyValue_of_request hinv hr rfl

theorem oneReadyValue_initial : OneReadyValue self self.initial :=
  ⟨.fresh, rfl, fun h => absurd rfl h⟩

theorem oneReadyValue_of_reaches
    (hreach : Machine.Reaches self.step (BufferedUse self) self.initial s) : OneReadyValue self s :=
  hreach.invariant oneReadyValue_initial fun _ _ _ hguard hstep hinv =>
    oneReadyValue_step hguard hstep hinv

/-- From the first request on, one permit is in the value. -/
theorem kept_of_oneReadyValue (hinv : OneReadyValue self s) (hne : s.requests ≠ [])
    (hlimit : self.limit slot = some limit) : s.kept slot = 1 := by
  obtain ⟨v, hv, hready⟩ := hinv
  have hholds := hready hne slot limit hlimit
  unfold kept
  rw [hv]
  simp [valueHolds, hholds]

/-- With a single permit for the primary prover, requests wait for it until they are dropped. -/
def OnlyWaiting (s : ExecutorState) : Prop :=
  ∀ phase ∈ s.requests, phase = .waiting .primary ∨ phase = .finished

theorem onlyWaiting_set {r : ℕ} {phase : RequestPhase} (hinv : OnlyWaiting s)
    (hphase : phase = .waiting .primary ∨ phase = .finished)
    (hrequests : s'.requests = s.requests.set r phase) : OnlyWaiting s' := by
  intro phase' hmem
  rw [hrequests] at hmem
  rcases List.mem_or_eq_of_mem_set hmem with h | rfl
  · exact hinv phase' h
  · exact hphase

theorem onlyWaiting_step {a : ExecutorAction} (hlimit : self.limit .primary = some 1)
    (htotal : s.total .primary = 1) (hready : OneReadyValue self s)
    (h : self.step s a = some s') (hinv : OnlyWaiting s) : OnlyWaiting s' := by
  -- a phase that is there is one of the two
  have hphase : ∀ {r : ℕ} {phase : RequestPhase}, s.requests[r]? = some phase →
      phase = .waiting .primary ∨ phase = .finished := by
    intro r phase hr
    exact hinv phase (List.mem_of_getElem? hr)
  cases effect_of_step h with
  | clone _ => exact hinv
  | @dropValue i v hv =>
    have hrequests : ∀ (t : ExecutorState) (p : ProverSlot),
        (self.releaseValue t v p).requests = t.requests := by
      intro t p
      unfold releaseValue release
      split_ifs
      · cases self.limit p <;> rfl
      · rfl
    unfold OnlyWaiting
    rw [hrequests, hrequests]
    exact hinv
  | pollReady hv hpoll =>
    unfold OnlyWaiting
    show ∀ phase ∈ _, _
    rw [(pollReady_frame hpoll).requests]
    exact hinv
  | call hv =>
    intro phase hmem
    rcases List.mem_append.mp hmem with h' | h'
    · exact hinv phase h'
    · exact Or.inl (List.mem_singleton.mp h')
  | @acquire r p inner t hr htake =>
    -- the only permit is in the value
    have hne : s.requests ≠ [] := by
      intro hnil
      rw [hnil] at hr
      simp at hr
    have hkept := kept_of_oneReadyValue hready hne hlimit
    rcases hphase hr with h' | h'
    · obtain rfl := RequestPhase.waiting.inj h'
      have hzero : s.available .primary = 0 := by
        unfold total at htotal
        omega
      unfold take at htake
      rw [hlimit] at htake
      simp [hzero] at htake
    · cases h'
  | resume hr =>
    rcases hphase hr with h' | h' <;> cases h'
  | @leave a r phase phase' p _ hr hholds _ =>
    have hp := hholds p
    rcases hphase hr with rfl | rfl
    · simp [RequestPhase.holds] at hp
    · simp [RequestPhase.holds] at hp
  | dropIdle hr _ => exact onlyWaiting_set hinv (Or.inr rfl) rfl

/-- **Capacity behind a buffer.**  In every run of the buffered executor, a prover with `limit`
permits has at most `limit - 1` admitted, unfinished requests, and waiting requests can fill it up to
that number; a primary prover with one permit never gets a request to prove, and neither does its
fallback.  A local run that has timed out holds no permit any more, though it still goes on. -/
theorem buffered_capacity
    (hreach : Machine.Reaches self.step (BufferedUse self) self.initial s) :
    (∀ slot limit, self.limit slot = some limit → s.admitted slot ≤ limit - 1 ∧
      ∀ rs : List ℕ, rs.Nodup → (∀ r ∈ rs, s.requests[r]? = some (.waiting slot)) →
        s.admitted slot + rs.length ≤ limit - 1 →
        ∃ s', Machine.run self.step s (rs.map (fun r => .pollRequest r .ready)) = some s' ∧
          s'.admitted slot = s.admitted slot + rs.length ∧
          ∀ r ∈ rs, s'.requests[r]? = some (.proving slot)) ∧
    (self.limit .primary = some 1 →
      ∀ phase ∈ s.requests, phase = .waiting .primary ∨ phase = .finished) := by
  have hinv := oneReadyValue_of_reaches hreach
  refine ⟨?_, ?_⟩
  · intro slot limit hlimit
    have htotal := total_of_reaches hreach hlimit
    unfold total at htotal
    by_cases hne : s.requests = []
    · have hnone : s.admitted slot = 0 := by
        unfold admitted
        rw [hne]
        rfl
      refine ⟨by omega, ?_⟩
      intro rs _ hrs _
      obtain rfl : rs = [] := by
        refine List.eq_nil_iff_forall_not_mem.mpr fun r hr => ?_
        have := hrs r hr
        rw [hne] at this
        simp at this
      exact ⟨s, rfl, rfl, by simp⟩
    · have hkept := kept_of_oneReadyValue hinv hne hlimit
      refine ⟨by omega, ?_⟩
      intro rs hnodup hrs hroom
      obtain ⟨s', hrun, hcount, hproving, -⟩ := run_start hlimit rs hnodup hrs (by omega)
      exact ⟨s', hrun, hcount, hproving⟩
  · intro hlimit
    let Inv (s : ExecutorState) : Prop :=
      s.total .primary = 1 ∧ OneReadyValue self s ∧ OnlyWaiting s
    have hstart : Inv self.initial := by
      refine ⟨total_initial hlimit, oneReadyValue_initial, ?_⟩
      intro phase hmem
      cases hmem
    have hrun : Inv s := hreach.invariant hstart fun t a u hguard hstep ht =>
      ⟨(total_step hlimit hstep).trans ht.1, oneReadyValue_step hguard hstep ht.2.1,
        onlyWaiting_step hlimit ht.1 ht.2.1 hstep ht.2.2⟩
    exact hrun.2.2

end Provers

/-- A local prover with two permits, without a fallback. -/
def twoPermits : Provers := ⟨.localService 2, none⟩

/-- Two requests through the buffer: one of them proves, the other one waits. -/
theorem buffered_capacity_twoPermits : ∃ s,
    Machine.run twoPermits.step twoPermits.initial [.pollReady 0 .ready .ready, .call 0,
      .pollRequest 0 .ready, .pollReady 0 .ready .ready, .call 0] = some s ∧
    s.requests = [.proving .primary, .waiting .primary] ∧ s.admitted .primary ≤ 1 := by
  have hready : ∀ {t : ExecutorState}, t.values = [some ⟨true, false, true⟩] →
      BufferedUse twoPermits t (.call 0) := by
    intro t ht v hv slot limit hlimit
    obtain ⟨-, rfl⟩ := value_eq ht hv
    cases slot with
    | primary => rfl
    | fallback => cases hlimit
  have hpoll : ∀ t, BufferedUse twoPermits t (.pollReady 0 .ready .ready) := fun _ => trivial
  have hrequest : ∀ t, BufferedUse twoPermits t (.pollRequest 0 .ready) := fun _ => trivial
  have hstart : Machine.Reaches twoPermits.step (BufferedUse twoPermits) twoPermits.initial
    twoPermits.initial := .start
  have hcalled := (hstart.step (hpoll _) rfl).step (hready rfl) rfl
  have hreach := ((hcalled.step (hrequest _) rfl).step (hpoll _) rfl).step (hready rfl) rfl
  exact ⟨_, rfl, rfl, ((buffered_capacity hreach).1 .primary 2 rfl).1⟩

/-! ## What happens to a request -/

/-- What can be seen of a request at a prover. -/
inductive Attempt where
  | started (slot : ProverSlot)
  | completed (slot : ProverSlot)
  /-- the prover failed, or ran into its timeout -/
  | failed (slot : ProverSlot)
  /-- the service never became ready -/
  | unavailable (slot : ProverSlot)
  deriving DecidableEq

/-- The request that an action is about. -/
def ExecutorAction.request : ExecutorAction → Option ℕ
  | .pollRequest r _ => some r
  | .complete r => some r
  | .fail r => some r
  | .timeout r => some r
  | .dropRequest r => some r
  | _ => none

/-- What an action shows of a request in the given phase. -/
def ExecutorAction.attempt : ExecutorAction → RequestPhase → Option Attempt
  | .pollRequest _ .ready, .waiting slot => some (.started slot)
  | .pollRequest _ .ready, .admitted slot => some (.started slot)
  | .pollRequest _ .failed, .waiting slot => some (.unavailable slot)
  | .pollRequest _ .failed, .admitted slot => some (.unavailable slot)
  | .complete _, .proving slot => some (.completed slot)
  | .fail _, .proving slot => some (.failed slot)
  | .timeout _, .proving slot => some (.failed slot)
  | _, _ => none

/-- The executor, with what is seen of the requests. -/
structure Observed where
  state : ExecutorState
  seen : ℕ → List Attempt

namespace Provers

section Model

variable (self : Provers)

/-- One step, with what it shows. -/
def observe (s : Observed) (a : ExecutorAction) : Option Observed :=
  (self.step s.state a).map (fun t =>
    ⟨t, fun r => s.seen r ++
      if a.request = some r then (s.state.requests[r]?.bind a.attempt).toList else []⟩)

/-- Nothing has been seen. -/
def observedInitial : Observed := ⟨self.initial, fun _ => []⟩

/-- All that can happen to a request that is not dropped. -/
def scenarios : List (List Attempt) :=
  [.unavailable .primary] :: [.started .primary, .completed .primary] ::
    if self.fallback.isSome then
      [[.started .primary, .failed .primary, .unavailable .fallback],
        [.started .primary, .failed .primary, .started .fallback, .completed .fallback],
        [.started .primary, .failed .primary, .started .fallback, .failed .fallback]]
    else [[.started .primary, .failed .primary]]

end Model

/-! ### One request -/

section Request

variable (self : Provers)

/-- The phase of a request after an action about it. -/
def nextPhase : ExecutorAction → RequestPhase → RequestPhase
  | .pollRequest _ .ready, .waiting slot => .proving slot
  | .pollRequest _ .ready, .admitted slot => .proving slot
  | .pollRequest _ .pending, .waiting slot => .admitted slot
  | .pollRequest _ .pending, .admitted slot => .admitted slot
  | .fail _, .proving slot => self.afterFailure slot
  | .timeout _, .proving slot => self.afterFailure slot
  | _, _ => .finished

/-- How far the request has come, by what has been seen of it. -/
def Tracks : RequestPhase → List Attempt → Prop
  | .waiting .primary, seen => seen = []
  | .admitted .primary, seen => seen = []
  | .proving .primary, seen => seen = [.started .primary]
  | .waiting .fallback, seen => self.fallback.isSome ∧ seen = [.started .primary, .failed .primary]
  | .admitted .fallback, seen => self.fallback.isSome ∧ seen = [.started .primary, .failed .primary]
  | .proving .fallback, seen => self.fallback.isSome ∧
    seen = [.started .primary, .failed .primary, .started .fallback]
  | .finished, seen => ∃ scenario ∈ self.scenarios, seen <+: scenario

variable {self} {s s' : ExecutorState} {a : ExecutorAction} {r : ℕ}

theorem mem_scenarios_unavailable : [.unavailable .primary] ∈ self.scenarios := by
  simp [scenarios]

theorem mem_scenarios_completed : [.started .primary, .completed .primary] ∈ self.scenarios := by
  simp [scenarios]

theorem mem_scenarios_fallback (h : self.fallback.isSome = true) (attempts : List Attempt)
    (hmem : attempts ∈ [[.unavailable .fallback], [.started .fallback, .completed .fallback],
      [.started .fallback, .failed .fallback]]) :
    .started .primary :: .failed .primary :: attempts ∈ self.scenarios := by
  simp only [scenarios, h, if_true]
  simp only [List.mem_cons, List.not_mem_nil, or_false] at hmem
  rcases hmem with rfl | rfl | rfl <;> simp

/-- Wherever a request is, what has been seen of it is the beginning of a scenario. -/
theorem Tracks.scenario {phase : RequestPhase} {seen : List Attempt} (h : self.Tracks phase seen) :
    ∃ scenario ∈ self.scenarios, seen <+: scenario := by
  cases phase with
  | waiting slot =>
    cases slot with
    | primary =>
      obtain rfl : seen = [] := h
      exact ⟨_, mem_scenarios_completed, List.nil_prefix⟩
    | fallback =>
      obtain ⟨hsome, rfl⟩ := h
      exact ⟨_, mem_scenarios_fallback hsome [.unavailable .fallback] (by simp), by simp⟩
  | admitted slot =>
    cases slot with
    | primary =>
      obtain rfl : seen = [] := h
      exact ⟨_, mem_scenarios_completed, List.nil_prefix⟩
    | fallback =>
      obtain ⟨hsome, rfl⟩ := h
      exact ⟨_, mem_scenarios_fallback hsome [.unavailable .fallback] (by simp), by simp⟩
  | proving slot =>
    cases slot with
    | primary =>
      obtain rfl : seen = [.started .primary] := h
      exact ⟨_, mem_scenarios_completed, by simp⟩
    | fallback =>
      obtain ⟨hsome, rfl⟩ := h
      exact ⟨_, mem_scenarios_fallback hsome [.started .fallback, .completed .fallback] (by simp),
        by simp⟩
  | finished => exact h

/-- The phase a request has in front of an action about it. -/
def Acts (a : ExecutorAction) (phase : RequestPhase) : Prop :=
  match a with
  | .pollRequest _ _ => ∃ slot, phase = .waiting slot ∨ phase = .admitted slot
  | .complete _ => ∃ slot, phase = .proving slot
  | .fail _ => ∃ slot, phase = .proving slot
  | .timeout _ => ∃ slot, phase = .proving slot
  | _ => True

@[simp] theorem release_requests {p : ProverSlot} : (self.release s p).requests = s.requests := by
  unfold release
  cases self.limit p <;> rfl

theorem pollInner_requests {slot : ProverSlot} {inner : Readiness} {phase : RequestPhase}
    (hphase : phase = .waiting slot ∨ phase = .admitted slot) :
    (self.pollInner s r slot inner).requests =
      s.requests.set r (self.nextPhase (.pollRequest r inner) phase) := by
  rcases hphase with rfl | rfl <;> cases inner <;> simp [pollInner, nextPhase]

/-- **An action about a request** changes the phase of that request alone. -/
theorem step_request (hr : a.request = some r) (h : self.step s a = some s') :
    ∃ phase, s.requests[r]? = some phase ∧ Acts a phase ∧
      s'.requests = s.requests.set r (self.nextPhase a phase) := by
  have hend : ∀ {phase' : ProverSlot → RequestPhase},
      (∀ slot, phase' slot = self.nextPhase a (.proving slot)) → (∀ slot, Acts a (.proving slot)) →
      self.endProving s r phase' = some s' →
      ∃ phase, s.requests[r]? = some phase ∧ Acts a phase ∧
        s'.requests = s.requests.set r (self.nextPhase a phase) := by
    intro phase' hphase hacts hend
    unfold endProving at hend
    split at hend
    · next slot hslot =>
      obtain rfl := Option.some.inj hend
      refine ⟨.proving slot, hslot, hacts slot, ?_⟩
      rw [release_requests, hphase]
    · cases hend
  cases a with
  | pollRequest r' inner =>
    obtain rfl := Option.some.inj hr
    simp only [step] at h
    split at h
    · next slot hslot =>
      obtain ⟨t, htake, rfl⟩ := Option.map_eq_some_iff.mp h
      refine ⟨_, hslot, ⟨slot, Or.inl rfl⟩, ?_⟩
      rw [pollInner_requests (Or.inl rfl), (take_frame htake).2]
    · next slot hslot =>
      obtain rfl := Option.some.inj h
      exact ⟨_, hslot, ⟨slot, Or.inr rfl⟩, pollInner_requests (Or.inr rfl)⟩
    · cases h
  | complete r' =>
    obtain rfl := Option.some.inj hr
    exact hend (fun _ => rfl) (fun slot => ⟨slot, rfl⟩) h
  | fail r' =>
    obtain rfl := Option.some.inj hr
    exact hend (fun _ => rfl) (fun slot => ⟨slot, rfl⟩) h
  | timeout r' =>
    obtain rfl := Option.some.inj hr
    exact hend (fun _ => rfl) (fun slot => ⟨slot, rfl⟩) h
  | dropRequest r' =>
    obtain rfl := Option.some.inj hr
    simp only [step] at h
    split at h
    · next slot hslot =>
      obtain rfl := Option.some.inj h
      exact ⟨_, hslot, trivial, by simp [nextPhase]⟩
    · next slot hslot =>
      obtain rfl := Option.some.inj h
      exact ⟨_, hslot, trivial, by simp [nextPhase]⟩
    · next phase _ _ hslot =>
      obtain rfl := Option.some.inj h
      exact ⟨phase, hslot, trivial, rfl⟩
    · cases h
  | _ => cases hr

/-- Of the other actions, `call` appends a request and the rest leaves the requests alone. -/
theorem step_no_request (hr : a.request = none) (h : self.step s a = some s') :
    (∀ i, a ≠ .call i) ∧ s'.requests = s.requests ∨
      (∃ i, a = .call i) ∧ s'.requests = s.requests ++ [.waiting .primary] := by
  cases effect_of_step h with
  | clone _ => exact Or.inl ⟨nofun, rfl⟩
  | dropValue _ =>
    refine Or.inl ⟨nofun, ?_⟩
    unfold releaseValue
    split_ifs <;> simp
  | pollReady _ hpoll => exact Or.inl ⟨nofun, (pollReady_frame hpoll).requests⟩
  | call _ => exact Or.inr ⟨⟨_, rfl⟩, rfl⟩
  | acquire _ _ => cases hr
  | resume _ => cases hr
  | leave ha _ _ _ =>
    simp only [List.mem_cons, List.not_mem_nil, or_false] at ha
    rcases ha with rfl | rfl | rfl | rfl <;> cases hr
  | dropIdle _ _ => cases hr

/-! ### The attempts of a run -/

/-- A request that is polled in `ready`. -/
theorem tracks_poll {slot : ProverSlot} {phase : RequestPhase} {seen : List Attempt}
    {inner : Readiness} (hphase : phase = .waiting slot ∨ phase = .admitted slot)
    (h : self.Tracks phase seen) :
    self.Tracks (self.nextPhase (.pollRequest r inner) phase)
      (seen ++ (ExecutorAction.attempt (.pollRequest r inner) phase).toList) := by
  have hwaiting : self.Tracks (.waiting slot) seen := by
    rcases hphase with rfl | rfl
    · exact h
    · cases slot <;> exact h
  -- from here on the two phases are the same
  have hnext : self.nextPhase (.pollRequest r inner) phase =
        self.nextPhase (.pollRequest r inner) (.waiting slot) ∧
      ExecutorAction.attempt (.pollRequest r inner) phase =
        ExecutorAction.attempt (.pollRequest r inner) (.waiting slot) := by
    rcases hphase with rfl | rfl <;> cases inner <;> exact ⟨rfl, rfl⟩
  rw [hnext.1, hnext.2]
  cases slot with
  | primary =>
    obtain rfl : seen = [] := hwaiting
    cases inner with
    | ready => rfl
    | pending => rfl
    | failed => exact ⟨_, mem_scenarios_unavailable, List.prefix_refl _⟩
  | fallback =>
    obtain ⟨hsome, rfl⟩ := hwaiting
    cases inner with
    | ready => exact ⟨hsome, rfl⟩
    | pending => exact ⟨hsome, rfl⟩
    | failed =>
      exact ⟨_, mem_scenarios_fallback hsome [.unavailable .fallback] (by simp), List.prefix_refl _⟩

/-- A request whose prover has failed. -/
theorem tracks_failed {slot : ProverSlot} {seen : List Attempt}
    (h : self.Tracks (.proving slot) seen) :
    self.Tracks (self.afterFailure slot) (seen ++ [.failed slot]) := by
  cases slot with
  | primary =>
    obtain rfl : seen = [.started .primary] := h
    unfold afterFailure
    split_ifs with hsome
    · exact ⟨hsome, rfl⟩
    · refine ⟨[.started .primary, .failed .primary], ?_, List.prefix_refl _⟩
      simp [scenarios, hsome]
  | fallback =>
    obtain ⟨hsome, rfl⟩ := h
    exact ⟨_, mem_scenarios_fallback hsome [.started .fallback, .failed .fallback] (by simp),
      List.prefix_refl _⟩

theorem tracks_completed {slot : ProverSlot} {seen : List Attempt}
    (h : self.Tracks (.proving slot) seen) :
    self.Tracks .finished (seen ++ [.completed slot]) := by
  cases slot with
  | primary =>
    obtain rfl : seen = [.started .primary] := h
    exact ⟨_, mem_scenarios_completed, List.prefix_refl _⟩
  | fallback =>
    obtain ⟨hsome, rfl⟩ := h
    exact ⟨_, mem_scenarios_fallback hsome [.started .fallback, .completed .fallback] (by simp),
      List.prefix_refl _⟩

theorem tracks_step {phase : RequestPhase} {seen : List Attempt} (hr : a.request = some r)
    (hacts : Acts a phase) (h : self.Tracks phase seen) :
    self.Tracks (self.nextPhase a phase) (seen ++ (a.attempt phase).toList) := by
  cases a with
  | pollRequest r' inner =>
    obtain ⟨slot, hphase⟩ := hacts
    exact tracks_poll hphase h
  | complete r' =>
    obtain ⟨slot, rfl⟩ := hacts
    exact tracks_completed h
  | fail r' =>
    obtain ⟨slot, rfl⟩ := hacts
    exact tracks_failed h
  | timeout r' =>
    obtain ⟨slot, rfl⟩ := hacts
    exact tracks_failed h
  | dropRequest r' =>
    have hnone : ExecutorAction.attempt (.dropRequest r') phase = none := by cases phase <;> rfl
    rw [hnone, Option.toList_none, List.append_nil]
    exact h.scenario
  | _ => cases hr

/-- Each request is where its attempts have brought it. -/
def AllTracked (self : Provers) (o : Observed) : Prop :=
  ∀ r, match o.state.requests[r]? with
    | some phase => self.Tracks phase (o.seen r)
    | none => o.seen r = []

theorem allTracked_step {o o' : Observed} (h : self.observe o a = some o')
    (hinv : AllTracked self o) : AllTracked self o' := by
  obtain ⟨t, hstep, rfl⟩ := Option.map_eq_some_iff.mp h
  intro r
  have hr := hinv r
  cases hreq : a.request with
  | none =>
    simp only [reduceCtorEq, if_false, List.append_nil]
    rcases step_no_request hreq hstep with ⟨-, hsame⟩ | ⟨-, happend⟩
    · rw [hsame]
      exact hr
    · rw [happend]
      rcases Nat.lt_trichotomy r o.state.requests.length with hlt | rfl | hgt
      · rw [List.getElem?_append_left hlt]
        exact hr
      · rw [List.getElem?_eq_none (Nat.le_refl _)] at hr
        rw [List.getElem?_concat_length]
        exact hr
      · rw [List.getElem?_eq_none (Nat.le_of_lt hgt)] at hr
        rw [List.getElem?_eq_none (by simp; omega)]
        exact hr
  | some target =>
    obtain ⟨phase, hphase, hacts, hset⟩ := step_request hreq hstep
    by_cases htarget : target = r
    · subst htarget
      rw [hset, List.getElem?_set_self (List.getElem?_eq_some_iff.mp hphase).1]
      rw [hphase] at hr
      simp only [if_true, hphase, Option.bind_some]
      exact tracks_step hreq hacts hr
    · have hne : ¬ some target = some r := fun heq => htarget (Option.some.inj heq)
      rw [hset, List.getElem?_set_ne htarget]
      simp only [if_neg hne, List.append_nil]
      exact hr

/-- **The attempts of a request.**  In every run, however the requests are interleaved: what is seen
of a request is the beginning of one of the scenarios.  Each prover is started at most once for it,
the fallback only after the primary has failed, and nothing follows a completion. -/
theorem attempts_of_reaches {guard : Observed → ExecutorAction → Prop} {o : Observed}
    (hreach : Machine.Reaches self.observe guard self.observedInitial o) (r : ℕ) :
    ∃ scenario ∈ self.scenarios, o.seen r <+: scenario := by
  have hstart : AllTracked self self.observedInitial := by
    intro r
    rfl
  have hinv : AllTracked self o := hreach.invariant hstart fun _ _ _ _ hstep ht =>
    allTracked_step hstep ht
  have hr := hinv r
  cases hphase : o.state.requests[r]? with
  | none =>
    rw [hphase] at hr
    exact ⟨_, mem_scenarios_completed, hr ▸ List.nil_prefix⟩
  | some phase =>
    rw [hphase] at hr
    exact Tracks.scenario hr

end Request

end Provers

/-- The primary prover with two permits, and a network prover to fall back on. -/
def twoProvers : Provers := ⟨.localService 2, some .networkService⟩

/-- The primary runs into its timeout and the fallback completes the request. -/
theorem attempts_of_reaches_fallback : ∃ o,
    Machine.run twoProvers.observe twoProvers.observedInitial [.call 0, .pollRequest 0 .ready,
      .timeout 0, .pollRequest 0 .ready, .complete 0] = some o ∧
    o.seen 0 = [.started .primary, .failed .primary, .started .fallback, .completed .fallback] ∧
    ∃ scenario ∈ twoProvers.scenarios, o.seen 0 <+: scenario := by
  have hrun : Machine.run twoProvers.observe twoProvers.observedInitial [.call 0,
      .pollRequest 0 .ready, .timeout 0, .pollRequest 0 .ready, .complete 0] = some _ := rfl
  exact ⟨_, hrun, rfl, Provers.attempts_of_reaches (Machine.Reaches.of_run .start hrun) 0⟩

end Aggchain
