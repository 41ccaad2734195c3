import Aggchain.Lib.Machine
import Mathlib.Data.List.Nodup

/-!
# Aggchain.Host.Engine — `prover-engine`: the process around the services

`ProverEngine` collects the gRPC services of a prover and runs them next to a metrics server until
the process gets a signal.

* `Built.routes_eq_some_iff`: a server with these services can be started exactly when no two of them
  have the same name, and then each has its route.
* `ProverEngine.shutdown_of_reaches`: however the servers, the signals and the failures of `start`
  come, it returns only after both servers have ended; it leaves no server behind on any way out, and
  it can always be brought to return.
-/

namespace Aggchain

/-! ## The engine -/

/-- The services and runtimes the engine was given. -/
structure ProverEngine where
  /-- the routes of the `axum::Router` -/
  rpcServer : List String
  healthyService : List String
  hasRpcRuntime : Bool
  hasMetricsRuntime : Bool

/-- The route of a service. -/
def route (name : String) : String := "/" ++ name ++ "/\x7b*rest\x7d"

/-- `add_rpc_service`: the router panics at a route that it has. -/
def addRpcService (rpcServer : List String) (name : String) : Option (List String) :=
  if route name ∈ rpcServer then none else some (rpcServer ++ [route name])

/-- The services that `start` adds. -/
def builtinServices : List String :=
  ["grpc.reflection.v1.ServerReflection", "grpc.reflection.v1alpha.ServerReflection",
    "grpc.health.v1.Health"]

namespace ProverEngine

def new : ProverEngine := ⟨[], [], false, false⟩

def setRpcRuntime (self : ProverEngine) : ProverEngine := { self with hasRpcRuntime := true }

def setMetricsRuntime (self : ProverEngine) : ProverEngine := { self with hasMetricsRuntime := true }

def addRpcService (self : ProverEngine) (name : String) : Option ProverEngine :=
  (Aggchain.addRpcService self.rpcServer name).map (fun rpcServer =>
    { self with rpcServer, healthyService := self.healthyService ++ [name] })

/-- The router of the server. -/
def routes (self : ProverEngine) : Option (List String) :=
  builtinServices.foldlM Aggchain.addRpcService self.rpcServer

end ProverEngine

/-! ### Routes -/

theorem route_injective : Function.Injective route := by
  intro a b h
  unfold route at h
  exact (String.append_right_inj _).mp ((String.append_left_inj _).mp h)

/-- A list of services is added exactly when every route is new. -/
theorem foldlM_addRpcService {rpcServer routes : List String} (hnodup : rpcServer.Nodup)
    (names : List String) : names.foldlM addRpcService rpcServer = some routes ↔
      routes = rpcServer ++ names.map route ∧ routes.Nodup := by
  induction names generalizing rpcServer with
  | nil =>
    simp only [List.foldlM_nil, List.map_nil, List.append_nil]
    constructor
    · intro h
      obtain rfl := Option.some.inj h
      exact ⟨rfl, hnodup⟩
    · rintro ⟨rfl, -⟩
      rfl
  | cons name names ih =>
    have hassoc : rpcServer ++ (name :: names).map route =
        (rpcServer ++ [route name]) ++ names.map route := by simp
    rw [List.foldlM_cons, hassoc]
    by_cases hmem : route name ∈ rpcServer
    · rw [addRpcService, if_pos hmem]
      constructor
      · intro h
        cases h
      · rintro ⟨rfl, hroutes⟩
        have hdisjoint := (List.nodup_append.mp (List.nodup_append.mp hroutes).1).2.2
        exact absurd rfl (hdisjoint _ hmem _ (List.mem_singleton_self _))
    · rw [addRpcService, if_neg hmem]
      refine ih ?_
      rw [List.nodup_append]
      refine ⟨hnodup, List.nodup_singleton _, ?_⟩
      rintro a ha b hb rfl
      exact hmem (List.mem_singleton.mp hb ▸ ha)

namespace ProverEngine

/-- The services were added to a new engine, one after the other. -/
def Built (services : List String) (self : ProverEngine) : Prop :=
  self.rpcServer = services.map route ∧ self.rpcServer.Nodup ∧ self.healthyService = services

theorem built_new : Built [] new.setRpcRuntime.setMetricsRuntime := ⟨rfl, List.nodup_nil, rfl⟩

theorem Built.addRpcService {services : List String} {self self' : ProverEngine} {name : String}
    (hbuilt : Built services self) (h : self.addRpcService name = some self') :
    Built (services ++ [name]) self' := by
  obtain ⟨rpcServer, hadd, rfl⟩ := Option.map_eq_some_iff.mp h
  have hfold : [name].foldlM Aggchain.addRpcService self.rpcServer = some rpcServer := by
    rw [List.foldlM_cons, hadd]
    rfl
  obtain ⟨hrpc, hnodup⟩ := (foldlM_addRpcService hbuilt.2.1 [name]).mp hfold
  refine ⟨?_, hnodup, ?_⟩
  · rw [hrpc, hbuilt.1, List.map_append]
  · show self.healthyService ++ [name] = _
    rw [hbuilt.2.2]

/-- **Routing**: the server can be started exactly when no two services have the same name. -/
theorem Built.routes_eq_some_iff {services : List String} {self : ProverEngine}
    (hbuilt : Built services self) {routes : List String} : self.routes = some routes ↔
      routes = (services ++ builtinServices).map route ∧ (services ++ builtinServices).Nodup := by
  unfold ProverEngine.routes
  rw [foldlM_addRpcService hbuilt.2.1, hbuilt.1, ← List.map_append]
  constructor
  · rintro ⟨rfl, hnodup⟩
    exact ⟨rfl, (List.nodup_map_iff route_injective).mp hnodup⟩
  · rintro ⟨rfl, hnodup⟩
    exact ⟨rfl, (List.nodup_map_iff route_injective).mpr hnodup⟩

end ProverEngine

/-! ## `ProverEngine::start` -/

/-- The task of a server. -/
inductive ServerTask where
  | notSpawned
  | running
  /-- its future has completed -/
  | ended
  /-- dropped with its runtime -/
  | aborted
  deriving DecidableEq

/-- What `start` does next, or how it was left. -/
inductive EnginePhase where
  | buildMetricsRuntime
  | buildRpcRuntime
  | buildMetricsServer
  | bindRpc
  | buildReflection
  | addServices
  | buildSignalRuntime
  /-- in `select!` -/
  | waiting
  | awaitRpc
  | awaitMetrics
  | returned
  /-- returned an error -/
  | failed
  | panicked
  /-- by a signal that has no handler -/
  | killed
  deriving DecidableEq

inductive SignalKind where
  | terminate
  | interrupt
  deriving DecidableEq

structure EngineState where
  phase : EnginePhase
  /-- the cancellation token -/
  cancelled : Bool
  metrics : ServerTask
  rpc : ServerTask
  /-- the routes of the server -/
  routes : List String
  /-- the services whose health status is `Serving` -/
  serving : List String
  /-- the signals that have a handler -/
  handled : List SignalKind

inductive EngineAction where
  /-- the next operation of `start` succeeds -/
  | succeed
  | fail
  /-- the task that `start` waits for has ended -/
  | joined
  /-- the branch of the signal sets up its handler -/
  | setupHandler (kind : SignalKind)
  | setupFails (kind : SignalKind)
  /-- a signal, at the time that `start` notices it -/
  | signal (kind : SignalKind)
  /-- the server ends, because the token is cancelled or for another reason -/
  | metricsEnds
  | rpcEnds

/-- The runtime of the task is dropped. -/
def ServerTask.abort : ServerTask → ServerTask
  | .running => .aborted
  | task => task

/-- The locals of `start` are dropped: first the runtimes, and then the guard, which cancels the
token. -/
def EngineState.leave (s : EngineState) (phase : EnginePhase) : EngineState :=
  { s with phase, cancelled := true, metrics := s.metrics.abort, rpc := s.rpc.abort }

namespace ProverEngine

variable (self : ProverEngine) (s : EngineState)

/-- The next operation succeeds. -/
def succeed : Option EngineState :=
  match s.phase with
  | .buildMetricsRuntime => some { s with phase := .buildRpcRuntime }
  | .buildRpcRuntime => some { s with phase := .buildMetricsServer }
  | .buildMetricsServer => some { s with phase := .bindRpc, metrics := .running }
  | .bindRpc => some { s with phase := .buildReflection }
  | .buildReflection => some { s with phase := .addServices }
  | .addServices =>
    match self.routes with
    | some routes => some { s with
        phase := .buildSignalRuntime, routes, serving := self.healthyService, rpc := .running }
    | none => some (s.leave .panicked)
  | .buildSignalRuntime => some { s with phase := .waiting }
  | _ => none

/-- The next operation fails; a runtime that was set is not built. -/
def fail : Option EngineState :=
  match s.phase with
  | .buildMetricsRuntime => if self.hasMetricsRuntime then none else some (s.leave .failed)
  | .buildRpcRuntime => if self.hasRpcRuntime then none else some (s.leave .failed)
  | .buildMetricsServer => some (s.leave .failed)
  | .bindRpc => some (s.leave .failed)
  | .buildReflection => some (s.leave .failed)
  | .buildSignalRuntime => some (s.leave .failed)
  | _ => none

/-- A branch of `select!` has completed. -/
def shutDown : EngineState := { s with phase := .awaitRpc, cancelled := true }

def setupHandler (kind : SignalKind) : Option EngineState :=
  if s.phase = .waiting ∧ kind ∉ s.handled then
    some { s with handled := kind :: s.handled }
  else none

def setupFails (kind : SignalKind) : Option EngineState :=
  if s.phase = .waiting ∧ kind ∉ s.handled then
    match kind with
    -- `expect("Fail to setup SIGTERM signal")`
    | .terminate => some (s.leave .panicked)
    -- the error of `ctrl_c` is not looked at
    | .interrupt => some (shutDown s)
  else none

/-- A signal without a handler ends the process; one with a handler is ignored after the first. -/
def signal (kind : SignalKind) : Option EngineState :=
  match s.phase with
  | .returned => none
  | .failed => none
  | .panicked => none
  | .killed => none
  | phase =>
    if kind ∈ s.handled then
      if phase = .waiting then some (shutDown s) else some s
    else some { s with phase := .killed, metrics := s.metrics.abort, rpc := s.rpc.abort }

def joined : Option EngineState :=
  match s.phase with
  | .awaitRpc => if s.rpc = .ended then some { s with phase := .awaitMetrics } else none
  -- what is left are the two `shutdown_timeout`s
  | .awaitMetrics => if s.metrics = .ended then some (s.leave .returned) else none
  | _ => none

def step : EngineAction → Option EngineState
  | .succeed => self.succeed s
  | .fail => self.fail s
  | .joined => joined s
  | .setupHandler kind => setupHandler s kind
  | .setupFails kind => setupFails s kind
  | .signal kind => signal s kind
  | .metricsEnds => if s.metrics = .running then some { s with metrics := .ended } else none
  | .rpcEnds => if s.rpc = .running then some { s with rpc := .ended } else none

def initial : EngineState := ⟨.buildMetricsRuntime, false, .notSpawned, .notSpawned, [], [], []⟩

end ProverEngine

/-! ### The invariant -/

/-- `start` is no longer running. -/
def EnginePhase.Left (phase : EnginePhase) : Prop :=
  phase = .returned ∨ phase = .failed ∨ phase = .panicked ∨ phase = .killed

/-- The server was spawned and has not been dropped. -/
def ServerTask.Spawned (task : ServerTask) : Prop := task = .running ∨ task = .ended

/-- What holds in each phase. -/
def EngineState.PhaseSound (s : EngineState) : Prop :=
  match s.phase with
  | .buildMetricsRuntime => s.cancelled = false ∧ s.metrics = .notSpawned ∧ s.rpc = .notSpawned
  | .buildRpcRuntime => s.cancelled = false ∧ s.metrics = .notSpawned ∧ s.rpc = .notSpawned
  | .buildMetricsServer => s.cancelled = false ∧ s.metrics = .notSpawned ∧ s.rpc = .notSpawned
  | .bindRpc => s.cancelled = false ∧ s.metrics.Spawned ∧ s.rpc = .notSpawned
  | .buildReflection => s.cancelled = false ∧ s.metrics.Spawned ∧ s.rpc = .notSpawned
  | .addServices => s.cancelled = false ∧ s.metrics.Spawned ∧ s.rpc = .notSpawned
  | .buildSignalRuntime => s.cancelled = false ∧ s.metrics.Spawned ∧ s.rpc.Spawned
  | .waiting => s.cancelled = false ∧ s.metrics.Spawned ∧ s.rpc.Spawned
  | .awaitRpc => s.cancelled = true ∧ s.metrics.Spawned ∧ s.rpc.Spawned
  | .awaitMetrics => s.cancelled = true ∧ s.metrics.Spawned ∧ s.rpc = .ended
  | .returned => s.cancelled = true ∧ s.metrics = .ended ∧ s.rpc = .ended
  | .failed => s.cancelled = true ∧ s.metrics ≠ .running ∧ s.rpc ≠ .running
  | .panicked => s.cancelled = true ∧ s.metrics ≠ .running ∧ s.rpc ≠ .running
  | .killed => s.metrics ≠ .running ∧ s.rpc ≠ .running

namespace ProverEngine

/-- The RPC server comes after the metrics server, with its routes and statuses. -/
def Served (self : ProverEngine) (s : EngineState) : Prop :=
  s.rpc ≠ .notSpawned → s.metrics ≠ .notSpawned ∧ self.routes = some s.routes ∧
    s.serving = self.healthyService

variable {self : ProverEngine} {s t : EngineState}

theorem abort_ne_running (task : ServerTask) : task.abort ≠ .running := by
  cases task <;> simp [ServerTask.abort]

theorem abort_eq_notSpawned {task : ServerTask} : task.abort = .notSpawned ↔ task = .notSpawned := by
  cases task <;> simp [ServerTask.abort]

theorem abort_ended {task : ServerTask} (h : task = .ended) : task.abort = .ended := by
  rw [h]
  rfl

/-! ### Steps -/

theorem phaseSound_succeed (h : self.succeed s = some t) (hs : s.PhaseSound) : t.PhaseSound := by
  unfold EngineState.PhaseSound at hs
  unfold succeed at h
  split at h
  · next hphase =>
    obtain rfl := Option.some.inj h
    rw [hphase] at hs
    exact hs
  · next hphase =>
    obtain rfl := Option.some.inj h
    rw [hphase] at hs
    exact hs
  · next hphase =>
    obtain rfl := Option.some.inj h
    rw [hphase] at hs
    exact ⟨hs.1, Or.inl rfl, hs.2.2⟩
  · next hphase =>
    obtain rfl := Option.some.inj h
    rw [hphase] at hs
    exact hs
  · next hphase =>
    obtain rfl := Option.some.inj h
    rw [hphase] at hs
    exact hs
  · next hphase =>
    rw [hphase] at hs
    split at h
    · obtain rfl := Option.some.inj h
      exact ⟨hs.1, hs.2.1, Or.inl rfl⟩
    · obtain rfl := Option.some.inj h
      exact ⟨rfl, abort_ne_running _, abort_ne_running _⟩
  · next hphase =>
    obtain rfl := Option.some.inj h
    rw [hphase] at hs
    exact hs
  · cases h

/-- An operation that fails ends `start`. -/
theorem fail_eq_some (h : self.fail s = some t) : t = s.leave .failed := by
  unfold fail at h
  split at h
  · split_ifs at h
    exact (Option.some.inj h).symm
  · split_ifs at h
    exact (Option.some.inj h).symm
  · exact (Option.some.inj h).symm
  · exact (Option.some.inj h).symm
  · exact (Option.some.inj h).symm
  · exact (Option.some.inj h).symm
  · cases h

theorem setupHandler_eq_some {kind : SignalKind} (h : setupHandler s kind = some t) :
    s.phase = .waiting ∧ kind ∉ s.handled ∧ t = { s with handled := kind :: s.handled } := by
  unfold setupHandler at h
  split_ifs at h with hphase
  exact ⟨hphase.1, hphase.2, (Option.some.inj h).symm⟩

theorem setupFails_eq_some {kind : SignalKind} (h : setupFails s kind = some t) :
    s.phase = .waiting ∧ kind ∉ s.handled ∧ (t = s.leave .panicked ∨ t = shutDown s) := by
  unfold setupFails at h
  split_ifs at h with hphase
  refine ⟨hphase.1, hphase.2, ?_⟩
  cases kind with
  | terminate => exact Or.inl (Option.some.inj h).symm
  | interrupt => exact Or.inr (Option.some.inj h).symm

/-- A signal kills the process, ends the wait, or is ignored. -/
theorem signal_eq_some {kind : SignalKind} (h : signal s kind = some t) :
    (kind ∉ s.handled ∧
      t = { s with phase := .killed, metrics := s.metrics.abort, rpc := s.rpc.abort }) ∨
    (kind ∈ s.handled ∧ s.phase = .waiting ∧ t = shutDown s) ∨ (kind ∈ s.handled ∧ t = s) := by
  unfold signal at h
  split at h
  · cases h
  · cases h
  · cases h
  · cases h
  · split_ifs at h with hhandled hphase
    · exact Or.inr (Or.inl ⟨hhandled, hphase, (Option.some.inj h).symm⟩)
    · exact Or.inr (Or.inr ⟨hhandled, (Option.some.inj h).symm⟩)
    · exact Or.inl ⟨hhandled, (Option.some.inj h).symm⟩

theorem phaseSound_shutDown (hphase : s.phase = .waiting) (hs : s.PhaseSound) :
    (shutDown s).PhaseSound := by
  unfold EngineState.PhaseSound at hs
  rw [hphase] at hs
  exact ⟨rfl, hs.2⟩

theorem phaseSound_joined (h : joined s = some t) (hs : s.PhaseSound) : t.PhaseSound := by
  unfold joined at h
  unfold EngineState.PhaseSound at hs
  split at h
  · next hphase =>
    rw [hphase] at hs
    split_ifs at h with hrpc
    obtain rfl := Option.some.inj h
    exact ⟨hs.1, hs.2.1, hrpc⟩
  · next hphase =>
    rw [hphase] at hs
    split_ifs at h with hmetrics
    obtain rfl := Option.some.inj h
    exact ⟨rfl, abort_ended hmetrics, abort_ended hs.2.2⟩
  · cases h

theorem phaseSound_metricsEnds (hrunning : s.metrics = .running) (hs : s.PhaseSound) :
    EngineState.PhaseSound { s with metrics := .ended } := by
  unfold EngineState.PhaseSound at hs ⊢
  cases hphase : s.phase <;> simp_all [ServerTask.Spawned]

theorem phaseSound_rpcEnds (hrunning : s.rpc = .running) (hs : s.PhaseSound) :
    EngineState.PhaseSound { s with rpc := .ended } := by
  unfold EngineState.PhaseSound at hs ⊢
  cases hphase : s.phase <;> simp_all [ServerTask.Spawned]

theorem phaseSound_step {a : EngineAction} (h : self.step s a = some t) (hs : s.PhaseSound) :
    t.PhaseSound := by
  cases a with
  | succeed => exact phaseSound_succeed h hs
  | fail =>
    obtain rfl := fail_eq_some h
    exact ⟨rfl, abort_ne_running _, abort_ne_running _⟩
  | joined => exact phaseSound_joined h hs
  | setupHandler kind =>
    obtain ⟨-, -, rfl⟩ := setupHandler_eq_some h
    exact hs
  | setupFails kind =>
    obtain ⟨hphase, -, rfl | rfl⟩ := setupFails_eq_some h
    · exact ⟨rfl, abort_ne_running _, abort_ne_running _⟩
    · exact phaseSound_shutDown hphase hs
  | signal kind =>
    obtain ⟨-, rfl⟩ | ⟨-, hphase, rfl⟩ | ⟨-, rfl⟩ := signal_eq_some h
    · exact ⟨abort_ne_running _, abort_ne_running _⟩
    · exact phaseSound_shutDown hphase hs
    · exact hs
  | metricsEnds =>
    simp only [step, Option.ite_none_right_eq_some, Option.some.injEq] at h
    obtain ⟨hrunning, rfl⟩ := h
    exact phaseSound_metricsEnds hrunning hs
  | rpcEnds =>
    simp only [step, Option.ite_none_right_eq_some, Option.some.injEq] at h
    obtain ⟨hrunning, rfl⟩ := h
    exact phaseSound_rpcEnds hrunning hs

/-- Leaving `start` changes nothing about what was served. -/
theorem Served.abort (hserved : self.Served s) {cancelled : Bool} {phase : EnginePhase} :
    self.Served { s with phase, cancelled, metrics := s.metrics.abort, rpc := s.rpc.abort } := by
  intro hspawned
  obtain ⟨hmetrics, hrest⟩ := hserved (fun hrpc => hspawned (abort_eq_notSpawned.mpr hrpc))
  exact ⟨fun h => hmetrics (abort_eq_notSpawned.mp h), hrest⟩

theorem served_step {a : EngineAction} (h : self.step s a = some t) (hs : s.PhaseSound)
    (hserved : self.Served s) : self.Served t := by
  cases a with
  | succeed =>
    simp only [step, succeed] at h
    split at h
    · obtain rfl := Option.some.inj h
      exact hserved
    · obtain rfl := Option.some.inj h
      exact hserved
    · obtain rfl := Option.some.inj h
      exact fun hspawned => ⟨nofun, (hserved hspawned).2⟩
    · obtain rfl := Option.some.inj h
      exact hserved
    · obtain rfl := Option.some.inj h
      exact hserved
    · next hphase =>
      split at h
      · next routes hroutes =>
        obtain rfl := Option.some.inj h
        unfold EngineState.PhaseSound at hs
        rw [hphase] at hs
        refine fun _ => ⟨?_, hroutes, rfl⟩
        intro hnot
        rcases hs.2.1 with hrunning | hended
        · exact nomatch hrunning.symm.trans hnot
        · exact nomatch hended.symm.trans hnot
      · obtain rfl := Option.some.inj h
        exact hserved.abort
    · obtain rfl := Option.some.inj h
      exact hserved
    · cases h
  | fail =>
    obtain rfl := fail_eq_some h
    exact hserved.abort
  | joined =>
    simp only [step, joined] at h
    split at h
    · split_ifs at h
      obtain rfl := Option.some.inj h
      exact hserved
    · split_ifs at h
      obtain rfl := Option.some.inj h
      exact hserved.abort
    · cases h
  | setupHandler kind =>
    obtain ⟨-, -, rfl⟩ := setupHandler_eq_some h
    exact hserved
  | setupFails kind =>
    obtain ⟨-, -, rfl | rfl⟩ := setupFails_eq_some h
    · exact hserved.abort
    · exact hserved
  | signal kind =>
    obtain ⟨-, rfl⟩ | ⟨-, -, rfl⟩ | ⟨-, rfl⟩ := signal_eq_some h
    · exact hserved.abort
    · exact hserved
    · exact hserved
  | metricsEnds =>
    simp only [step, Option.ite_none_right_eq_some, Option.some.injEq] at h
    obtain ⟨-, rfl⟩ := h
    exact fun hspawned => ⟨nofun, (hserved hspawned).2⟩
  | rpcEnds =>
    simp only [step, Option.ite_none_right_eq_some, Option.some.injEq] at h
    obtain ⟨hrunning, rfl⟩ := h
    exact fun _ => hserved (fun hnot => nomatch hrunning.symm.trans hnot)

/-! ### Signals -/

/-- Once both signals have their handlers, nothing but the shutdown is left. -/
def Graceful (s : EngineState) : Prop :=
  (∀ kind, kind ∈ s.handled) →
    s.phase = .waiting ∨ s.phase = .awaitRpc ∨ s.phase = .awaitMetrics ∨ s.phase = .returned

/-- The operations before the wait. -/
theorem operation_phase (h : self.succeed s = some t ∨ self.fail s = some t) :
    t.handled = s.handled ∧ s.phase ≠ .waiting ∧ s.phase ≠ .awaitRpc ∧ s.phase ≠ .awaitMetrics ∧
      s.phase ≠ .returned := by
  grind [succeed, fail, EngineState.leave]

theorem graceful_step {a : EngineAction} (h : self.step s a = some t) (hs : Graceful s) :
    Graceful t := by
  intro hall
  cases a with
  | succeed =>
    obtain ⟨hhandled, hphase⟩ := operation_phase (Or.inl h)
    rw [hhandled] at hall
    exact absurd (hs hall) (by simpa [not_or] using hphase)
  | fail =>
    obtain ⟨hhandled, hphase⟩ := operation_phase (Or.inr h)
    rw [hhandled] at hall
    exact absurd (hs hall) (by simpa [not_or] using hphase)
  | joined =>
    simp only [step, joined] at h
    split at h
    · split_ifs at h
      obtain rfl := Option.some.inj h
      exact Or.inr (Or.inr (Or.inl rfl))
    · split_ifs at h
      obtain rfl := Option.some.inj h
      exact Or.inr (Or.inr (Or.inr rfl))
    · cases h
  | setupHandler kind =>
    obtain ⟨hphase, -, rfl⟩ := setupHandler_eq_some h
    exact Or.inl hphase
  | setupFails kind =>
    obtain ⟨-, hunhandled, rfl | rfl⟩ := setupFails_eq_some h
    · exact absurd (hall kind) hunhandled
    · exact absurd (hall kind) hunhandled
  | signal kind =>
    obtain ⟨hunhandled, rfl⟩ | ⟨-, -, rfl⟩ | ⟨-, rfl⟩ := signal_eq_some h
    · exact absurd (hall kind) hunhandled
    · exact Or.inr (Or.inl rfl)
    · exact hs hall
  | metricsEnds =>
    simp only [step, Option.ite_none_right_eq_some, Option.some.injEq] at h
    obtain ⟨-, rfl⟩ := h
    exact hs hall
  | rpcEnds =>
    simp only [step, Option.ite_none_right_eq_some, Option.some.injEq] at h
    obtain ⟨-, rfl⟩ := h
    exact hs hall

/-! ### Returning -/

/-- What is left to do. -/
def phaseRank : EnginePhase → ℕ
  | .buildMetricsRuntime => 10
  | .buildRpcRuntime => 9
  | .buildMetricsServer => 8
  | .bindRpc => 7
  | .buildReflection => 6
  | .addServices => 5
  | .buildSignalRuntime => 4
  | .waiting => 3
  | .awaitRpc => 2
  | .awaitMetrics => 1
  | _ => 0

def taskRank (task : ServerTask) : ℕ := if task = .running then 1 else 0

def handlerRank (s : EngineState) : ℕ := if .terminate ∈ s.handled then 0 else 1

def rank (s : EngineState) : ℕ :=
  4 * phaseRank s.phase + taskRank s.metrics + taskRank s.rpc + handlerRank s

/-- There is a next step towards the return. -/
theorem exists_step (hroutes : self.routes.isSome = true) (hs : s.PhaseSound)
    (hleft : ¬ s.phase.Left) :
    ∃ a t, self.step s a = some t ∧ (t.phase.Left → t.phase = .returned) ∧ rank t < rank s := by
  obtain ⟨routes, hroutes⟩ := Option.isSome_iff_exists.mp hroutes
  have htask : ∀ task, taskRank task ≤ 1 := by
    intro task
    unfold taskRank
    split_ifs <;> omega
  have hhandler : ∀ t, handlerRank t ≤ 1 := by
    intro t
    unfold handlerRank
    split_ifs <;> omega
  have hrank : ∀ {t : EngineState}, phaseRank t.phase < phaseRank s.phase → rank t < rank s := by
    intro t hphase
    have hmetrics := htask t.metrics
    have hrpc := htask t.rpc
    have hterminate := hhandler t
    unfold rank
    omega
  obtain ⟨phase, cancelled, metrics, rpc, routes', serving, handled⟩ := s
  cases phase with
  | buildMetricsRuntime =>
    exact ⟨.succeed, _, rfl, by simp [EnginePhase.Left], hrank (by simp [phaseRank])⟩
  | buildRpcRuntime =>
    exact ⟨.succeed, _, rfl, by simp [EnginePhase.Left], hrank (by simp [phaseRank])⟩
  | buildMetricsServer =>
    exact ⟨.succeed, _, rfl, by simp [EnginePhase.Left], hrank (by simp [phaseRank])⟩
  | bindRpc =>
    exact ⟨.succeed, _, rfl, by simp [EnginePhase.Left], hrank (by simp [phaseRank])⟩
  | buildReflection =>
    exact ⟨.succeed, _, rfl, by simp [EnginePhase.Left], hrank (by simp [phaseRank])⟩
  | addServices =>
    refine ⟨.succeed, ⟨.buildSignalRuntime, cancelled, metrics, .running, routes,
      self.healthyService, handled⟩, ?_, by simp [EnginePhase.Left], hrank (by simp [phaseRank])⟩
    simp only [step, succeed, hroutes]
  | buildSignalRuntime =>
    exact ⟨.succeed, _, rfl, by simp [EnginePhase.Left], hrank (by simp [phaseRank])⟩
  | waiting =>
    by_cases hhandled : .terminate ∈ handled
    · refine ⟨.signal .terminate, ⟨.awaitRpc, true, metrics, rpc, routes', serving, handled⟩, ?_,
        by simp [EnginePhase.Left], hrank (by simp [phaseRank])⟩
      simp [step, signal, hhandled, shutDown]
    · refine ⟨.setupHandler .terminate, ⟨.waiting, cancelled, metrics, rpc, routes', serving,
        .terminate :: handled⟩, ?_, by simp [EnginePhase.Left], ?_⟩
      · simp [step, setupHandler, hhandled]
      · simp [rank, handlerRank, hhandled]
  | awaitRpc =>
    rcases hs.2.2 with hrunning | hended
    · obtain rfl : rpc = .running := hrunning
      refine ⟨.rpcEnds, _, rfl, by simp [EnginePhase.Left], ?_⟩
      simp [rank, taskRank, handlerRank]
    · obtain rfl : rpc = .ended := hended
      exact ⟨.joined, _, rfl, by simp [EnginePhase.Left], hrank (by simp [phaseRank])⟩
  | awaitMetrics =>
    rcases hs.2.1 with hrunning | hended
    · obtain rfl : metrics = .running := hrunning
      refine ⟨.metricsEnds, _, rfl, by simp [EnginePhase.Left], ?_⟩
      simp [rank, taskRank, handlerRank]
    · obtain rfl : metrics = .ended := hended
      exact ⟨.joined, _, rfl, fun _ => rfl, hrank (by simp [EngineState.leave, phaseRank])⟩
  | returned => exact absurd (Or.inl rfl) hleft
  | failed => exact absurd (Or.inr (Or.inl rfl)) hleft
  | panicked => exact absurd (Or.inr (Or.inr (Or.inl rfl))) hleft
  | killed => exact absurd (Or.inr (Or.inr (Or.inr rfl))) hleft

theorem exists_return (hroutes : self.routes.isSome = true) (hs : s.PhaseSound)
    (hleft : ¬ s.phase.Left) :
    ∃ actions t, Machine.run self.step s actions = some t ∧ t.phase = .returned := by
  let Inv (s : EngineState) : Prop := s.PhaseSound ∧ (s.phase.Left → s.phase = .returned)
  have hprogress : ∀ s, Inv s → ¬ s.phase = .returned →
      ∃ a t, self.step s a = some t ∧ Inv t ∧ rank t < rank s := by
    rintro s ⟨hs, hreturned⟩ hfinal
    obtain ⟨a, t, hstep, hleft, hrank⟩ := exists_step hroutes hs (fun h => hfinal (hreturned h))
    exact ⟨a, t, hstep, ⟨phaseSound_step hstep hs, hleft⟩, hrank⟩
  exact Machine.exists_run_final rank hprogress ⟨hs, fun h => absurd h hleft⟩

/-- Only a signal ends the wait, or that it cannot be waited for. -/
theorem waiting_step {a : EngineAction} (hwaiting : s.phase = .waiting)
    (h : self.step s a = some t) (hphase : t.phase ≠ .waiting) :
    ∃ kind, a = .signal kind ∨ (a = .setupFails kind ∧ kind ∉ s.handled) := by
  cases a with
  | succeed => simp [step, succeed, hwaiting] at h
  | fail => simp [step, fail, hwaiting] at h
  | joined => simp [step, joined, hwaiting] at h
  | setupHandler kind =>
    obtain ⟨-, -, rfl⟩ := setupHandler_eq_some h
    exact absurd hwaiting hphase
  | setupFails kind => exact ⟨kind, Or.inr ⟨rfl, (setupFails_eq_some h).2.1⟩⟩
  | signal kind => exact ⟨kind, Or.inl rfl⟩
  | metricsEnds =>
    simp only [step, Option.ite_none_right_eq_some, Option.some.injEq] at h
    obtain ⟨-, rfl⟩ := h
    exact absurd hwaiting hphase
  | rpcEnds =>
    simp only [step, Option.ite_none_right_eq_some, Option.some.injEq] at h
    obtain ⟨-, rfl⟩ := h
    exact absurd hwaiting hphase

/-- **Runs of the engine**, for the services it was given and with a token that nobody else holds.
However its operations, the servers and the signals interleave: it returns only with the token
cancelled and both servers ended, and on every other way out no server is left running; the token is
not cancelled before the wait has ended; a server that ends by itself does not end the wait, only a
signal does or one whose handler cannot be set up; once both signals have their handlers, the
graceful shutdown is the only way out; a server that was spawned has a route for every service, no
two of the same name, and the ones that were added are reported as serving; and unless it was left it
can still be brought to return, if the names of the services are distinct. -/
theorem shutdown_of_reaches {services : List String} (hbuilt : Built services self)
    {guard : EngineState → EngineAction → Prop}
    (hreach : Machine.Reaches self.step guard initial s) :
    (s.phase = .returned → s.cancelled = true ∧ s.rpc = .ended ∧ s.metrics = .ended) ∧
    (s.phase.Left → s.rpc ≠ .running ∧ s.metrics ≠ .running) ∧
    (s.cancelled = true → s.phase = .awaitRpc ∨ s.phase = .awaitMetrics ∨ s.phase.Left) ∧
    (s.phase = .waiting → ∀ a t, self.step s a = some t → t.phase ≠ .waiting →
      ∃ kind, a = .signal kind ∨ (a = .setupFails kind ∧ kind ∉ s.handled)) ∧
    ((∀ kind, kind ∈ s.handled) → s.phase = .waiting ∨ s.phase = .awaitRpc ∨
      s.phase = .awaitMetrics ∨ s.phase = .returned) ∧
    (s.rpc ≠ .notSpawned → s.metrics ≠ .notSpawned ∧ s.serving = services ∧
      s.routes = (services ++ builtinServices).map route ∧ (services ++ builtinServices).Nodup) ∧
    (¬ s.phase.Left → (services ++ builtinServices).Nodup →
      ∃ actions t, Machine.run self.step s actions = some t ∧ t.phase = .returned) := by
  let Inv (s : EngineState) : Prop := s.PhaseSound ∧ self.Served s ∧ Graceful s
  have hstart : Inv initial :=
    ⟨⟨rfl, rfl, rfl⟩, fun h => absurd rfl h, fun h => nomatch h .terminate⟩
  have hinv : Inv s := hreach.invariant hstart fun _ _ _ _ hstep hs =>
    ⟨phaseSound_step hstep hs.1, served_step hstep hs.1 hs.2.1, graceful_step hstep hs.2.2⟩
  obtain ⟨hs, hserved, hgraceful⟩ := hinv
  have hs' := hs
  unfold EngineState.PhaseSound at hs'
  refine ⟨?_, ?_, ?_, fun hwaiting _ _ => waiting_step hwaiting, hgraceful, ?_, ?_⟩
  · intro hphase
    rw [hphase] at hs'
    exact ⟨hs'.1, hs'.2.2, hs'.2.1⟩
  · rintro (hphase | hphase | hphase | hphase)
    · rw [hphase] at hs'
      exact ⟨by rw [hs'.2.2]; nofun, by rw [hs'.2.1]; nofun⟩
    · rw [hphase] at hs'
      exact hs'.2.symm
    · rw [hphase] at hs'
      exact hs'.2.symm
    · rw [hphase] at hs'
      exact hs'.symm
  · intro hcancelled
    cases hphase : s.phase <;> simp_all [EnginePhase.Left]
  · intro hspawned
    obtain ⟨hmetrics, hroutes, hserving⟩ := hserved hspawned
    obtain ⟨heq, hnodup⟩ := hbuilt.routes_eq_some_iff.mp hroutes
    exact ⟨hmetrics, hserving.trans hbuilt.2.2, heq, hnodup⟩
  · intro hleft hnodup
    refine exists_return ?_ hs hleft
    rw [hbuilt.routes_eq_some_iff.mpr ⟨rfl, hnodup⟩]
    rfl

end ProverEngine

/-- The engine of `aggkit-prover`. -/
def aggkitEngine : ProverEngine :=
  ⟨[route "aggkit.prover.v1.AggchainProofService"], ["aggkit.prover.v1.AggchainProofService"], true,
    true⟩

/-- The RPC server ends by itself, and a signal ends the engine. -/
theorem shutdown_of_reaches_serverEnded : ∃ s,
    ProverEngine.new.setRpcRuntime.setMetricsRuntime.addRpcService
      "aggkit.prover.v1.AggchainProofService" = some aggkitEngine ∧
    Machine.run aggkitEngine.step ProverEngine.initial [.succeed, .succeed, .succeed, .succeed,
      .succeed, .succeed, .succeed, .setupHandler .interrupt, .setupHandler .terminate, .rpcEnds,
      .signal .terminate, .signal .interrupt, .metricsEnds, .joined, .joined] = some s ∧
    s.phase = .returned ∧ s.cancelled = true ∧ s.rpc = .ended ∧ s.metrics = .ended := by
  have hbuilt : ProverEngine.Built ["aggkit.prover.v1.AggchainProofService"] aggkitEngine :=
    ProverEngine.built_new.addRpcService rfl
  have hrun : Machine.run aggkitEngine.step ProverEngine.initial [.succeed, .succeed, .succeed,
      .succeed, .succeed, .succeed, .succeed, .setupHandler .interrupt, .setupHandler .terminate,
      .rpcEnds, .signal .terminate, .signal .interrupt, .metricsEnds, .joined, .joined] = some _ :=
    rfl
  have hreach := Machine.Reaches.of_run .start hrun
  exact ⟨_, rfl, hrun, rfl, (ProverEngine.shutdown_of_reaches hbuilt hreach).1 rfl⟩

end Aggchain
