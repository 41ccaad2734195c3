import Aggchain.Host.Config
import Aggchain.Host.ExecutorRuns
import Aggchain.Host.ProverError

/-!
# Aggchain.Host.ProverService — the services behind an executor

`LocalExecutor` and `NetworkExecutor` run the SP1 SDK, which may fail and may panic, and verify what
it returns; `Executor` tries the one it was created with as primary and falls back on the other.

* `ProverService.call_ok_iff`, `ProverService.call_error_iff`: when a service succeeds, and the
  reason of each of its errors.
* `Executor.new_ok`: which keys the services of an executor have.
* `Executor.call`: what becomes of a request, by how the proving ends at either prover.
-/

namespace Aggchain

/-! ## Calls into the SP1 SDK (`prover-executor/src/utils.rs`) -/

/-- What a panic carries. -/
inductive PanicPayload where
  | string (message : String)
  | str (message : String)
  | other
  deriving DecidableEq

/-- `Sp1PanicError::from` -/
def PanicPayload.message : PanicPayload → String
  | .string message => message
  | .str message => message
  | .other => "<unknown message type>"

/-- A call into the SDK returns or panics. -/
abbrev Sp1Call (α : Type) := Except PanicPayload α

/-- `sp1_fast`, and also `sp1_blocking` and `sp1_async`: the panic is caught. -/
def sp1Fast {α : Type} (f : Sp1Call α) : Except Report α :=
  f.mapError (fun payload => "Panic occurred during SP1 call: " ++ payload.message)

/-- `Duration + Duration` panics beyond the largest one. -/
def Duration.add (a b : Duration) : Sp1Call Duration :=
  let nanos := a.nanos.toNat + b.nanos.toNat
  let secs := a.secs.toNat + b.secs.toNat + nanos / 1000000000
  if secs < 2 ^ 64 then
    .ok ⟨UInt64.ofNat secs, UInt32.ofNat (nanos % 1000000000), by
      rw [UInt32.toNat_ofNat']
      exact Nat.lt_of_le_of_lt (Nat.mod_le _ _) (Nat.mod_lt _ (by decide))⟩
  else .error (.str "overflow when adding durations")

/-- `get_proving_request_timeout` of the three configurations: the proving timeout and a second of
padding, unless it is set. -/
def getProvingRequestTimeout (provingRequestTimeout : Option Duration) (provingTimeout : Duration) :
    Sp1Call Duration :=
  match provingRequestTimeout with
  | some timeout => .ok timeout
  | none => provingTimeout.add (.fromSecs 1)

/-! ## The SDK -/

inductive ProofType where
  | stark
  | plonk
  deriving DecidableEq

/-- The mode that is set on a proof request. -/
def ProofType.mode : ProofType → SP1ProofMode
  | .plonk => .plonk
  | .stark => .compressed

/-- The clients of the SDK. -/
inductive Sp1Client (T : ConfigTexts) where
  | network (rpcUrl : T.Url)
  | cpu
  | mock

structure Sp1Sdk (T : ConfigTexts) where
  Stdin : Type
  /-- `SP1ProofWithPublicValues` -/
  Proof : Type
  ProvingKey : Type
  VerifyingKey : Type
  /-- build the client and set up a program -/
  setup : Sp1Client T → List UInt8 → Sp1Call (ProvingKey × VerifyingKey)
  verify : Sp1Client T → Proof → VerifyingKey → Sp1Call (Except SP1VerificationError Unit)

section Services

variable {T : ConfigTexts} (K : Sp1Sdk T)

/-- `prover_executor::Request` -/
structure ProverRequest where
  stdin : K.Stdin
  proofType : ProofType

/-- What a client is asked to prove. -/
structure Sp1ProofRequest where
  client : Sp1Client T
  provingKey : K.ProvingKey
  stdin : K.Stdin
  mode : SP1ProofMode
  deferredProofVerification : Bool
  timeout : Option Duration
  /-- `FulfillmentStrategy::Hosted` -/
  hosted : Bool

structure LocalExecutor where
  provingKey : K.ProvingKey
  verificationKey : K.VerifyingKey
  isMock : Bool

structure NetworkExecutor where
  rpcUrl : T.Url
  provingKey : K.ProvingKey
  verificationKey : K.VerifyingKey
  timeout : Duration

/-- `build_local_service` and `build_network_service` -/
inductive ProverService where
  | localService (timeout : Duration) (concurrency : UInt64) (service : LocalExecutor K)
  | networkService (timeout : Duration) (service : NetworkExecutor K)

/-- How the call of a service ends: the SDK returns from the proving or panics in it, or the service
runs into its timeout. -/
inductive ProvingEnd where
  | returned (run : Sp1Call (Except Report K.Proof))
  | elapsed

structure Executor where
  vkey : K.VerifyingKey
  primary : ProverService K
  fallback : Option (ProverService K)

variable {K}

/-- Verify a proof that was returned. -/
def verifyProved (client : Sp1Client T) (verificationKey : K.VerifyingKey)
    (run : Sp1Call (Except Report K.Proof)) : Sp1Call (Except ProverError K.Proof) := do
  match ← run with
  | .error error => pure (.error (.proverFailed error))
  | .ok proof =>
    match ← K.verify client proof verificationKey with
    | .error error => pure (.error (.proofVerificationFailed (.ofSP1 error)))
    | .ok () => pure (.ok proof)

/-- `.map_err(|_| Error::UnableToExecuteProver).and_then(|res| async { res })` -/
def executed (res : Except Report (Except ProverError K.Proof)) : Except ProverError K.Proof :=
  match res with
  | .error _ => .error .unableToExecuteProver
  | .ok res => res

namespace LocalExecutor

variable (self : LocalExecutor K)

def client : Sp1Client T := if self.isMock then .mock else .cpu

def proofRequest (req : ProverRequest K) : Sp1ProofRequest K where
  client := self.client
  provingKey := self.provingKey
  stdin := req.stdin
  mode := req.proofType.mode
  deferredProofVerification := !self.isMock
  timeout := none
  hosted := false

def call (run : Sp1Call (Except Report K.Proof)) : Except ProverError K.Proof :=
  executed (sp1Fast (verifyProved self.client self.verificationKey run))

end LocalExecutor

namespace NetworkExecutor

variable (self : NetworkExecutor K)

def client : Sp1Client T := .network self.rpcUrl

def proofRequest (req : ProverRequest K) : Sp1ProofRequest K where
  client := self.client
  provingKey := self.provingKey
  stdin := req.stdin
  mode := req.proofType.mode
  deferredProofVerification := true
  timeout := some self.timeout
  hosted := true

def call (run : Sp1Call (Except Report K.Proof)) : Except ProverError K.Proof :=
  executed (sp1Fast (verifyProved self.client self.verificationKey run))

end NetworkExecutor

namespace ProverService

def client : ProverService K → Sp1Client T
  | .localService _ _ service => service.client
  | .networkService _ service => service.client

def provingKey : ProverService K → K.ProvingKey
  | .localService _ _ service => service.provingKey
  | .networkService _ service => service.provingKey

def verificationKey : ProverService K → K.VerifyingKey
  | .localService _ _ service => service.verificationKey
  | .networkService _ service => service.verificationKey

def proofRequest : ProverService K → ProverRequest K → Sp1ProofRequest K
  | .localService _ _ service => service.proofRequest
  | .networkService _ service => service.proofRequest

/-- The layers of the service. -/
def kind : ProverService K → ProverKind
  | .localService _ concurrency _ => .localService concurrency.toNat
  | .networkService _ _ => .networkService

/-- A prover error passes through the layers as it is; the one of the timeout layer becomes its
text. -/
def call (self : ProverService K) : ProvingEnd K → Except ProverError K.Proof
  | .returned run =>
    match self with
    | .localService _ _ service => service.call run
    | .networkService _ service => service.call run
  | .elapsed => .error (.proverFailed "request timed out")

end ProverService

namespace Executor

variable (K)

def createProver (proverType : ProverType T) (program : List UInt8) :
    Except Report (K.VerifyingKey × ProverService K) :=
  match proverType with
  | .networkProver config => sp1Fast do
    let (provingKey, verificationKey) ← K.setup (.network config.sp1ClusterEndpoint) program
    let timeout ← getProvingRequestTimeout config.provingRequestTimeout config.provingTimeout
    pure (verificationKey, .networkService timeout
      ⟨config.sp1ClusterEndpoint, provingKey, verificationKey, config.provingTimeout⟩)
  | .cpuProver config => sp1Fast do
    let (provingKey, verificationKey) ← K.setup .cpu program
    let timeout ← getProvingRequestTimeout config.provingRequestTimeout config.provingTimeout
    pure (verificationKey, .localService timeout config.maxConcurrencyLimit
      ⟨provingKey, verificationKey, false⟩)
  | .mockProver config => sp1Fast do
    let (provingKey, verificationKey) ← K.setup .mock program
    let timeout ← getProvingRequestTimeout config.provingRequestTimeout config.provingTimeout
    pure (verificationKey, .localService timeout config.maxConcurrencyLimit
      ⟨provingKey, verificationKey, true⟩)

/-- The error is the outermost context. -/
def new (primary : ProverType T) (fallback : Option (ProverType T)) (program : List UInt8) :
    Except Report (Executor K) := do
  let (vkey, primary) ← (createProver K primary program).mapError
    (fun _ => "Failed creating primary prover")
  match fallback with
  | some config =>
    let (_, fallback) ← (createProver K config program).mapError
      (fun _ => "Failed creating secondary prover")
    pure ⟨vkey, primary, some fallback⟩
  | none => pure ⟨vkey, primary, none⟩

variable {K} (self : Executor K)

def service : ProverSlot → Option (ProverService K)
  | .primary => some self.primary
  | .fallback => self.fallback

/-- The provers as the scheduling sees them. -/
def provers : Provers := ⟨self.primary.kind, self.fallback.map ProverService.kind⟩

/-- `Executor::call`, by how the proving ends at the primary prover and, if it comes to that, at the
fallback. -/
def call (primary fallback : ProvingEnd K) : Except ProverError K.Proof :=
  match self.primary.call primary with
  | .ok res => .ok res
  | .error err =>
    match self.fallback with
    | some service => service.call fallback
    | none => .error err

end Executor

end Services

/-! ## Specification -/

section Spec

variable {T : ConfigTexts} {K : Sp1Sdk T} {self : ProverService K} {fin : ProvingEnd K}
  {proof : K.Proof} {program : List UInt8}

namespace ProverService

@[simp] theorem call_elapsed :
    self.call .elapsed = .error (.proverFailed "request timed out") := rfl

@[simp] theorem call_panicked (payload : PanicPayload) :
    self.call (.returned (.error payload)) = .error .unableToExecuteProver := by
  cases self <;> rfl

@[simp] theorem call_failed (text : Report) :
    self.call (.returned (.ok (.error text))) = .error (.proverFailed text) := by
  cases self <;> rfl

/-- Both services verify what the SDK returns, each under its own key. -/
theorem call_proved (proof : K.Proof) : self.call (.returned (.ok (.ok proof))) =
    match K.verify self.client proof self.verificationKey with
    | .error _ => .error .unableToExecuteProver
    | .ok (.error error) => .error (.proofVerificationFailed (.ofSP1 error))
    | .ok (.ok ()) => .ok proof := by
  have hverified : self.call (.returned (.ok (.ok proof))) =
      executed (sp1Fast (verifyProved self.client self.verificationKey (.ok (.ok proof)))) := by
    cases self <;> rfl
  rw [hverified]
  simp only [verifyProved, bind, Except.bind]
  cases K.verify self.client proof self.verificationKey with
  | error payload => rfl
  | ok verdict => cases verdict <;> rfl

/-- **Success of a service**: the SDK has returned this proof, and it verifies. -/
theorem call_ok_iff : self.call fin = .ok proof ↔ fin = .returned (.ok (.ok proof)) ∧
    K.verify self.client proof self.verificationKey = .ok (.ok ()) := by
  constructor
  · intro h
    rcases fin with (payload | text | proof') | -
    · simp at h
    · simp at h
    · rw [call_proved] at h
      split at h
      · cases h
      · cases h
      · next hverify =>
        obtain rfl := Except.ok.inj h
        exact ⟨rfl, hverify⟩
    · simp at h
  · rintro ⟨rfl, hverify⟩
    rw [call_proved, hverify]

/-- Why a service fails. -/
inductive Reason (self : ProverService K) : ProvingEnd K → ProverError → Prop where
  | panickedProving (payload : PanicPayload) :
    Reason self (.returned (.error payload)) .unableToExecuteProver
  | panickedVerifying {proof : K.Proof} {payload : PanicPayload}
      (h : K.verify self.client proof self.verificationKey = .error payload) :
    Reason self (.returned (.ok (.ok proof))) .unableToExecuteProver
  | failed (text : Report) : Reason self (.returned (.ok (.error text))) (.proverFailed text)
  | elapsed : Reason self .elapsed (.proverFailed "request timed out")
  | rejected {proof : K.Proof} {error : SP1VerificationError}
      (h : K.verify self.client proof self.verificationKey = .ok (.error error)) :
    Reason self (.returned (.ok (.ok proof))) (.proofVerificationFailed (.ofSP1 error))

theorem call_error_iff {e : ProverError} : self.call fin = .error e ↔ self.Reason fin e := by
  constructor
  · intro h
    rcases fin with (payload | text | proof') | -
    · obtain rfl := Except.error.inj ((call_panicked payload).symm.trans h)
      exact .panickedProving payload
    · obtain rfl := Except.error.inj ((call_failed text).symm.trans h)
      exact .failed text
    · rw [call_proved] at h
      split at h
      · next hverify =>
        obtain rfl := Except.error.inj h
        exact .panickedVerifying hverify
      · next hverify =>
        obtain rfl := Except.error.inj h
        exact .rejected hverify
      · cases h
    · obtain rfl := Except.error.inj (call_elapsed.symm.trans h)
      exact .elapsed
  · intro h
    cases h with
    | panickedProving payload => exact call_panicked payload
    | panickedVerifying hverify => rw [call_proved, hverify]
    | failed text => exact call_failed text
    | elapsed => rfl
    | rejected hverify => rw [call_proved, hverify]

/-- The keys of the service are the ones its client has set up for the program. -/
def SetUp (self : ProverService K) (program : List UInt8) : Prop :=
  K.setup self.client program = .ok (self.provingKey, self.verificationKey)

end ProverService

namespace Executor

theorem createProver_ok {proverType : ProverType T} {vkey : K.VerifyingKey}
    (h : createProver K proverType program = .ok (vkey, self)) :
    self.SetUp program ∧ vkey = self.verificationKey := by
  unfold createProver at h
  cases proverType with
  | networkProver config =>
    simp only [sp1Fast, Except.mapError_eq_ok, Except.bind_eq_ok, Except.pure_eq_ok] at h
    obtain ⟨⟨provingKey, verificationKey⟩, hsetup, timeout, -, heq⟩ := h
    obtain ⟨rfl, rfl⟩ := Prod.mk.inj heq
    exact ⟨hsetup, rfl⟩
  | cpuProver config =>
    simp only [sp1Fast, Except.mapError_eq_ok, Except.bind_eq_ok, Except.pure_eq_ok] at h
    obtain ⟨⟨provingKey, verificationKey⟩, hsetup, timeout, -, heq⟩ := h
    obtain ⟨rfl, rfl⟩ := Prod.mk.inj heq
    exact ⟨hsetup, rfl⟩
  | mockProver config =>
    simp only [sp1Fast, Except.mapError_eq_ok, Except.bind_eq_ok, Except.pure_eq_ok] at h
    obtain ⟨⟨provingKey, verificationKey⟩, hsetup, timeout, -, heq⟩ := h
    obtain ⟨rfl, rfl⟩ := Prod.mk.inj heq
    exact ⟨hsetup, rfl⟩

/-- **The keys of an executor**: every service has set up the program, and the key that is handed out
is the one of the primary prover. -/
theorem new_ok {executor : Executor K} {primary : ProverType T} {fallback : Option (ProverType T)}
    (h : new K primary fallback program = .ok executor) :
    executor.vkey = executor.primary.verificationKey ∧
      ∀ slot service, executor.service slot = some service → service.SetUp program := by
  simp only [new, Except.bind_eq_ok, Except.mapError_eq_ok] at h
  obtain ⟨⟨vkey, service⟩, hprimary, h⟩ := h
  obtain ⟨hsetup, hvkey⟩ := createProver_ok hprimary
  cases fallback with
  | none =>
    obtain rfl := Except.ok.inj h
    refine ⟨hvkey, ?_⟩
    intro slot service' hslot
    cases slot with
    | primary =>
      obtain rfl := Option.some.inj hslot
      exact hsetup
    | fallback => cases hslot
  | some config =>
    simp only [Except.bind_eq_ok, Except.mapError_eq_ok] at h
    obtain ⟨⟨vkey', service'⟩, hfallback, h⟩ := h
    obtain rfl := Except.ok.inj h
    refine ⟨hvkey, ?_⟩
    intro slot service'' hslot
    cases slot with
    | primary =>
      obtain rfl := Option.some.inj hslot
      exact hsetup
    | fallback =>
      obtain rfl := Option.some.inj hslot
      exact (createProver_ok hfallback).1

end Executor

end Spec

end Aggchain
