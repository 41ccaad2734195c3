import Aggchain.Host.Buffer

/-!
# Aggchain.Host.ProverRpc — the endpoint of `agglayer-prover` (`prover.rs`, `rpc.rs`)

`Prover::create_service` puts the executor behind a buffer: the timeout that is built around it is
taken off again with `into_inner`.  `ProverRPC::generate_proof` decodes the stdin, waits for the
buffer and maps what its call is replied.

`ProverRPC.generateProof_verdict`: what the endpoint answers in any run of the buffer, and why.
-/

namespace Aggchain

section Endpoint

variable {T : ConfigTexts}

/-- What the future of a call to the buffer resolves to. -/
inductive Reply (K : Sp1Sdk T) where
  | result (result : Except ProverError K.Proof)
  /-- an error of the buffer: its worker has failed, or is gone -/
  | failed

/-- The message with this number, for `request`, has its reply. -/
def Buffered.Replied {K : Sp1Sdk T} (s : Buffered K) (m : ℕ) (request : ProverRequest K) :
    Reply K → Prop
  | .result result => ∃ r, s.taken[m]? = some (request, .passed r) ∧
    .done result ∈ s.serving.outcomes r
  | .failed => s.taken[m]? = some (request, .failed)

/-- The codecs of the endpoint. -/
structure ProverRPC (K : Sp1Sdk T) where
  deserializeStdin : List UInt8 → Sp1Call (Except Report K.Stdin)
  /-- of `Proof::SP1` -/
  serializeProof : K.Proof → Sp1Call (Except Report (List UInt8))
  bincode : Bincode

variable {K : Sp1Sdk T}

namespace ProverRPC

variable (self : ProverRPC K)

/-- The request to the executor; `None` has its own status. -/
def request (stdin : Option (List UInt8)) : Except ProverStatus (ProverRequest K) :=
  match stdin with
  | some stdin => do
    let stdin ← (sp1Fast (self.deserializeStdin stdin)).mapError
      (fun _ => ⟨.invalidArgument, "Unable to deserialize stdin", []⟩)
    let stdin ← stdin.mapError (fun _ => ⟨.invalidArgument, "Unable to deserialize stdin", []⟩)
    pure ⟨stdin, .plonk⟩
  | none => .error ⟨.invalidArgument, "stdin is required", []⟩

/-- The response to a reply: of the errors, only those of the executor are prover errors. -/
def response : Reply K → Except ProverStatus (List UInt8)
  | .result (.ok proof) => do
    let proof ← (sp1Fast (self.serializeProof proof)).mapError
      (fun _ => ⟨.internal, "Unable to serialize generated proof", []⟩)
    proof.mapError (fun _ => ⟨.internal, "Unable to serialize generated proof", []⟩)
  | .result (.error error) => .error (failureStatus self.bincode (some error))
  | .failed => .error (failureStatus self.bincode none)

/-- `generate_proof`, with the readiness of the buffer and what a call to it is replied. -/
def generateProof (stdin : Option (List UInt8)) (ready : Bool) (call : ProverRequest K → Reply K) :
    Except ProverStatus (List UInt8) := do
  let request ← self.request stdin
  if ready then self.response (call request)
  else .error ⟨.internal, "Unable to get proof executor", []⟩

end ProverRPC

variable {rpc : ProverRPC K}

theorem ProverRPC.request_ok_iff {stdin : Option (List UInt8)} {request : ProverRequest K} :
    rpc.request stdin = .ok request ↔ ∃ bytes input, stdin = some bytes ∧
      rpc.deserializeStdin bytes = .ok (.ok input) ∧ request = ⟨input, .plonk⟩ := by
  cases stdin with
  | none => simp [ProverRPC.request]
  | some bytes =>
    simp only [ProverRPC.request, sp1Fast, Except.bind_eq_ok, Except.mapError_eq_ok,
      Except.pure_eq_ok]
    constructor
    · rintro ⟨-, hbytes, input, rfl, rfl⟩
      exact ⟨bytes, input, rfl, hbytes, rfl⟩
    · rintro ⟨bytes', input, heq, hbytes, rfl⟩
      obtain rfl := Option.some.inj heq
      exact ⟨_, hbytes, input, rfl, rfl⟩

theorem ProverRPC.response_ok_iff {reply : Reply K} {bytes : List UInt8} :
    rpc.response reply = .ok bytes ↔
      ∃ proof, reply = .result (.ok proof) ∧ rpc.serializeProof proof = .ok (.ok bytes) := by
  rcases reply with (error | proof) | _
  · simp [ProverRPC.response]
  · simp only [ProverRPC.response, sp1Fast, Except.bind_eq_ok, Except.mapError_eq_ok]
    constructor
    · rintro ⟨-, hbytes, rfl⟩
      exact ⟨proof, rfl, hbytes⟩
    · rintro ⟨_, heq, hbytes⟩
      cases heq
      exact ⟨_, hbytes, rfl⟩
  · simp [ProverRPC.response]

theorem ProverRPC.response_error {reply : Reply K} {status : ProverStatus}
    (h : rpc.response reply = .error status) :
    (∃ proof, reply = .result (.ok proof) ∧
      (∀ bytes, rpc.serializeProof proof ≠ .ok (.ok bytes)) ∧
      status = ⟨.internal, "Unable to serialize generated proof", []⟩) ∨
    (∃ error, reply = .result (.error error) ∧
      status = failureStatus rpc.bincode (some error)) ∨
    (reply = .failed ∧ status = failureStatus rpc.bincode none) := by
  rcases reply with (error | proof) | _
  · exact Or.inr (Or.inl ⟨error, rfl, (Except.error.inj h).symm⟩)
  · refine Or.inl ⟨proof, rfl, ?_, ?_⟩
    · intro bytes hbytes
      have hok := response_ok_iff.mpr ⟨proof, rfl, hbytes⟩
      rw [h] at hok
      cases hok
    · simp only [response, Except.bind_eq_error, Except.mapError_eq_error] at h
      rcases h with ⟨_, -, hstatus⟩ | ⟨_, -, _, -, hstatus⟩
      · exact hstatus
      · exact hstatus
  · exact Or.inr (Or.inr ⟨rfl, (Except.error.inj h).symm⟩)

/-- Why the endpoint answers with a status, for a call to the buffer that was its message `m`. -/
inductive Refusal (rpc : ProverRPC K) (self : Executor K) (s : Buffered K) (m : ℕ)
    (stdin : Option (List UInt8)) : ProverStatus → Prop where
  | missing (h : stdin = none) :
    Refusal rpc self s m stdin ⟨.invalidArgument, "stdin is required", []⟩
  | undecodable {bytes : List UInt8} (h : stdin = some bytes)
      (hbytes : ∀ input, rpc.deserializeStdin bytes ≠ .ok (.ok input)) :
    Refusal rpc self s m stdin ⟨.invalidArgument, "Unable to deserialize stdin", []⟩
  | unavailable (h : s.closed = true) :
    Refusal rpc self s m stdin ⟨.internal, "Unable to get proof executor", []⟩
  | unserializable {request : ProverRequest K} {proof : K.Proof}
      (hrequest : rpc.request stdin = .ok request)
      (h : s.Replied m request (.result (.ok proof)))
      (hproof : ∀ bytes, rpc.serializeProof proof ≠ .ok (.ok bytes)) :
    Refusal rpc self s m stdin ⟨.internal, "Unable to serialize generated proof", []⟩
  | failed {r : ℕ} {slot : ProverSlot} {service : ProverService K} {request : ProverRequest K}
      {fin : ProvingEnd K} {error : ProverError} (hrequest : rpc.request stdin = .ok request)
      (hmessage : s.taken[m]? = some (request, .passed r))
      (hservice : self.service slot = some service)
      (hlast : slot = .fallback ∨ self.fallback = none)
      (hrun : (s.serving.runs r).getLast? = some ⟨slot, service.proofRequest request, fin⟩)
      (hreason : service.Reason fin error) :
    Refusal rpc self s m stdin (ProverRPC.failureStatus rpc.bincode (some error))
  -- the message never came to the executor
  | closed {request : ProverRequest K} (hrequest : rpc.request stdin = .ok request)
      (hmessage : s.taken[m]? = some (request, .failed)) (h : s.closed = true) :
    Refusal rpc self s m stdin (ProverRPC.failureStatus rpc.bincode none)

/-- A stdin that is missing or is not decoded. -/
theorem ProverRPC.request_error {stdin : Option (List UInt8)} {status : ProverStatus}
    (h : rpc.request stdin = .error status) {self : Executor K} {s : Buffered K} {m : ℕ} :
    Refusal rpc self s m stdin status := by
  cases stdin with
  | none =>
    obtain rfl := Except.error.inj h
    exact .missing rfl
  | some bytes =>
    have hbytes : ∀ input, rpc.deserializeStdin bytes ≠ .ok (.ok input) := by
      intro input hinput
      have hok := request_ok_iff.mpr ⟨bytes, input, rfl, hinput, rfl⟩
      rw [h] at hok
      cases hok
    have hstatus : status = ⟨.invalidArgument, "Unable to deserialize stdin", []⟩ := by
      simp only [request, Except.bind_eq_error, Except.mapError_eq_error, Except.pure_ne_error,
        and_false, exists_false, or_false] at h
      rcases h with ⟨_, -, hstatus⟩ | ⟨_, -, _, -, hstatus⟩
      · exact hstatus
      · exact hstatus
    rw [hstatus]
    exact .undecodable rfl hbytes

/-- How the request of a replied message has ended. -/
theorem Executor.Delivered.ended {self : Executor K} {s : Buffered K} {m : ℕ}
    {request : ProverRequest K} {result : Except ProverError K.Proof} (hinv : self.Delivered s)
    (h : s.Replied m request (.result result)) : ∃ r p f,
      s.taken[m]? = some (request, .passed r) ∧ result = self.call p f ∧
      s.serving.runs r = self.runsOf request p f := by
  obtain ⟨r, hmessage, hmem⟩ := h
  obtain ⟨request', hr, -, -, p, f, hresult, hruns⟩ := (logged_of_reaches hinv.served r).ended hmem
  obtain rfl := Option.some.inj ((hinv.request hmessage).symm.trans hr)
  exact ⟨r, p, f, hmessage, hresult, hruns⟩

/-- **The endpoint.**  For a call that comes to the buffer as its message `m`, or finds it closed: if
it is answered with bytes, these are the serialization of a proof that one of the provers returned
for the decoded stdin in mode `Plonk`, under the keys of the program, and the proof verifies; if it
is answered with a status, the status has its reason. -/
theorem ProverRPC.generateProof_verdict (rpc : ProverRPC K) {self : Executor K} {s : Buffered K}
    {primary : ProverType T} {fallback : Option (ProverType T)} {program : List UInt8}
    (hnew : Executor.new K primary fallback program = .ok self)
    {guard : Buffered K → BufferAction K → Prop}
    (hreach : Machine.Reaches self.buffer guard self.bufferInitial s) (m : ℕ)
    (stdin : Option (List UInt8)) (ready : Bool) (call : ProverRequest K → Reply K)
    (hready : ready = false → s.closed = true)
    (hcall : ready = true → ∀ request, rpc.request stdin = .ok request →
      s.Replied m request (call request)) :
    (∀ response, rpc.generateProof stdin ready call = .ok response →
      ∃ bytes input r slot service proof, stdin = some bytes ∧
        rpc.deserializeStdin bytes = .ok (.ok input) ∧
        s.taken[m]? = some (⟨input, .plonk⟩, .passed r) ∧ self.service slot = some service ∧
        ⟨slot, service.proofRequest ⟨input, .plonk⟩, .returned (.ok (.ok proof))⟩ ∈
          s.serving.runs r ∧
        K.setup service.client program = .ok (service.provingKey, service.verificationKey) ∧
        K.verify service.client proof service.verificationKey = .ok (.ok ()) ∧
        rpc.serializeProof proof = .ok (.ok response)) ∧
    (∀ status, rpc.generateProof stdin ready call = .error status →
      Refusal rpc self s m stdin status) := by
  have hinv := Executor.delivered_of_reaches hreach
  unfold generateProof
  cases hrequest : rpc.request stdin with
  | error status =>
    refine ⟨nofun, ?_⟩
    intro status' hstatus
    obtain rfl := Except.error.inj hstatus
    exact request_error hrequest
  | ok request =>
    cases ready with
    | false =>
      refine ⟨nofun, ?_⟩
      intro status' hstatus
      obtain rfl := Except.error.inj hstatus
      exact .unavailable (hready rfl)
    | true =>
      have hreply := hcall rfl request hrequest
      refine ⟨?_, ?_⟩
      · intro response hresponse
        obtain ⟨proof, hdone, hserialize⟩ := response_ok_iff.mp hresponse
        rw [hdone] at hreply
        obtain ⟨r, p, f, hmessage, hresult, hruns⟩ := hinv.ended hreply
        obtain ⟨bytes, input, rfl, hbytes, rfl⟩ := request_ok_iff.mp hrequest
        obtain ⟨slot, service, hservice, hrun, hverify⟩ := Executor.call_ok _ hresult.symm
        exact ⟨bytes, input, r, slot, service, proof, rfl, hbytes, hmessage, hservice, hruns ▸ hrun,
          (Executor.new_ok hnew).2 slot service hservice, hverify, hserialize⟩
      · intro status hstatus
        rcases response_error hstatus with ⟨proof, hdone, hproof, rfl⟩ | ⟨error, hdone, rfl⟩ |
          ⟨hfailed, rfl⟩
        · exact .unserializable hrequest (hdone ▸ hreply) hproof
        · rw [hdone] at hreply
          obtain ⟨r, p, f, hmessage, hresult, hruns⟩ := hinv.ended hreply
          obtain ⟨slot, service, fin, hservice, hlast, hrun, hreason⟩ :=
            Executor.call_error request hresult.symm
          exact .failed hrequest hmessage hservice hlast (hruns ▸ hrun) hreason
        · rw [hfailed] at hreply
          exact .closed hrequest hreply (hinv.failed request (List.mem_of_getElem? hreply))

end Endpoint

namespace Sample

def proverRpc : ProverRPC sp1 where
  deserializeStdin bytes := .ok (.ok bytes)
  serializeProof proof := .ok (.ok proof)
  bincode := bincode

/-- The first message is proven by the fallback; the worker ends before it takes the second one. -/
def bufferActions : List (BufferAction sp1) :=
  [.send ⟨[7], .plonk⟩, .pollReady, .take, .poll 0, .proved 0 (.returned (.ok (.ok [3, 7]))), .poll 0,
    .send ⟨[8], .plonk⟩, .proved 0 (.returned (.ok (.ok [1, 2, 7]))), .close]

end Sample

open Sample

theorem generateProof_verdict_fallback : ∃ s,
    Machine.run executor.buffer executor.bufferInitial bufferActions = some s ∧
    proverRpc.generateProof (some [7]) true (fun _ => .result (.ok [1, 2, 7])) = .ok [1, 2, 7] ∧
    (∃ bytes input r slot service proof, some [7] = some bytes ∧
      proverRpc.deserializeStdin bytes = .ok (.ok input) ∧
      s.taken[0]? = some (⟨input, .plonk⟩, .passed r) ∧ executor.service slot = some service ∧
      ⟨slot, service.proofRequest ⟨input, .plonk⟩, .returned (.ok (.ok proof))⟩ ∈
        s.serving.runs r ∧
      sp1.setup service.client program = .ok (service.provingKey, service.verificationKey) ∧
      sp1.verify service.client proof service.verificationKey = .ok (.ok ()) ∧
      proverRpc.serializeProof proof = .ok (.ok [1, 2, 7])) ∧
    Refusal proverRpc executor s 1 (some [8]) ⟨.internal, "Failed to generate proof", []⟩ := by
  have hserved : ∃ s, Machine.run executor.buffer executor.bufferInitial bufferActions = some s ∧
      s.taken = [(⟨[7], .plonk⟩, .passed 0), (⟨[8], .plonk⟩, .failed)] ∧
      s.serving.outcomes 0 = [.done (.ok [1, 2, 7])] :=
    ⟨_, rfl, rfl, rfl⟩
  obtain ⟨s, hrun, htaken, houtcomes⟩ := hserved
  have hreach := Machine.Reaches.of_run .start hrun
  have hproven : ∀ request, proverRpc.request (some [7]) = .ok request →
      s.Replied 0 request (.result (.ok [1, 2, 7])) := by
    intro request hdecoded
    obtain rfl := Except.ok.inj hdecoded
    exact ⟨0, by rw [htaken]; rfl, houtcomes ▸ List.mem_cons_self⟩
  have hfailed : ∀ request, proverRpc.request (some [8]) = .ok request →
      s.Replied 1 request .failed := by
    intro request hdecoded
    obtain rfl := Except.ok.inj hdecoded
    show s.taken[1]? = _
    rw [htaken]
    rfl
  have hfirst := proverRpc.generateProof_verdict executor_new hreach 0 (some [7]) true
    (fun _ => .result (.ok [1, 2, 7])) nofun (fun _ => hproven)
  have hsecond := proverRpc.generateProof_verdict executor_new hreach 1 (some [8]) true
    (fun _ => .failed) nofun (fun _ => hfailed)
  exact ⟨s, hrun, rfl, hfirst.1 _ rfl, hsecond.2 _ rfl⟩

end Aggchain
