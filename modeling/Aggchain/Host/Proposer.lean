import Aggchain.Host.Builder

/-!
# Aggchain.Host.Proposer — `proposer-service` and `proposer-client`

The proposer is an external service: it is asked for an aggregation proof of a block range and
answers with the range it chose and the id of a proof.  The proof is fetched from the cluster and
verified; the reported block numbers are passed on as they are (`call_ok_iff`).
-/

namespace Aggchain

/-! ## Errors -/

/-- `ProofRequestError` -/
inductive ProofRequestError where
  /-- `GrpcConversionError` -/
  | parsingResponse (field : String) (source : Report)
  | failed (message : String)
  | grpc (status : Report)
  deriving DecidableEq

/-- `proposer_client::Error` -/
inductive ProposerClientError where
  | proving (requestId : Digest) (message : String)
  | verification (requestId : Digest) (source : Report)
  | requesting (source : ProofRequestError)
  deriving DecidableEq

/-- `proposer_service::Error` -/
inductive ProposerError where
  | alloyProviderError (source : Report)
  | client (source : ProposerClientError)
  | unsupportedAggregationProofMode (mode : SP1ProofMode)
  | fepPublicValuesDeserializeFailure (source : Report)
  deriving DecidableEq

/-! ## Messages -/

structure FepProposerRequest where
  lastProvenBlock : UInt64
  requestedEndBlock : UInt64
  l1BlockHash : Digest
  deriving DecidableEq

/-- Request format for the proposer `proofs_requestAggProof`. -/
structure AggregationProofProposerRequest where
  lastProvenBlock : UInt64
  /-- maximum block number for the aggregation proof -/
  requestedEndBlock : UInt64
  l1BlockNumber : UInt64
  l1BlockHash : Digest
  deriving DecidableEq

/-- `grpc::AggProofResponse`, what the proposer sends. -/
structure AggProofResponse where
  lastProvenBlock : UInt64
  endBlock : UInt64
  proofRequestId : List UInt8
  deriving DecidableEq

structure AggregationProofProposerResponse where
  requestId : Digest
  lastProvenBlock : UInt64
  endBlock : UInt64
  deriving DecidableEq

structure ProposerResponse (Y : HostExt) where
  aggregationProof : Y.AggregationProof
  lastProvenBlock : UInt64
  endBlock : UInt64
  publicValues : AggregationProofPublicValues

/-- The service, with the remote parties it talks to. -/
structure ProposerService (Y : HostExt) where
  /-- `L1Rpc::get_block_number` -/
  getBlockNumber : Digest → Except Report UInt64
  /-- the proposer -/
  requestAggProof : AggregationProofProposerRequest → Except Report AggProofResponse
  /-- the proving cluster -/
  waitForProof : Digest → Except Report (SP1ProofWithPublicValues Y)
  verifyAggregatedProof : SP1ProofWithPublicValues Y → Y.VKey → Except Report Unit
  /-- `AggregationProofPublicValues::abi_decode` -/
  abiDecodePublicValues : List UInt8 → Except Report AggregationProofPublicValues
  aggregationVkey : Y.VKey

section Model

variable {Y : HostExt}

/-- `TryFrom<grpc::AggProofResponse>`: the request id has 32 bytes. -/
def AggProofResponse.tryInto (response : AggProofResponse) :
    Except ProofRequestError AggregationProofProposerResponse :=
  if h : response.proofRequestId.length = 32 then
    .ok ⟨⟨response.proofRequestId, h⟩, response.lastProvenBlock, response.endBlock⟩
  else .error (.parsingResponse "proof_request_id" "could not convert slice to array")

namespace ProposerService

variable (self : ProposerService Y)

/-- `ProposerRpcClient::request_agg_proof` -/
def requestAggProofRpc (request : AggregationProofProposerRequest) :
    Except ProposerClientError AggregationProofProposerResponse := do
  let response ← (self.requestAggProof request).mapError (fun e => .requesting (.grpc e))
  response.tryInto.mapError .requesting

/-- Request the aggregation proof of a block range. -/
def call (request : FepProposerRequest) : Except ProposerError (ProposerResponse Y) := do
  let l1BlockNumber ← (self.getBlockNumber request.l1BlockHash).mapError .alloyProviderError
  let response ← (self.requestAggProofRpc
    { lastProvenBlock := request.lastProvenBlock
      requestedEndBlock := request.requestedEndBlock
      l1BlockNumber
      l1BlockHash := request.l1BlockHash }).mapError .client
  let proofWithPv ← (self.waitForProof response.requestId).mapError
    (fun e => .client (.proving response.requestId e))
  let publicValues ← (self.abiDecodePublicValues proofWithPv.publicValues).mapError
    .fepPublicValuesDeserializeFailure
  -- Verify received proof
  (self.verifyAggregatedProof proofWithPv self.aggregationVkey).mapError
    (fun e => .client (.verification response.requestId e))
  match proofWithPv.proof.tryAsCompressed with
  | none => .error (.unsupportedAggregationProofMode proofWithPv.proof.mode)
  | some aggregationProof =>
    .ok ⟨aggregationProof, response.lastProvenBlock, response.endBlock, publicValues⟩

/-- What the proposer answers to a request. -/
def answer (request : FepProposerRequest) : Except Report AggProofResponse := do
  let l1BlockNumber ← self.getBlockNumber request.l1BlockHash
  self.requestAggProof
    { lastProvenBlock := request.lastProvenBlock
      requestedEndBlock := request.requestedEndBlock
      l1BlockNumber
      l1BlockHash := request.l1BlockHash }

end ProposerService

end Model

/-! ## Specification -/

section Spec

variable {Y : HostExt} {self : ProposerService Y} {request : FepProposerRequest}
  {response : ProposerResponse Y}

theorem AggProofResponse.tryInto_ok_iff {r : AggProofResponse}
    {p : AggregationProofProposerResponse} : r.tryInto = .ok p ↔
      r.proofRequestId = p.requestId.val ∧ r.lastProvenBlock = p.lastProvenBlock ∧
        r.endBlock = p.endBlock := by
  obtain ⟨id, last, stop⟩ := p
  obtain ⟨rlast, rstop, rid⟩ := r
  unfold tryInto
  dsimp only
  constructor
  · intro h
    split_ifs at h with hlen
    obtain ⟨rfl, rfl, rfl⟩ := AggregationProofProposerResponse.mk.inj (Except.ok.inj h)
    exact ⟨rfl, rfl, rfl⟩
  · rintro ⟨rfl, rfl, rfl⟩
    exact dif_pos id.2

/-- **Specification of the proposer service**: the block numbers are the ones the proposer
reported, the public values the ones that came with a proof that verifies. -/
theorem ProposerService.call_ok_iff : self.call request = .ok response ↔
    ∃ reply proof id, self.answer request = .ok reply ∧
      reply.proofRequestId = Subtype.val id ∧ reply.lastProvenBlock = response.lastProvenBlock ∧
      reply.endBlock = response.endBlock ∧ self.waitForProof id = .ok proof ∧
      self.abiDecodePublicValues proof.publicValues = .ok response.publicValues ∧
      self.verifyAggregatedProof proof self.aggregationVkey = .ok () ∧
      proof.proof.tryAsCompressed = some response.aggregationProof := by
  simp only [call, answer, requestAggProofRpc, Except.bind_eq_ok, Except.mapError_eq_ok,
    AggProofResponse.tryInto_ok_iff]
  constructor
  · rintro ⟨n, hn, p, ⟨reply, hreply, hid, hlast, hstop⟩, proof, hproof, pv, hpv, ⟨⟩, hverify, hrest⟩
    cases hstark : proof.proof.tryAsCompressed with
    | none => rw [hstark] at hrest; cases hrest
    | some stark =>
      rw [hstark] at hrest
      obtain rfl := Except.ok.inj hrest
      exact ⟨reply, proof, p.requestId, ⟨n, hn, hreply⟩, hid, hlast, hstop, hproof, hpv, hverify,
        hstark⟩
  · rintro ⟨reply, proof, id, ⟨n, hn, hreply⟩, hid, hlast, hstop, hproof, hpv, hverify, hstark⟩
    refine ⟨n, hn, ⟨id, response.lastProvenBlock, response.endBlock⟩,
      ⟨reply, hreply, hid, hlast, hstop⟩, proof, hproof, response.publicValues, hpv, (), hverify, ?_⟩
    rw [hstark]

end Spec

end Aggchain
