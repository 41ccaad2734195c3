import Aggchain.Host.Conversion
import Aggchain.Host.Service

/-!
# Aggchain.Host.Rpc — `aggkit-prover`: the two gRPC endpoints

Both endpoints check the block range, convert the message and hand the result to the buffered
service, in different orders; the log of a handler is the list of requests that reached the service.

* `generate_admission`: both endpoints issue a service request for the same messages, with the same
  inputs, and refuse every other one as an invalid argument.
* `generate_range_iff`: what bounds the end block of a normal answer is the proposer alone.
-/

namespace Aggchain

/-! ## Context (`conversion/v1/context.rs`) -/

section Context

def IterMap.empty {K V : Type} : IterMap K V := ⟨[], List.nodup_nil⟩

/-- `HashMap::insert` -/
def IterMap.insert {K V : Type} [DecidableEq K] (self : IterMap K V) (key : K) (value : V) :
    IterMap K V where
  entries := (key, value) :: self.entries.filter (fun e => e.1 ≠ key)
  nodup := by
    rw [List.map_cons, List.nodup_cons]
    refine ⟨fun h => ?_, (List.filter_sublist.map Prod.fst).nodup self.nodup⟩
    obtain ⟨e, he, hkey⟩ := List.mem_map.mp h
    simpa [hkey] using (List.mem_filter.mp he).2

abbrev Context := IterMap String (List UInt8)

variable {Y : HostExt} (H : Host Y)

def InsertedGerWithBlockNumber.insertContext (ger : InsertedGerWithBlockNumber) (name : String)
    (context : Context) : Context :=
  ((context.insert ("ger/" ++ name ++ "/block_number") (Bytes.beBytes 8 ger.blockNumber.toNat)).insert
    ("ger/" ++ name ++ "/block_index") (Bytes.beBytes 8 ger.blockIndex.toNat)).insert
    ("ger/" ++ name ++ "/l1_leaf_index")
    (Bytes.beBytes 4 ger.insertedGer.l1Leaf.l1InfoTreeIndex.toNat)

def ImportedBridgeExitWithBlockNumber.insertContext (ibe : ImportedBridgeExitWithBlockNumber Y)
    (i : ℕ) (context : Context) : Context :=
  ((context.insert ("ibe/" ++ toString i ++ "/block_number")
      (Bytes.beBytes 8 ibe.blockNumber.toNat)).insert
    ("ibe/" ++ toString i ++ "/bridge_exit_hash") ibe.bridgeExitHash.val).insert
    ("ibe/" ++ toString i ++ "/global_index")
    -- `as_le_bytes`, reversed
    (U256.toBeBytes (H.globalIndexToU256 ibe.globalIndex)).val

/-- `Contextualize::context` -/
def AggchainProofInputs.context (self : AggchainProofInputs Y) : Context :=
  let leaf := self.l1InfoTreeLeaf
  let fields : List (String × List UInt8) :=
    [("last_proven_block", Bytes.beBytes 8 self.lastProvenBlock.toNat),
      ("requested_end_block", Bytes.beBytes 8 self.requestedEndBlock.toNat),
      ("l1_info_tree_root_hash", self.l1InfoTreeRootHash.val),
      ("l1_info_tree_index", Bytes.beBytes 4 leaf.l1InfoTreeIndex.toNat),
      ("l1_info_tree_rer", leaf.rer.val),
      ("l1_info_tree_mer", leaf.mer.val),
      ("l1_info_tree_ger", leaf.inner.globalExitRoot.val),
      ("l1_info_tree_block_hash", leaf.inner.blockHash.val),
      ("l1_info_tree_timestamp", Bytes.beBytes 8 leaf.inner.timestamp.toNat)]
  let context := fields.foldl (fun c f => c.insert f.1 f.2) IterMap.empty
  let context := self.gerLeaves.entries.foldl (fun c e => e.2.insertContext e.1 c) context
  self.importedBridgeExits.zipIdx.foldl (fun c e => e.1.insertContext H e.2 c) context

/-- The public values in the context; a failure of the serialization, or in optimistic mode a panic
of it, leaves a text instead. -/
def serializedPublicValues (publicValues : AggchainProofPublicValues) : List UInt8 :=
  match H.serializePublicValues publicValues with
  | .ok bytes => bytes
  | .error _ => "bincode serialization failed".toUTF8.toList

end Context

/-! ## Statuses and answers -/

/-- `tonic::Code`, the codes of the handlers. -/
inductive Code where
  | invalidArgument
  | internal
  deriving DecidableEq

/-- `tonic::Status` with the violations in its bad request details. -/
structure Status where
  code : Code
  message : String
  violations : List (String × String)
  deriving DecidableEq

namespace Status

/-- `Status::internal` -/
def internal (message : String) : Status := ⟨.internal, message, []⟩

/-- `Status::with_error_details` for one violation. -/
def badRequest (message field description : String) : Status :=
  ⟨.invalidArgument, message, [(field, description)]⟩

end Status

/-- The text of the error. -/
def ServiceError.message : ServiceError → String
  | .proposerServiceError _ => "Proposer service returned an error during operation"
  | .aggchainProofBuilderRequestFailed _ => "Aggchain proof builder service request failed"

structure Sp1StarkProof where
  version : String
  proof : List UInt8
  vkey : List UInt8

/-- `agglayer_interop::grpc::v1::AggchainProof` -/
structure AggchainProofMessage {X : Ext} {Y : HostExt} (W : Wire X Y) where
  aggchainParams : Option W.FixedBytes32
  signature : Option W.FixedBytes65
  context : Context
  proof : Option Sp1StarkProof

structure GenerateAggchainProofResponse {X : Ext} {Y : HostExt} (W : Wire X Y) where
  aggchainProof : Option (AggchainProofMessage W)
  lastProvenBlock : UInt64
  endBlock : UInt64
  localExitRootHash : Option W.FixedBytes32
  customChainData : List UInt8

structure GenerateOptimisticAggchainProofResponse {X : Ext} {Y : HostExt} (W : Wire X Y) where
  aggchainProof : Option (AggchainProofMessage W)
  localExitRootHash : Option W.FixedBytes32
  customChainData : List UInt8

/-! ## The endpoints (`rpc.rs`) -/

/-- The service behind its buffer. -/
structure GrpcService (X : Ext) (Y : HostExt) where
  service : AggchainProofService X Y
  /-- `ready` of the buffer -/
  bufferReady : Except Report Unit
  /-- whether the worker of the buffer hands a request over -/
  bufferWorker : Except Report Unit

/-- The handlers fail with a status and log the requests that they issue to the service. -/
abbrev Rpc (X : Ext) (Y : HostExt) := Traced Status (AggchainProofServiceRequest X Y)

section Model

variable {X : Ext} {Y : HostExt} {W : Wire X Y} (E : Env X) (H : Host Y)

/-- The check of the block range; `endpoint` is the name in the status. -/
def checkBlockRange (endpoint : String) (lastProvenBlock requestedEndBlock : UInt64) :
    Except Status Unit :=
  if requestedEndBlock ≤ lastProvenBlock then
    .error (.badRequest ("Invalid " ++ endpoint ++ " request argument(s)") "requested_end_block"
      "requested_end_block must be greater than last_proven_block")
  else .ok ()

/-- The status for a message that does not convert. -/
def AggchainProofRequestError.status (endpoint : String) (error : AggchainProofRequestError) :
    Status :=
  .badRequest ("Invalid " ++ endpoint ++ " request data") error.fieldPath error.message

/-- The proof in an answer. -/
def aggchainProofMessage (W : Wire X Y) (context : Context)
    (response : AggchainProofServiceResponse) : AggchainProofMessage W where
  aggchainParams := some (W.ofDigest response.aggchainParams)
  -- Signature is handled by the initiator
  signature := none
  context :=
    ((context.insert "public_values" (serializedPublicValues H response.publicValues)).insert
      "local_exit_root_hash" response.localExitRootHash.val).insert
      "end_block" (Bytes.beBytes 8 response.endBlock.toNat)
  proof := some ⟨H.sp1CircuitVersion, response.proof, response.vkey⟩

namespace GrpcService

variable (self : GrpcService X Y)

/-- `call` of the buffered service, with the text of its error. -/
def bufferedCall (request : AggchainProofServiceRequest X Y) :
    Except String AggchainProofServiceResponse := do
  self.bufferWorker
  (self.service.call E H request).mapError ServiceError.message

/-- Wait for the buffer, then issue the request. -/
def issue (request : AggchainProofServiceRequest X Y) : Rpc X Y AggchainProofServiceResponse := do
  .ofExcept (self.bufferReady.mapError
    (fun _ => .internal "Unable to use the aggchain proof service"))
  .call request ((self.bufferedCall E H request).mapError Status.internal)

def generateAggchainProof (request : GenerateAggchainProofRequest W) :
    Rpc X Y (GenerateAggchainProofResponse W) := do
  .ofExcept (checkBlockRange "GenerateAggchainProof" request.lastProvenBlock
    request.requestedEndBlock)
  let inputs ← .ofExcept (request.tryInto.mapError
    (AggchainProofRequestError.status "GenerateAggchainProof"))
  let response ← self.issue E H (.normal inputs)
  pure { aggchainProof := some (aggchainProofMessage H W (inputs.context H) response)
         lastProvenBlock := response.lastProvenBlock
         endBlock := response.endBlock
         localExitRootHash := some (W.ofDigest response.localExitRootHash)
         customChainData := response.customChainData }

def generateOptimisticAggchainProof (request : GenerateOptimisticAggchainProofRequest W) :
    Rpc X Y (GenerateOptimisticAggchainProofResponse W) := do
  let inputs ← .ofExcept (request.tryInto.mapError
    (AggchainProofRequestError.status "GenerateOptimisticAggchainProof"))
  .ofExcept (checkBlockRange "GenerateOptimisticAggchainProof"
    inputs.aggchainProofInputs.lastProvenBlock inputs.aggchainProofInputs.requestedEndBlock)
  let response ← self.issue E H (.optimistic inputs)
  pure { aggchainProof := some (aggchainProofMessage H W (inputs.aggchainProofInputs.context H)
           response)
         localExitRootHash := some (W.ofDigest response.localExitRootHash)
         customChainData := response.customChainData }

end GrpcService

end Model

/-! ## Admission -/

section Admission

variable {X : Ext} {Y : HostExt} {W : Wire X Y} {E : Env X} {H : Host Y} {self : GrpcService X Y}
  {request : GenerateAggchainProofRequest W}

/-- A non-empty block range, and every required sub-message there and convertible. -/
structure GenerateAggchainProofRequest.Admissible (value : GenerateAggchainProofRequest W) :
    Prop where
  range : value.lastProvenBlock < value.requestedEndBlock
  complete : value.Complete

/-- Refused as an invalid argument, with nothing issued. -/
def Refused {α : Type} (run : Rpc X Y α) : Prop :=
  run.calls = [] ∧ ∃ status, run.result = .error status ∧ status.code = .invalidArgument

theorem checkBlockRange_of_lt {endpoint : String} {last requested : UInt64} (h : last < requested) :
    checkBlockRange endpoint last requested = .ok () :=
  if_neg (UInt64.not_le.mpr h)

theorem checkBlockRange_of_not_lt (endpoint : String) {last requested : UInt64}
    (h : ¬ last < requested) : ∃ status, checkBlockRange endpoint last requested = .error status ∧
      status.code = .invalidArgument :=
  ⟨_, if_pos (UInt64.not_lt.mp h), rfl⟩

theorem refused_fail {α : Type} {status : Status} (h : status.code = .invalidArgument) :
    Refused (Traced.fail status : Rpc X Y α) :=
  ⟨rfl, status, rfl, h⟩

theorem GrpcService.issue_of_ready (hready : self.bufferReady = .ok ())
    (r : AggchainProofServiceRequest X Y) :
    self.issue E H r = .call r ((self.bufferedCall E H r).mapError Status.internal) := by
  rw [issue, hready]
  rfl

/-- The normal endpoint issues an admissible request as converted. -/
theorem GrpcService.generate_calls (hready : self.bufferReady = .ok ())
    (hrange : request.lastProvenBlock < request.requestedEndBlock) {inputs : AggchainProofInputs Y}
    (hinputs : request.tryInto = .ok inputs) :
    (self.generateAggchainProof E H request).calls = [.normal inputs] := by
  rw [generateAggchainProof, checkBlockRange_of_lt hrange, hinputs]
  simp only [Except.mapError, Traced.ofExcept_ok_bind, issue_of_ready hready,
    Traced.calls_call_bind_pure]

/-- It refuses every other request. -/
theorem GrpcService.generate_refused (h : ¬ request.Admissible) :
    Refused (self.generateAggchainProof E H request) := by
  by_cases hrange : request.lastProvenBlock < request.requestedEndBlock
  · have hnone : ¬ ∃ inputs, request.tryInto = .ok inputs := fun hinputs =>
      h ⟨hrange, GenerateAggchainProofRequest.exists_tryInto_ok_iff.mp hinputs⟩
    cases htry : request.tryInto with
    | ok inputs => exact absurd ⟨inputs, htry⟩ hnone
    | error error =>
      rw [generateAggchainProof, checkBlockRange_of_lt hrange, htry]
      exact refused_fail rfl
  · obtain ⟨status, hstatus, hcode⟩ := checkBlockRange_of_not_lt "GenerateAggchainProof" hrange
    rw [generateAggchainProof, hstatus]
    exact refused_fail hcode

section Optimistic

variable {signature : W.FixedBytes65} {parsed : X.Signature}

/-- With a signature that parses, the optimistic message converts as the inner one does. -/
theorem tryInto_signed (hsignature : W.signature signature = .ok parsed)
    {inputs : AggchainProofInputs Y} (hinputs : request.tryInto = .ok inputs) :
    (⟨some request, some signature⟩ : GenerateOptimisticAggchainProofRequest W).tryInto =
      .ok ⟨inputs, parsed⟩ :=
  GenerateOptimisticAggchainProofRequest.tryInto_ok_iff.mpr
    ⟨⟨signature, rfl, hsignature⟩, request, rfl, hinputs⟩

/-- The optimistic endpoint issues an admissible request as converted. -/
theorem GrpcService.generateOptimistic_calls (hready : self.bufferReady = .ok ())
    (hsignature : W.signature signature = .ok parsed)
    (hrange : request.lastProvenBlock < request.requestedEndBlock) {inputs : AggchainProofInputs Y}
    (hinputs : request.tryInto = .ok inputs) :
    (self.generateOptimisticAggchainProof E H ⟨some request, some signature⟩).calls =
      [.optimistic ⟨inputs, parsed⟩] := by
  have hconv := GenerateAggchainProofRequest.converts_of_tryInto hinputs
  have hrange' : inputs.lastProvenBlock < inputs.requestedEndBlock := by
    rw [hconv.lastProvenBlock, hconv.requestedEndBlock]
    exact hrange
  rw [generateOptimisticAggchainProof, tryInto_signed hsignature hinputs]
  simp only [Except.mapError, Traced.ofExcept_ok_bind, checkBlockRange_of_lt hrange',
    issue_of_ready hready, Traced.calls_call_bind_pure]

/-- It refuses every other request. -/
theorem GrpcService.generateOptimistic_refused (h : ¬ request.Admissible) :
    Refused (self.generateOptimisticAggchainProof E H ⟨some request, some signature⟩) := by
  cases htry : (⟨some request, some signature⟩ :
      GenerateOptimisticAggchainProofRequest W).tryInto with
  | error error =>
    rw [generateOptimisticAggchainProof, htry]
    exact refused_fail rfl
  | ok inputs =>
    obtain ⟨-, message, hmessage, hinputs⟩ :=
      GenerateOptimisticAggchainProofRequest.tryInto_ok_iff.mp htry
    obtain rfl := Option.some.inj hmessage
    have hconv := GenerateAggchainProofRequest.converts_of_tryInto hinputs
    have hcomplete := GenerateAggchainProofRequest.exists_tryInto_ok_iff.mp ⟨_, hinputs⟩
    -- the message converts, so it is the range that is empty
    have hrange : ¬ inputs.aggchainProofInputs.lastProvenBlock <
        inputs.aggchainProofInputs.requestedEndBlock := by
      rw [hconv.lastProvenBlock, hconv.requestedEndBlock]
      exact fun hlt => h ⟨hlt, hcomplete⟩
    obtain ⟨status, hstatus, hcode⟩ :=
      checkBlockRange_of_not_lt "GenerateOptimisticAggchainProof" hrange
    rw [generateOptimisticAggchainProof, htry]
    simp only [Except.mapError, Traced.ofExcept_ok_bind, hstatus]
    exact refused_fail hcode

/-- **Admission is exact, lossless and the same on both endpoints.** -/
theorem GrpcService.generate_admission (hready : self.bufferReady = .ok ())
    (hsignature : W.signature signature = .ok parsed) (request : GenerateAggchainProofRequest W) :
    let normal := self.generateAggchainProof E H request
    let optimistic := self.generateOptimisticAggchainProof E H ⟨some request, some signature⟩
    (normal.calls ≠ [] ↔ optimistic.calls ≠ []) ∧
    (normal.calls ≠ [] ↔ request.Admissible) ∧
    (request.Admissible → ∃ inputs, request.Converts inputs ∧ normal.calls = [.normal inputs] ∧
      optimistic.calls = [.optimistic ⟨inputs, parsed⟩]) ∧
    (¬ request.Admissible → Refused normal ∧ Refused optimistic) := by
  by_cases hadm : request.Admissible
  · obtain ⟨inputs, hinputs⟩ := GenerateAggchainProofRequest.exists_tryInto_ok_iff.mpr hadm.complete
    have hnormal := self.generate_calls (E := E) (H := H) hready hadm.range hinputs
    have hopt := self.generateOptimistic_calls (E := E) (H := H) hready hsignature hadm.range hinputs
    refine ⟨?_, ?_, fun _ => ⟨inputs, ?_, hnormal, hopt⟩, fun h => absurd hadm h⟩
    · simp [hnormal, hopt]
    · simp [hnormal, hadm]
    · exact GenerateAggchainProofRequest.converts_of_tryInto hinputs
  · have hnormal : Refused (self.generateAggchainProof E H request) := generate_refused hadm
    have hopt : Refused (self.generateOptimisticAggchainProof E H
      ⟨some request, some signature⟩) := generateOptimistic_refused hadm
    refine ⟨?_, ?_, fun h => absurd h hadm, fun _ => ⟨hnormal, hopt⟩⟩
    · simp [hnormal.1, hopt.1]
    · simp [hnormal.1, hadm]

end Optimistic

end Admission

/-! ## The block range of a normal answer -/

section Range

variable {X : Ext} {Y : HostExt} {W : Wire X Y} {E : Env X} {H : Host Y} {self : GrpcService X Y}
  {request : GenerateAggchainProofRequest W} {response : GenerateAggchainProofResponse W}

/-- The answer is for a non-empty range that starts behind the last proven block and does not go
beyond the requested maximum. -/
structure RangeKept (request : GenerateAggchainProofRequest W)
    (response : GenerateAggchainProofResponse W) : Prop where
  lastProvenBlock : response.lastProvenBlock = request.lastProvenBlock
  nonempty : request.lastProvenBlock < response.endBlock
  bounded : response.endBlock ≤ request.requestedEndBlock

/-- The proposer's answer to the request, if it gives one, is for an end block in the range it was
asked for. -/
def ProposerKeepsRange (self : GrpcService X Y) (request : GenerateAggchainProofRequest W) : Prop :=
  ∀ inputs reply, request.tryInto = .ok inputs →
    self.service.proposerService.answer inputs.proposerRequest = .ok reply →
    request.lastProvenBlock < reply.endBlock ∧ reply.endBlock ≤ request.requestedEndBlock

theorem GrpcService.issue_ok {r : AggchainProofServiceRequest X Y}
    {answer : AggchainProofServiceResponse} (h : (self.issue E H r).result = .ok answer) :
    self.service.call E H r = .ok answer := by
  simp only [issue, bufferedCall, Traced.bind_ok_iff, Traced.result_ofExcept, Traced.result_call,
    Except.mapError_eq_ok, Except.bind_eq_ok] at h
  obtain ⟨-, -, -, -, hcall⟩ := h
  exact hcall

/-- A success of the normal endpoint reports the two block numbers of the service. -/
theorem GrpcService.generate_ok (h : (self.generateAggchainProof E H request).result = .ok response) :
    ∃ inputs answer, request.tryInto = .ok inputs ∧
      self.service.call E H (.normal inputs) = .ok answer ∧
      response.lastProvenBlock = answer.lastProvenBlock ∧ response.endBlock = answer.endBlock := by
  simp only [generateAggchainProof, Traced.bind_ok_iff, Traced.result_ofExcept,
    Except.mapError_eq_ok, Traced.result_pure, Except.ok.injEq] at h
  obtain ⟨-, -, inputs, hinputs, answer, hanswer, rfl⟩ := h
  exact ⟨inputs, answer, hinputs, issue_ok hanswer, rfl, rfl⟩

/-- A normal answer of the service is for the requested last proven block and the end block of the
proposer's reply. -/
theorem AggchainProofService.call_normal_range {service : AggchainProofService X Y}
    {inputs : AggchainProofInputs Y} {answer : AggchainProofServiceResponse}
    (h : service.call E H (.normal inputs) = .ok answer) :
    answer.lastProvenBlock = inputs.lastProvenBlock ∧
      ∃ reply, service.proposerService.answer inputs.proposerRequest = .ok reply ∧
        answer.endBlock = reply.endBlock := by
  obtain ⟨br, hinputs, -, hgiven, hbuild⟩ := call_ok h
  obtain ⟨r, -, rfl⟩ := buildAndRespond_ok_iff.mp hbuild
  refine ⟨congrArg AggchainProofInputs.lastProvenBlock hinputs, ?_⟩
  simp only [givenEndBlock] at hgiven
  cases hreply : service.proposerService.answer inputs.proposerRequest with
  | error e => rw [hreply] at hgiven; cases hgiven
  | ok reply =>
    rw [hreply] at hgiven
    exact ⟨reply, rfl, (Option.some.inj hgiven).symm⟩

/-- **Block range of a normal answer.**  It is kept exactly when the proposer keeps it: no layer
between the proposer and the endpoint compares the end block with the requested range. -/
theorem GrpcService.generate_range_iff
    (hok : (self.generateAggchainProof E H request).result = .ok response) :
    RangeKept request response ↔ ProposerKeepsRange self request := by
  obtain ⟨inputs, answer, hinputs, hcall, hlast, hstop⟩ := generate_ok hok
  obtain ⟨hlast', reply, hreply, hstop'⟩ := AggchainProofService.call_normal_range hcall
  have hconv := GenerateAggchainProofRequest.converts_of_tryInto hinputs
  constructor
  · rintro ⟨-, hnonempty, hbounded⟩ inputs' reply' hinputs' hreply'
    obtain rfl := Except.ok.inj (hinputs.symm.trans hinputs')
    obtain rfl := Except.ok.inj (hreply.symm.trans hreply')
    rw [hstop, hstop'] at hnonempty hbounded
    exact ⟨hnonempty, hbounded⟩
  · intro hkeeps
    obtain ⟨hnonempty, hbounded⟩ := hkeeps inputs reply hinputs hreply
    refine ⟨?_, ?_, ?_⟩
    · rw [hlast, hlast', hconv.lastProvenBlock]
    · rw [hstop, hstop']
      exact hnonempty
    · rw [hstop, hstop']
      exact hbounded

end Range

/-! ## Messages for the sample range

The proposer reports the end block `stop`, with an accepted proof for the public values of that
block. -/

namespace Sample

/-- The bytes of a message field of fixed length. -/
def decodeFixed (n : ℕ) (bytes : List UInt8) : Except Report (Bytes n) :=
  if h : bytes.length = n then .ok ⟨bytes, h⟩ else .error "invalid length"

def decodeGlobalIndex (bytes : List UInt8) : Except Report U256 :=
  (decodeFixed 32 bytes).map (fun d => BitVec.ofNat 256 (Bytes.ofBe d.val))

def wire : Wire ⟨Digest, Bytes 65⟩ hostExt where
  FixedBytes32 := List UInt8
  FixedBytes65 := List UInt8
  L1InfoTreeLeafWithContext := L1InfoTreeLeaf
  MerkleProofMessage := MerkleProof
  digest := decodeFixed 32
  globalIndex := decodeGlobalIndex
  l1InfoTreeLeaf := .ok
  merkleProof := .ok
  signature := decodeFixed 65
  ofDigest d := d.val

def message : GenerateAggchainProofRequest wire where
  lastProvenBlock := 1
  requestedEndBlock := 2
  l1InfoTreeRootHash := some path.root.val
  l1InfoTreeLeaf := some leaf
  l1InfoTreeMerkleProof := some path
  gerLeaves := ⟨[("later", ⟨5, some ⟨some path, some leaf⟩, 0⟩),
    ("ger", ⟨2, some ⟨some path, some leaf⟩, 0⟩)], by decide⟩
  importedBridgeExits := [⟨1, some (U256.toBeBytes 0).val, some (Bytes.ofNat 32 0xe0).val⟩,
    ⟨2, some (U256.toBeBytes claim.globalIndex).val, some claim.bridgeExitHash.val⟩]

def fepDigestThree : Digest :=
  Bytes.ofNat 32 0x70bd68cfabb2c9ca50e873830a03dab967d710fc3b07fdadae73c4de961046dc
def paramsThree : Digest :=
  Bytes.ofNat 32 0x83ca8b9cd33c267f25136bece922891ed1e2c28e02aad6315790a7b47183f5ef

/-- The public values of the proof up to block `stop`. -/
def fepValues (stop : UInt64) : AggregationProofPublicValues where
  l1Head := leaf.inner.blockHash
  l2PreRoot := Bytes.ofNat 32 0x51
  l2PostRoot := Bytes.ofNat 32 0x52
  l2BlockNumber := stop
  rollupConfigHash := Bytes.ofNat 32 0xcf
  multiBlockVkey := Bytes.ofNat 32 0x7a
  proverAddress := trustedSequencer

/-- The functions of `quietEnv`, on the data of block `3` too. -/
def rpcEnv : Env ⟨Digest, Bytes 65⟩ :=
  { quietEnv with
    keccak256 := fun data =>
      if data = (knowledge.params false (Bytes.ofNat 32 0x52) 3).abiEncodePacked then paramsThree
      else quietEnv.keccak256 data
    sha256 := fun data => if data = (fepValues 3).abiEncode then fepDigestThree else fepDigest
    verifySp1Proof := fun _ h => h = fepDigest ∨ h = fepDigestThree }

/-- The endpoints, with a proposer that reports `stop` and a prover that runs the guest. -/
def grpc (stop : UInt64) (params : Digest) : GrpcService ⟨Digest, Bytes 65⟩ hostExt where
  service :=
    { proposerService :=
        { getBlockNumber := fun _ => .ok 1
          requestAggProof := fun _ => .ok ⟨1, stop, List.replicate 32 0⟩
          waitForProof := fun _ => .ok ⟨.compressed (), (fepValues stop).abiEncode⟩
          verifyAggregatedProof := fun _ _ => .ok ()
          abiDecodePublicValues := fun _ => .ok (fepValues stop)
          aggregationVkey := () }
      aggchainProofBuilder :=
        { builder with
          proverCall := fun stdin =>
            if stdin.witness.verifyAggchainInputs rpcEnv = .ok (committed exitsCommitment params) then
              .ok ⟨.compressed (), []⟩
            else .error "the guest failed" } }
  bufferReady := .ok ()
  bufferWorker := .ok ()

theorem exists_ok_of_map {α : Type} {x : Except Status α} {f : α → UInt64} {n : UInt64}
    (h : x.toOption.map f = some n) : ∃ a, x = .ok a ∧ f a = n := by
  cases x with
  | error e => cases h
  | ok a => exact ⟨a, rfl, Option.some.inj h⟩

theorem decodeFixed_val {n : ℕ} (bytes : Bytes n) : decodeFixed n bytes.val = .ok bytes :=
  dif_pos bytes.2

theorem decodeGlobalIndex_toBeBytes (index : U256) :
    decodeGlobalIndex (U256.toBeBytes index).val = .ok index := by
  have hval : Bytes.ofBe (U256.toBeBytes index).val = index.toNat :=
    Bytes.ofBe_beBytes_of_lt (index.isLt.trans_le (by norm_num))
  rw [decodeGlobalIndex, decodeFixed_val, Except.map, hval, BitVec.ofNat_toNat,
    BitVec.setWidth_eq]

theorem wire_signature (s : Bytes 65) : wire.signature s.val = .ok s :=
  decodeFixed_val s

theorem convertible_digest (d : Digest) : Convertible (M := wire.FixedBytes32) (some d.val)
    wire.digest :=
  ⟨d, d.val, rfl, decodeFixed_val d⟩

theorem convertible_globalIndex {bytes : List UInt8} {index : U256}
    (h : decodeGlobalIndex bytes = .ok index) :
    Convertible (M := wire.FixedBytes32) (some bytes) wire.globalIndex :=
  ⟨index, bytes, rfl, h⟩

theorem convertible_leaf (l : L1InfoTreeLeaf) :
    Convertible (M := wire.L1InfoTreeLeafWithContext) (some l) wire.l1InfoTreeLeaf :=
  ⟨l, l, rfl, rfl⟩

theorem convertible_path (p : MerkleProof) :
    Convertible (M := wire.MerkleProofMessage) (some p) wire.merkleProof :=
  ⟨p, p, rfl, rfl⟩

theorem complete_message : message.Complete where
  l1InfoTreeRootHash := convertible_digest path.root
  l1InfoTreeLeaf := convertible_leaf leaf
  l1InfoTreeMerkleProof := convertible_path path
  gerLeaves := by
    intro e he
    simp only [IterMap.values, message, List.map_cons, List.map_nil, List.mem_cons,
      List.not_mem_nil, or_false] at he
    rcases he with rfl | rfl
    · exact ⟨_, rfl, convertible_path path, convertible_leaf leaf⟩
    · exact ⟨_, rfl, convertible_path path, convertible_leaf leaf⟩
  importedBridgeExits := by
    intro e he
    simp only [message, List.mem_cons, List.not_mem_nil, or_false] at he
    rcases he with rfl | rfl
    · exact ⟨convertible_globalIndex (decodeGlobalIndex_toBeBytes 0),
        convertible_digest (Bytes.ofNat 32 0xe0)⟩
    · exact ⟨convertible_globalIndex (decodeGlobalIndex_toBeBytes claim.globalIndex),
        convertible_digest claim.bridgeExitHash⟩

/-- The guest accepts the range up to the block the proposer reports: the answer carries that
block. -/
theorem generate_endBlock_two : ∃ response,
    ((grpc 2 paramsSp1).generateAggchainProof rpcEnv (serviceHost paramsSp1) message).result =
      .ok response ∧ response.endBlock = 2 := by
  refine exists_ok_of_map ?_
  decide +kernel

theorem generate_endBlock_three : ∃ response,
    ((grpc 3 paramsThree).generateAggchainProof rpcEnv (serviceHost paramsThree) message).result =
      .ok response ∧ response.endBlock = 3 := by
  refine exists_ok_of_map ?_
  decide +kernel

end Sample

open Sample

/-- The sample message is issued on both endpoints, with the same inputs. -/
theorem generate_admission_sample :
    ∃ inputs, message.Converts inputs ∧
      ((grpc 2 paramsSp1).generateAggchainProof rpcEnv (serviceHost paramsSp1) message).calls =
        [.normal inputs] ∧
      ((grpc 2 paramsSp1).generateOptimisticAggchainProof rpcEnv (serviceHost paramsSp1)
        ⟨some message, some signature.val⟩).calls = [.optimistic ⟨inputs, signature⟩] := by
  obtain ⟨-, -, hissued, -⟩ := @GrpcService.generate_admission _ _ _ rpcEnv (serviceHost paramsSp1)
    (grpc 2 paramsSp1) _ _ rfl (wire_signature signature) message
  exact hissued ⟨by decide, complete_message⟩

theorem generate_range_sample : ∃ response,
    ((grpc 2 paramsSp1).generateAggchainProof rpcEnv (serviceHost paramsSp1) message).result =
      .ok response ∧ RangeKept message response := by
  obtain ⟨response, hok, -⟩ := generate_endBlock_two
  refine ⟨response, hok, (GrpcService.generate_range_iff hok).mpr ?_⟩
  rintro inputs reply - hreply
  obtain rfl := Except.ok.inj hreply
  decide

/-- The proposer reports block `3` to a request for at most block `2`: the proof is built, the guest
accepts it and the answer goes beyond the requested maximum. -/
theorem generate_range_exceeded : ∃ response,
    ((grpc 3 paramsThree).generateAggchainProof rpcEnv (serviceHost paramsThree) message).result =
      .ok response ∧
    HonestProver rpcEnv (serviceHost paramsThree)
      (grpc 3 paramsThree).service.aggchainProofBuilder ∧
    ¬ RangeKept message response := by
  obtain ⟨response, hok, hstop⟩ := generate_endBlock_three
  refine ⟨response, hok, ?_, ?_⟩
  · intro stdin proof hproof
    unfold grpc at hproof
    dsimp only at hproof
    split_ifs at hproof with h
    exact ⟨committed exitsCommitment paramsThree, rfl, h⟩
  · rintro ⟨-, -, hbounded⟩
    rw [hstop] at hbounded
    exact absurd hbounded (by decide)

end Aggchain
