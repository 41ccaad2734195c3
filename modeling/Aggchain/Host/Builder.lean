import Aggchain.Guest.Proof
import Aggchain.Host.Contracts
import Aggchain.Host.Inputs

/-!
# Aggchain.Host.Builder — `aggchain-proof-builder`

`retrieve_chain_data` turns a request and the answers of the contracts client into the witness of
the guest program; `call` proves it and reports the public values.

`retrieveChainData_ok_iff` and `call_ok_iff` say what a success means.
-/

namespace Aggchain

/-! ## Proofs of the SP1 SDK -/

/-- `SP1ProofMode` -/
inductive SP1ProofMode where
  | core
  | compressed
  | plonk
  | groth16
  deriving DecidableEq

/-- `SP1Proof`; only the content of a compressed proof is used. -/
inductive SP1Proof (Y : HostExt) where
  | core
  | compressed (proof : Y.AggregationProof)
  | plonk
  | groth16

def SP1Proof.mode {Y : HostExt} : SP1Proof Y → SP1ProofMode
  | .core => .core
  | .compressed _ => .compressed
  | .plonk => .plonk
  | .groth16 => .groth16

def SP1Proof.tryAsCompressed {Y : HostExt} : SP1Proof Y → Option Y.AggregationProof
  | .compressed proof => some proof
  | _ => none

structure SP1ProofWithPublicValues (Y : HostExt) where
  proof : SP1Proof Y
  publicValues : List UInt8

/-- What `SP1Stdin` was given: the witness, and in proof mode the inner proof with its key. -/
structure SP1Stdin (X : Ext) (Y : HostExt) where
  witness : AggchainProofWitness X
  proof : Option (Y.AggregationProof × Y.VKey)

/-- The foreign functions and build-time constants of the services. -/
structure Host (Y : HostExt) where
  /-- `slice::sort_unstable_by_key` -/
  sortUnstableByKey : UnstableSort InsertedGER.position
  /-- `U256::from(GlobalIndex)` -/
  globalIndexToU256 : Y.GlobalIndex → U256
  /-- `HashableKey::bytes32_raw` -/
  bytes32Raw : Y.VKey → Digest
  /-- `HashableKey::hash_babybear` -/
  hashBabybear : Y.VKey → BabyBearDigest
  /-- `RANGE_VKEY_COMMITMENT` -/
  rangeVkeyCommitment : Digest
  /-- `AGGCHAIN_PROOF_PROGRAM_VERSION` -/
  programVersion : UInt16
  /-- `bincode::sp1v4().deserialize` -/
  deserializePublicValues : List UInt8 → Option AggchainProofPublicValues
  /-- `bincode::default().serialize` -/
  serializeVkey : Y.VKey → Except Report (List UInt8)
  serializeProof : Y.AggregationProof → Except Report (List UInt8)
  /-- `bincode::sp1v4().serialize` -/
  serializePublicValues : AggchainProofPublicValues → Except Report (List UInt8)
  /-- `SP1_CIRCUIT_VERSION` -/
  sp1CircuitVersion : String

/-! ## Requests, responses, errors -/

inductive FepVerification (X : Ext) (Y : HostExt) where
  | proof (aggregationProof : Y.AggregationProof)
      (aggregationProofPublicValues : AggregationProofPublicValues)
  | optimistic (signature : X.Signature)

structure AggchainProofBuilderRequest (X : Ext) (Y : HostExt) where
  fepVerification : FepVerification X Y
  /-- Last block in the agg_span_proof provided by the proposer.  Could be different from the
  requested_end_block requested by the agg-sender. -/
  endBlock : UInt64
  aggchainProofInputs : AggchainProofInputs Y

structure AggchainProverInputs (X : Ext) (Y : HostExt) where
  outputRoot : Digest
  stdin : SP1Stdin X Y

structure AggchainProofBuilderResponse where
  proof : List UInt8
  vkey : List UInt8
  aggchainParams : Digest
  lastProvenBlock : UInt64
  endBlock : UInt64
  outputRoot : Digest
  newLocalExitRoot : Digest
  publicValues : AggchainProofPublicValues

/-- `aggchain_proof_builder::Error`, the variants of a request. -/
inductive BuilderError where
  | l2ChainDataRetrievalError (source : ContractsError)
  | l1ChainDataRetrievalError (source : ContractsError)
  | proverFailedToExecute (source : Report)
  | generatedProofIsNotCompressed
  | unableToSerializeProof (source : Report)
  | unableToSerializeVkey (source : Report)
  | proverServiceReadyError (source : Report)
  | mismatchAggregationVkeyHash (got expected : Digest)
  | mismatchRangeVkeyCommitment (got expected : Digest)
  | mismatchAggregationProofPublicValues
      (expectedByContract expectedByVerifier : AggregationProofPublicValues)
  | unableToFetchTrustedSequencerAddress (source : ContractsError)
  | other (source : Report)
  deriving DecidableEq

/-- The builder after `AggchainProofBuilder::new`, with its client and its prover service.  Its
`range_vkey_commitment` is the constant of `Host`. -/
structure AggchainProofBuilder (X : Ext) (Y : HostExt) where
  contractsClient : ContractsClient X
  networkId : UInt32
  proverReady : Except Report Unit
  proverCall : SP1Stdin X Y → Except Report (SP1ProofWithPublicValues Y)
  aggregationVkey : Y.VKey
  aggchainVkey : Y.VKey
  staticCallCallerAddress : Address

/-! ## Chain data -/

section Model

variable {X : Ext} {Y : HostExt} (E : Env X) (H : Host Y)

/-- Validates that the OpSuccinct config keys match the expected values. -/
def validateOpSuccinctConfigKeys (opSuccinctConfig : OpSuccinctConfig) (aggregationVkey : Y.VKey)
    (expectedRangeVkeyCommitment : Digest) : Except BuilderError Unit :=
  let expectedAggregationVkeyHash := H.bytes32Raw aggregationVkey
  if opSuccinctConfig.aggregationVkeyHash ≠ expectedAggregationVkeyHash then
    .error (.mismatchAggregationVkeyHash opSuccinctConfig.aggregationVkeyHash
      expectedAggregationVkeyHash)
  else if opSuccinctConfig.rangeVkeyCommitment ≠ expectedRangeVkeyCommitment then
    .error (.mismatchRangeVkeyCommitment opSuccinctConfig.rangeVkeyCommitment
      expectedRangeVkeyCommitment)
  else .ok ()

/-- What is fetched for one request. -/
structure ChainData (X : Ext) where
  prevLocalExitRoot : Digest
  newLocalExitRoot : Digest
  l2PreRootOutputAtBlock : L2OutputAtBlock
  claimRootOutputAtBlock : L2OutputAtBlock
  opSuccinctConfig : OpSuccinctConfig
  prevL2BlockSketch : X.Sketch
  newL2BlockSketch : X.Sketch
  trustedSequencer : Address

namespace AggchainProofBuilder

variable (self : AggchainProofBuilder X Y)

/-- Fetch from RPCs. -/
def fetchChainData (lastProvenBlock endBlock : UInt64) : Except BuilderError (ChainData X) := do
  let client := self.contractsClient
  let prevLocalExitRoot ← (client.getL2LocalExitRoot lastProvenBlock).mapError
    .l2ChainDataRetrievalError
  let newLocalExitRoot ← (client.getL2LocalExitRoot endBlock).mapError .l2ChainDataRetrievalError
  let l2PreRootOutputAtBlock ← (client.getL2OutputAtBlock lastProvenBlock).mapError
    .l2ChainDataRetrievalError
  let claimRootOutputAtBlock ← (client.getL2OutputAtBlock endBlock).mapError
    .l2ChainDataRetrievalError
  let opSuccinctConfig ← client.getOpSuccinctConfig.mapError .l1ChainDataRetrievalError
  validateOpSuccinctConfigKeys H opSuccinctConfig self.aggregationVkey H.rangeVkeyCommitment
  let prevL2BlockSketch ← (client.getPrevL2BlockSketch lastProvenBlock).mapError
    .l2ChainDataRetrievalError
  let newL2BlockSketch ← (client.getNewL2BlockSketch endBlock).mapError .l2ChainDataRetrievalError
  let trustedSequencer ← client.getTrustedSequencerAddress.mapError
    .unableToFetchTrustedSequencerAddress
  pure { prevLocalExitRoot, newLocalExitRoot, l2PreRootOutputAtBlock, claimRootOutputAtBlock,
         opSuccinctConfig, prevL2BlockSketch, newL2BlockSketch, trustedSequencer }

variable (request : AggchainProofBuilderRequest X Y) (data : ChainData X)

/-- The blocks behind the last proven one, up to the end block. -/
def newBlocksRange : BlockRange :=
  ⟨request.aggchainProofInputs.lastProvenBlock + 1, request.endBlock⟩

/-- The claims of the range; all of them, because there are no unset claims yet. -/
def bridgeExitsClaimed : List GlobalIndexWithLeafHash :=
  (request.aggchainProofInputs.importedBridgeExits.filter
    (fun ib => (newBlocksRange request).contains ib.blockNumber)).map
    (fun ib => ⟨H.globalIndexToU256 ib.globalIndex, ib.bridgeExitHash⟩)

/-- The FEP inputs, before the verification mode is looked at. -/
def fepInputs : FepInputs X where
  l1Head := request.aggchainProofInputs.l1InfoTreeLeaf.inner.blockHash
  -- `request.end_block as u32`
  claimBlockNum := request.endBlock.toUInt32
  rollupConfigHash := data.opSuccinctConfig.rollupConfigHash
  prevStateRoot := data.l2PreRootOutputAtBlock.stateRoot
  prevWithdrawalStorageRoot := data.l2PreRootOutputAtBlock.withdrawalStorageRoot
  prevBlockHash := data.l2PreRootOutputAtBlock.latestBlockHash
  newStateRoot := data.claimRootOutputAtBlock.stateRoot
  newWithdrawalStorageRoot := data.claimRootOutputAtBlock.withdrawalStorageRoot
  newBlockHash := data.claimRootOutputAtBlock.latestBlockHash
  aggregationVkeyHash := H.hashBabybear self.aggregationVkey
  rangeVkeyCommitment := H.rangeVkeyCommitment
  trustedSequencer := data.trustedSequencer
  signatureOptimisticMode := none
  l1InfoTreeLeaf := request.aggchainProofInputs.l1InfoTreeLeaf
  l1HeadInclusionProof := request.aggchainProofInputs.l1InfoTreeMerkleProof

/-- In proof mode the values that came with the proof have to be the retrieved ones; in optimistic
mode the signature is added. -/
def checkFepVerification (fep : FepInputs X) : Except BuilderError (FepInputs X) :=
  match request.fepVerification with
  | .proof _ aggregationProofPublicValues =>
    let retrievedFromContracts := fep.aggregationProofPublicValues
    if aggregationProofPublicValues ≠ retrievedFromContracts then
      .error (.mismatchAggregationProofPublicValues retrievedFromContracts
        aggregationProofPublicValues)
    else .ok fep
  | .optimistic signature => .ok { fep with signatureOptimisticMode := some signature }

/-- The witness of the guest program. -/
def proverWitness (fep : FepInputs X) : AggchainProofWitness X :=
  let insertedGers := request.aggchainProofInputs.sortedInsertedGers H.sortUnstableByKey
    (newBlocksRange request)
  { prevLocalExitRoot := data.prevLocalExitRoot
    newLocalExitRoot := data.newLocalExitRoot
    l1InfoRoot := request.aggchainProofInputs.l1InfoTreeRootHash
    originNetwork := self.networkId
    fep
    commitImportedBridgeExits := E.importedBridgeExitsCommitmentV3 (bridgeExitsClaimed H request)
    bridgeWitness :=
      { insertedGers
        -- all of them, because there are no removed GERs yet
        rawInsertedGers := insertedGers.map (InsertedGER.ger E)
        removedGers := []
        bridgeExitsClaimed := bridgeExitsClaimed H request
        globalIndicesUnset := []
        prevL2BlockSketch := data.prevL2BlockSketch
        newL2BlockSketch := data.newL2BlockSketch
        callerAddress := self.staticCallCallerAddress } }

/-- Retrieve l1 and l2 public data needed for aggchain proof generation. -/
def retrieveChainData : Except BuilderError (AggchainProverInputs X Y) := do
  let data ← self.fetchChainData H request.aggchainProofInputs.lastProvenBlock request.endBlock
  let fep ← checkFepVerification request (self.fepInputs H request data)
  -- the log line computes the aggchain params: a panic there is caught by `sp1_async` in `call`
  match fep.aggchainParams E with
  | none => .error (.other "panic in to_hash_bn254")
  | some _ =>
    let witness := self.proverWitness E H request data fep
    let proof := match request.fepVerification with
      | .proof aggregationProof _ => some (aggregationProof, self.aggregationVkey)
      | .optimistic _ => none
    .ok { outputRoot := fep.computeClaimRoot, stdin := ⟨witness, proof⟩ }

/-- One request of the builder service. -/
def call : Except BuilderError AggchainProofBuilderResponse := do
  let aggchainProverInputs ← self.retrieveChainData E H request
  self.proverReady.mapError .proverServiceReadyError
  let proof ← (self.proverCall aggchainProverInputs.stdin).mapError .proverFailedToExecute
  match H.deserializePublicValues proof.publicValues with
  | none => .error (.other "panic in unwrap")
  | some publicInput =>
    match proof.proof.tryAsCompressed with
    | none => .error .generatedProofIsNotCompressed
    | some stark =>
      let vkey ← (H.serializeVkey self.aggchainVkey).mapError .unableToSerializeVkey
      let proof ← (H.serializeProof stark).mapError .unableToSerializeProof
      pure { proof, vkey, aggchainParams := publicInput.aggchainParams,
             lastProvenBlock := request.aggchainProofInputs.lastProvenBlock,
             endBlock := request.endBlock, outputRoot := aggchainProverInputs.outputRoot,
             newLocalExitRoot := publicInput.newLocalExitRoot, publicValues := publicInput }

end AggchainProofBuilder

end Model

/-! ## Specification -/

section Spec

variable {X : Ext} {Y : HostExt} {E : Env X} {H : Host Y}

theorem validateOpSuccinctConfigKeys_ok_iff {config : OpSuccinctConfig} {vkey : Y.VKey}
    {commitment : Digest} {u : Unit} :
    validateOpSuccinctConfigKeys H config vkey commitment = .ok u ↔
      config.aggregationVkeyHash = H.bytes32Raw vkey ∧ config.rangeVkeyCommitment = commitment := by
  simp only [validateOpSuccinctConfigKeys, Except.ite_error_eq_ok, not_not]
  exact and_congr_right fun _ => and_iff_left trivial

/-- The signature of an optimistic request. -/
def FepVerification.signature : FepVerification X Y → Option X.Signature
  | .proof _ _ => none
  | .optimistic signature => some signature

/-- The proof written to the stdin. -/
def FepVerification.innerProof (vkey : Y.VKey) :
    FepVerification X Y → Option (Y.AggregationProof × Y.VKey)
  | .proof aggregationProof _ => some (aggregationProof, vkey)
  | .optimistic _ => none

namespace AggchainProofBuilder

variable {self : AggchainProofBuilder X Y} {request : AggchainProofBuilderRequest X Y}
  {data : ChainData X}

/-- `data` is what the client answers. -/
structure Fetched (builder : AggchainProofBuilder X Y) (lastProvenBlock endBlock : UInt64)
    (data : ChainData X) : Prop where
  prevLocalExitRoot : builder.contractsClient.getL2LocalExitRoot lastProvenBlock =
    .ok data.prevLocalExitRoot
  newLocalExitRoot : builder.contractsClient.getL2LocalExitRoot endBlock = .ok data.newLocalExitRoot
  preRoot : builder.contractsClient.getL2OutputAtBlock lastProvenBlock =
    .ok data.l2PreRootOutputAtBlock
  claimRoot : builder.contractsClient.getL2OutputAtBlock endBlock = .ok data.claimRootOutputAtBlock
  config : builder.contractsClient.getOpSuccinctConfig = .ok data.opSuccinctConfig
  prevSketch : builder.contractsClient.getPrevL2BlockSketch lastProvenBlock =
    .ok data.prevL2BlockSketch
  newSketch : builder.contractsClient.getNewL2BlockSketch endBlock = .ok data.newL2BlockSketch
  sequencer : builder.contractsClient.getTrustedSequencerAddress = .ok data.trustedSequencer

/-- A client has one answer to each question. -/
theorem Fetched.unique {last stop : UInt64} {data data' : ChainData X}
    (h : Fetched self last stop data) (h' : Fetched self last stop data') : data = data' := by
  obtain ⟨p, n, pre, claim, config, ps, ns, seq⟩ := data
  obtain ⟨p', n', pre', claim', config', ps', ns', seq'⟩ := data'
  have eq_of_ok : ∀ {α : Type} {x : Except ContractsError α} {a b : α}, x = .ok a → x = .ok b →
      a = b := fun ha hb => Except.ok.inj (ha.symm.trans hb)
  obtain rfl := eq_of_ok h.prevLocalExitRoot h'.prevLocalExitRoot
  obtain rfl := eq_of_ok h.newLocalExitRoot h'.newLocalExitRoot
  obtain rfl := eq_of_ok h.preRoot h'.preRoot
  obtain rfl := eq_of_ok h.claimRoot h'.claimRoot
  obtain rfl := eq_of_ok h.config h'.config
  obtain rfl := eq_of_ok h.prevSketch h'.prevSketch
  obtain rfl := eq_of_ok h.newSketch h'.newSketch
  obtain rfl := eq_of_ok h.sequencer h'.sequencer
  rfl

/-- The keys of the L1 configuration are the ones of the builder. -/
def KeysMatch (H : Host Y) (self : AggchainProofBuilder X Y) (data : ChainData X) : Prop :=
  data.opSuccinctConfig.aggregationVkeyHash = H.bytes32Raw self.aggregationVkey ∧
    data.opSuccinctConfig.rangeVkeyCommitment = H.rangeVkeyCommitment

theorem fetchChainData_ok_iff {last stop : UInt64} : self.fetchChainData H last stop = .ok data ↔
    Fetched self last stop data ∧ KeysMatch H self data := by
  simp only [fetchChainData, Except.bind_eq_ok, Except.mapError_eq_ok, Except.pure_eq_ok,
    validateOpSuccinctConfigKeys_ok_iff]
  constructor
  · rintro ⟨prevLer, h1, newLer, h2, pre, h3, claim, h4, config, h5, -, ⟨h6, h7⟩, prevSketch, h8,
      newSketch, h9, sequencer, h10, rfl⟩
    exact ⟨⟨h1, h2, h3, h4, h5, h8, h9, h10⟩, h6, h7⟩
  · rintro ⟨h, hkeys⟩
    exact ⟨_, h.prevLocalExitRoot, _, h.newLocalExitRoot, _, h.preRoot, _, h.claimRoot, _, h.config,
      (), hkeys, _, h.prevSketch, _, h.newSketch, _, h.sequencer, rfl⟩

/-- The FEP inputs that go into the witness. -/
def retrievedFep (H : Host Y) (self : AggchainProofBuilder X Y)
    (request : AggchainProofBuilderRequest X Y) (data : ChainData X) : FepInputs X :=
  { self.fepInputs H request data with
    signatureOptimisticMode := request.fepVerification.signature }

/-- The values that came with a proof are the ones retrieved. -/
def PublicValuesMatch (H : Host Y) (self : AggchainProofBuilder X Y)
    (request : AggchainProofBuilderRequest X Y) (data : ChainData X) : Prop :=
  ∀ p pv, request.fepVerification = .proof p pv →
    pv = (self.fepInputs H request data).aggregationProofPublicValues

theorem checkFepVerification_ok_iff {fep : FepInputs X} :
    checkFepVerification request (self.fepInputs H request data) = .ok fep ↔
      PublicValuesMatch H self request data ∧ fep = self.retrievedFep H request data := by
  unfold checkFepVerification PublicValuesMatch retrievedFep
  cases request.fepVerification with
  | proof p pv =>
    simp only [Except.ite_error_eq_ok, not_not, Except.ok.injEq, FepVerification.proof.injEq,
      FepVerification.signature]
    constructor
    · rintro ⟨hpv, rfl⟩
      exact ⟨fun _ _ h => h.2 ▸ hpv, rfl⟩
    · rintro ⟨hpv, rfl⟩
      exact ⟨hpv p pv ⟨rfl, rfl⟩, rfl⟩
  | optimistic signature =>
    simp only [Except.ok.injEq, FepVerification.signature, reduceCtorEq, false_implies,
      implies_true, true_and, eq_comm]

/-- **Specification of `retrieve_chain_data`.** -/
theorem retrieveChainData_ok_iff {inputs : AggchainProverInputs X Y} :
    self.retrieveChainData E H request = .ok inputs ↔
      ∃ data, Fetched self request.aggchainProofInputs.lastProvenBlock request.endBlock data ∧
        KeysMatch H self data ∧ PublicValuesMatch H self request data ∧
        (∃ params, (self.retrievedFep H request data).aggchainParams E = some params) ∧
        inputs =
          { outputRoot := data.claimRootOutputAtBlock.stateRoot
            stdin := ⟨self.proverWitness E H request data (self.retrievedFep H request data),
              request.fepVerification.innerProof self.aggregationVkey⟩ } := by
  simp only [retrieveChainData, Except.bind_eq_ok, fetchChainData_ok_iff,
    checkFepVerification_ok_iff, and_assoc]
  refine exists_congr fun data => and_congr_right fun _ => and_congr_right fun _ => ?_
  have hroot : (self.retrievedFep H request data).computeClaimRoot =
    data.claimRootOutputAtBlock.stateRoot := rfl
  have hproof : (match request.fepVerification with
      | .proof aggregationProof _ => some (aggregationProof, self.aggregationVkey)
      | .optimistic _ => none) = request.fepVerification.innerProof self.aggregationVkey := by
    cases request.fepVerification <;> rfl
  constructor
  · rintro ⟨fep, hpv, rfl, hrest⟩
    refine ⟨hpv, ?_⟩
    cases hparams : (self.retrievedFep H request data).aggchainParams E with
    | none => rw [hparams] at hrest; cases hrest
    | some params =>
      rw [hparams] at hrest
      simp only [hproof, hroot] at hrest
      exact ⟨⟨params, rfl⟩, (Except.ok.inj hrest).symm⟩
  · rintro ⟨hpv, ⟨params, hparams⟩, rfl⟩
    refine ⟨_, hpv, rfl, ?_⟩
    rw [hparams]
    simp only [hproof, hroot]

/-- **Specification of the builder's `call`.** -/
theorem call_ok_iff {response : AggchainProofBuilderResponse} :
    self.call E H request = .ok response ↔
      ∃ inputs proof publicInput stark vkeyBytes proofBytes,
        self.retrieveChainData E H request = .ok inputs ∧ self.proverReady = .ok () ∧
        self.proverCall inputs.stdin = .ok proof ∧
        H.deserializePublicValues proof.publicValues = some publicInput ∧
        proof.proof.tryAsCompressed = some stark ∧
        H.serializeVkey self.aggchainVkey = .ok vkeyBytes ∧
        H.serializeProof stark = .ok proofBytes ∧
        response =
          { proof := proofBytes
            vkey := vkeyBytes
            aggchainParams := publicInput.aggchainParams
            lastProvenBlock := request.aggchainProofInputs.lastProvenBlock
            endBlock := request.endBlock
            outputRoot := inputs.outputRoot
            newLocalExitRoot := publicInput.newLocalExitRoot
            publicValues := publicInput } := by
  simp only [call, Except.bind_eq_ok, Except.mapError_eq_ok]
  constructor
  · rintro ⟨inputs, hinputs, ⟨⟩, hready, proof, hproof, hrest⟩
    cases hpv : H.deserializePublicValues proof.publicValues with
    | none => rw [hpv] at hrest; cases hrest
    | some publicInput =>
      cases hstark : proof.proof.tryAsCompressed with
      | none => rw [hpv, hstark] at hrest; cases hrest
      | some stark =>
        rw [hpv, hstark] at hrest
        simp only [Except.bind_eq_ok, Except.mapError_eq_ok, Except.pure_eq_ok] at hrest
        obtain ⟨vkeyBytes, hvkey, proofBytes, hbytes, rfl⟩ := hrest
        exact ⟨inputs, proof, publicInput, stark, vkeyBytes, proofBytes, hinputs, hready, hproof,
          hpv, hstark, hvkey, hbytes, rfl⟩
  · rintro ⟨inputs, proof, publicInput, stark, vkeyBytes, proofBytes, hinputs, hready, hproof, hpv,
      hstark, hvkey, hbytes, rfl⟩
    refine ⟨inputs, hinputs, (), hready, proof, hproof, ?_⟩
    rw [hpv, hstark]
    simp only [Except.bind_eq_ok, Except.mapError_eq_ok, Except.pure_eq_ok]
    exact ⟨vkeyBytes, hvkey, proofBytes, hbytes, rfl⟩

end AggchainProofBuilder

end Spec

end Aggchain
