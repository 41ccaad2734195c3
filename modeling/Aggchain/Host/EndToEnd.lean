import Aggchain.Host.Selection

/-!
# Aggchain.Host.EndToEnd — what an answer of the prover says about the chains

The layers between a gRPC answer and the contracts, put together: the endpoint converts and checks,
the proposer or the sequencer vouches for the transition, the builder selects and fetches, the guest
recomputes.

`generate_settles`: every answer of either endpoint stands for one range of the L2 chain.  The
leaves and exits of the request that belong to the range are what the contracts recorded in it, none
of it was taken back, and the transition between the two blocks is proven or signed.
-/

namespace Aggchain

open AggchainProofBuilder (InRange newBlocksRange selectedGers bridgeExitsClaimed contains_succ
  succ_lt_of_lt)

/-! ## The full execution proof -/

namespace FepInputs

variable {X : Ext} {E : Env X} {f : FepInputs X} {l1InfoRoot ler commit : Digest}

theorem verifyL1Head_ok_iff {u : Unit} : f.verifyL1Head E l1InfoRoot = .ok u ↔
    f.l1Head = f.l1InfoTreeLeaf.inner.blockHash ∧ f.l1HeadInclusionProof.root = l1InfoRoot ∧
      E.merkleProofVerify f.l1HeadInclusionProof (E.l1InfoTreeLeafHash f.l1InfoTreeLeaf)
        f.l1InfoTreeLeaf.l1InfoTreeIndex = true := by
  unfold verifyL1Head
  by_cases hhead : f.l1Head = f.l1InfoTreeLeaf.inner.blockHash
  · rw [if_neg (not_not.mpr hhead)]
    simp only [Except.ite_error_eq_ok, not_not, Except.pure_eq_ok, hhead, true_and, and_true]
    exact ⟨fun h => ⟨h.2.symm, h.1⟩, fun h => ⟨h.2, h.1.symm⟩⟩
  · rw [if_pos hhead]
    constructor
    · intro h
      cases h
    · intro h
      exact absurd h.1 hhead

/-- Without a signature, the check is the L1 head and the inner proof. -/
theorem verify_proven_ok_iff (hmode : f.signatureOptimisticMode = none) :
    f.verify E l1InfoRoot ler commit = .ok () ↔
      f.verifyL1Head E l1InfoRoot = .ok () ∧
        E.verifySp1Proof f.aggregationVkeyHash.toHashU32 (f.sha256PublicValues E) = true := by
  simp only [verify, hmode, Except.bind_eq_ok, Except.mapError_eq_ok]
  constructor
  · rintro ⟨⟨⟩, hhead, hrest⟩
    split_ifs at hrest with hproof
    exact ⟨hhead, hproof⟩
  · rintro ⟨hhead, hproof⟩
    exact ⟨(), hhead, if_pos hproof⟩

end FepInputs

/-! ## Two accounts of one range -/

namespace L2Events

variable {X : Ext} (E : Env X) (V : L2View)

/-- The two accounts are the same, up to failures of the hash chains that they exhibit. -/
structure Agree (prev : Digest) (ger bridge : Address) (a b : L2Events) : Prop where
  insertedGers : HashChain.Bound E.chainStep (V.bytes32 prev ger .insertedGERHashChain)
    a.insertedGers b.insertedGers
  removedGers : HashChain.Bound E.chainStep (V.bytes32 prev ger .removedGERHashChain)
    a.removedGers b.removedGers
  claimed : HashChain.Bound E.chainStep (V.bytes32 prev bridge .claimedGlobalIndexHashChain)
    a.claimed b.claimed
  unset : HashChain.Bound E.chainStep (V.bytes32 prev bridge .unsetGlobalIndexHashChain)
    a.unset b.unset

variable {E V}

theorem Folded.agree {prev new : Digest} {ger bridge : Address} {a b : L2Events}
    (ha : a.Folded E V prev new ger bridge) (hb : b.Folded E V prev new ger bridge) :
    a.Agree E V prev ger bridge b where
  insertedGers := HashChain.bound_of_fold_eq (ha.insertedGers.trans hb.insertedGers.symm)
  removedGers := HashChain.bound_of_fold_eq (ha.removedGers.trans hb.removedGers.symm)
  claimed := HashChain.bound_of_fold_eq (ha.claimed.trans hb.claimed.symm)
  unset := HashChain.bound_of_fold_eq (ha.unset.trans hb.unset.symm)

end L2Events

/-- The events that a bridge witness lists. -/
def BridgeWitness.events {X : Ext} (E : Env X) (w : BridgeWitness X) : L2Events where
  insertedGers := w.rawInsertedGers
  removedGers := w.removedGers
  claimed := w.bridgeExitsClaimed.map E.claimCommitment
  unset := w.globalIndicesUnset.map U256.toBeBytes

/-- An accepted input lists events that the contracts folded, with the bridge named at the new
block. -/
theorem BridgeConstraintsInput.Accepted.folded {X : Ext} {E : Env X} {V : L2View}
    {inp : BridgeConstraintsInput X} {bridge : Address} (hE : ExecutorSound E V)
    (h : Accepted E inp bridge) :
    bridge = V.bridgeAddress inp.newL2BlockHash inp.gerAddr ∧
      (inp.bridgeWitness.events E).Folded E V inp.prevL2BlockHash inp.newL2BlockHash inp.gerAddr
        bridge := by
  refine ⟨hE.answers_bridgeAddress h.bridgeAddress, ?_⟩
  exact
    { insertedGers := h.insertedGers.foldedInto hE (by decide)
      removedGers := h.removedGers.foldedInto hE (by decide)
      claimed := h.claimed.foldedInto hE (by decide)
      unset := h.unset.foldedInto hE (by decide) }

/-! ## What is settled -/

section Settled

variable {X : Ext} {Y : HostExt} (E : Env X) (H : Host Y) (V : L2View)

/-- The exits of the request for the blocks behind `a`, up to `b`. -/
def AggchainProofInputs.claimsIn (self : AggchainProofInputs Y) (a b : UInt64) :
    List GlobalIndexWithLeafHash :=
  (self.importedBridgeExits.filter (fun ib => InRange a b ib.blockNumber)).map
    (fun ib => ⟨H.globalIndexToU256 ib.globalIndex, ib.bridgeExitHash⟩)

/-- What happened in the range if the GERs `gers` were inserted: the exits of the request were
claimed, no GER was removed and no claim unset. -/
def AggchainProofInputs.eventsIn (self : AggchainProofInputs Y) (gers : List InsertedGER)
    (stop : UInt64) : L2Events where
  insertedGers := gers.map (InsertedGER.ger E)
  removedGers := []
  claimed := (self.claimsIn H self.lastProvenBlock stop).map E.claimCommitment
  unset := []

/-- The public values stand for the range of the request up to `stop`, between the blocks `prev` and
`new` of the chain `V`. -/
structure Settled (inputs : AggchainProofInputs Y) (stop : UInt64) (prev new : Digest)
    (pv : AggchainProofPublicValues) : Prop where
  newLocalExitRoot : pv.newLocalExitRoot =
    V.bytes32 new (V.bridgeAddress new L2_GER_ADDR) .getRoot
  l1InfoRoot : pv.l1InfoRoot = inputs.l1InfoTreeRootHash
  commitImportedBridgeExits : pv.commitImportedBridgeExits =
    E.importedBridgeExitsCommitmentV3 (inputs.claimsIn H inputs.lastProvenBlock stop)
  included : ∀ e ∈ inputs.gersIn inputs.lastProvenBlock stop,
    IncludedInL1 E inputs.l1InfoTreeRootHash (E.l1InfoTreeLeafGer e.insertedGer.l1Leaf)
  /-- the leaves of the range, by position, and its exits are what the contracts recorded -/
  events : ∃ gers : List InsertedGER,
    gers.Perm ((inputs.gersIn inputs.lastProvenBlock stop).map
      InsertedGerWithBlockNumber.toInsertedGER) ∧
    gers.Pairwise (fun g g' => g.position ≤ g'.position) ∧
    (inputs.eventsIn E H gers stop).Folded E V prev new L2_GER_ADDR
      (V.bridgeAddress new L2_GER_ADDR) ∧
    ∀ real : L2Events,
      real.Folded E V prev new L2_GER_ADDR (V.bridgeAddress new L2_GER_ADDR) →
      (inputs.eventsIn E H gers stop).Agree E V prev L2_GER_ADDR
        (V.bridgeAddress new L2_GER_ADDR) real

/-- The transition that is proven or signed. -/
def AggchainProofInputs.transition (inputs : AggchainProofInputs Y) (stop : UInt64)
    (prev new : L2OutputAtBlock) (config : OpSuccinctConfig) (sequencer : Address) :
    AggregationProofPublicValues where
  l1Head := inputs.l1InfoTreeLeaf.inner.blockHash
  l2PreRoot := prev.stateRoot
  l2PostRoot := new.stateRoot
  -- `end_block as u32`, widened again
  l2BlockNumber := stop.toUInt32.toUInt64
  rollupConfigHash := config.rollupConfigHash
  multiBlockVkey := H.rangeVkeyCommitment
  proverAddress := sequencer

/-- Who vouches for a transition: in normal mode a proof that the service verified and the guest
verified again, for an L1 head in the L1 info tree; in optimistic mode the sequencer, who signed it
together with the new local exit root and the imported exits. -/
def Vouched (service : AggchainProofService X Y) (pv : AggchainProofPublicValues)
    (t : AggregationProofPublicValues) : AggchainProofServiceRequest X Y → Prop
  | .normal inputs =>
    (∃ proof, service.proposerService.verifyAggregatedProof proof
        service.proposerService.aggregationVkey = .ok () ∧
      service.proposerService.abiDecodePublicValues proof.publicValues = .ok t) ∧
    E.verifySp1Proof (H.hashBabybear service.aggchainProofBuilder.aggregationVkey).toHashU32
      (E.sha256 t.abiEncode) = true ∧
    inputs.l1InfoTreeMerkleProof.root = inputs.l1InfoTreeRootHash ∧
    E.merkleProofVerify inputs.l1InfoTreeMerkleProof (E.l1InfoTreeLeafHash inputs.l1InfoTreeLeaf)
      inputs.l1InfoTreeLeaf.l1InfoTreeIndex = true
  | .optimistic inputs =>
    E.recoverAddressFromPrehash inputs.signatureOptimisticMode
      (E.keccak256Combine [E.sha256 t.abiEncode, pv.newLocalExitRoot,
        pv.commitImportedBridgeExits]) = .ok t.proverAddress

/-- An answer of the service, traced back to the chains. -/
structure AnswerSettled (service : AggchainProofService X Y)
    (request : AggchainProofServiceRequest X Y) (response : AggchainProofServiceResponse) :
    Prop where
  lastProvenBlock : response.lastProvenBlock = request.inputs.lastProvenBlock
  localExitRootHash : response.localExitRootHash = response.publicValues.newLocalExitRoot
  aggchainParams : response.aggchainParams = response.publicValues.aggchainParams
  settled : ∃ prev new config sequencer,
    service.aggchainProofBuilder.contractsClient.getL2OutputAtBlock
      request.inputs.lastProvenBlock = .ok prev ∧
    service.aggchainProofBuilder.contractsClient.getL2OutputAtBlock response.endBlock = .ok new ∧
    service.aggchainProofBuilder.contractsClient.getOpSuccinctConfig = .ok config ∧
    service.aggchainProofBuilder.contractsClient.getTrustedSequencerAddress = .ok sequencer ∧
    response.customChainData = computeCustomChainData H new.stateRoot response.endBlock ∧
    Settled E H V request.inputs response.endBlock prev.latestBlockHash new.latestBlockHash
      response.publicValues ∧
    Vouched E H service response.publicValues
      (request.inputs.transition H response.endBlock prev new config sequencer) request

end Settled

section Answer

variable {X : Ext} {Y : HostExt} {E : Env X} {H : Host Y} {V : L2View}

/-- What the builder answers is what the guest accepted for the witness it assembled. -/
theorem builderCall_accepted {builder : AggchainProofBuilder X Y}
    {br : AggchainProofBuilderRequest X Y} {r : AggchainProofBuilderResponse}
    (hprover : HonestProver E H builder) (hcall : builder.call E H br = .ok r) :
    ∃ data, builder.Fetched br.aggchainProofInputs.lastProvenBlock br.endBlock data ∧
      builder.PublicValuesMatch H br data ∧
      (builder.proverWitness E H br data (builder.retrievedFep H br data)).verifyAggchainInputs E =
        .ok r.publicValues ∧
      r.outputRoot = data.claimRootOutputAtBlock.stateRoot ∧
      r.newLocalExitRoot = r.publicValues.newLocalExitRoot ∧
      r.aggchainParams = r.publicValues.aggchainParams := by
  obtain ⟨inputs, proof, pv, stark, vkeyBytes, proofBytes, hinputs, -, hproof, hpv, -, -, -, rfl⟩ :=
    AggchainProofBuilder.call_ok_iff.mp hcall
  obtain ⟨data, hfetched, -, hmatch, -, rfl⟩ :=
    AggchainProofBuilder.retrieveChainData_ok_iff.mp hinputs
  obtain ⟨pv', hpv', hguest⟩ := hprover _ _ hproof
  obtain rfl := Option.some.inj (hpv.symm.trans hpv')
  exact ⟨data, hfetched, hmatch, hguest, rfl, rfl, rfl⟩

/-- The range behind `last`, in the terms of the request. -/
theorem bridgeExitsClaimed_eq_claimsIn {br : AggchainProofBuilderRequest X Y}
    (hmax : br.aggchainProofInputs.lastProvenBlock.toNat + 1 < 2 ^ 64) :
    bridgeExitsClaimed H br =
      br.aggchainProofInputs.claimsIn H br.aggchainProofInputs.lastProvenBlock br.endBlock := by
  have hcovers : (newBlocksRange br).Covers br.aggchainProofInputs.lastProvenBlock br.endBlock :=
    contains_succ hmax
  unfold bridgeExitsClaimed AggchainProofInputs.claimsIn
  simp only [hcovers _]

/-- The witness of the builder, accepted by the guest, settles the range of the request. -/
theorem settled_of_accepted {builder : AggchainProofBuilder X Y}
    {br : AggchainProofBuilderRequest X Y} {data : ChainData X} {pv : AggchainProofPublicValues}
    (hE : ExecutorSound E V) (hmax : br.aggchainProofInputs.lastProvenBlock.toNat + 1 < 2 ^ 64)
    (hguest : (builder.proverWitness E H br data
      (builder.retrievedFep H br data)).verifyAggchainInputs E = .ok pv) :
    Settled E H V br.aggchainProofInputs br.endBlock data.l2PreRootOutputAtBlock.latestBlockHash
      data.claimRootOutputAtBlock.latestBlockHash pv := by
  obtain ⟨-, hbridge, hvalues⟩ := AggchainProofWitness.verifyAggchainInputs_ok_iff.mp hguest
  obtain ⟨e, -, rfl⟩ := AggchainProofWitness.publicValues_eq_some.mp hvalues
  obtain ⟨bridge, hacc⟩ := BridgeConstraintsInput.verify_ok_iff.mp hbridge
  obtain ⟨rfl, hfolded⟩ := hacc.folded hE
  have hclaims := bridgeExitsClaimed_eq_claimsIn (H := H) hmax
  have hperm : (selectedGers H br).Perm ((br.aggchainProofInputs.gersIn
      br.aggchainProofInputs.lastProvenBlock br.endBlock).map
      InsertedGerWithBlockNumber.toInsertedGER) :=
    AggchainProofInputs.sortedInsertedGers_perm (contains_succ hmax)
  -- the events of the witness, in the terms of the request
  have hevents : ((builder.proverWitness E H br data (builder.retrievedFep H br data)).bridgeWitness
      |>.events E) = br.aggchainProofInputs.eventsIn E H (selectedGers H br) br.endBlock := by
    unfold BridgeWitness.events AggchainProofInputs.eventsIn
    rw [← hclaims]
    rfl
  have hlisted : (br.aggchainProofInputs.eventsIn E H (selectedGers H br) br.endBlock).Folded E V
      data.l2PreRootOutputAtBlock.latestBlockHash data.claimRootOutputAtBlock.latestBlockHash
      L2_GER_ADDR (V.bridgeAddress data.claimRootOutputAtBlock.latestBlockHash L2_GER_ADDR) :=
    hevents ▸ hfolded
  refine
    { newLocalExitRoot := hE.answers_bytes32 (by decide) hacc.newLer
      l1InfoRoot := rfl
      commitImportedBridgeExits := ?_
      included := ?_
      events := ⟨selectedGers H br, hperm, H.sortUnstableByKey.sorted _, hlisted,
        fun real hreal => hlisted.agree hreal⟩ }
  · rw [← hclaims]
    rfl
  · intro e he
    have hmem : e.toInsertedGER ∈ selectedGers H br :=
      hperm.mem_iff.mpr (List.mem_map_of_mem he)
    obtain ⟨hroot, hpath⟩ := InsertedGER.verify_eq_true_iff.mp (hacc.proofs _ hmem)
    exact ⟨e.insertedGer.l1Leaf, e.insertedGer.proofGerL1root, rfl, hroot, hpath⟩

variable {service : AggchainProofService X Y} {request : AggchainProofServiceRequest X Y}
  {response : AggchainProofServiceResponse}

/-- An answer that was built is settled, once the FEP check of the guest is known to vouch for it. -/
theorem answerSettled_of_build (hprover : HonestProver E H service.aggchainProofBuilder)
    (hE : ExecutorSound E V) {br : AggchainProofBuilderRequest X Y}
    (hinputs : br.aggchainProofInputs = request.inputs)
    (hmax : request.inputs.lastProvenBlock.toNat + 1 < 2 ^ 64)
    (hbuild : service.buildAndRespond E H br = .ok response)
    (hvouch : ∀ data pv, service.aggchainProofBuilder.PublicValuesMatch H br data →
      (service.aggchainProofBuilder.retrievedFep H br data).verify E
        request.inputs.l1InfoTreeRootHash pv.newLocalExitRoot pv.commitImportedBridgeExits = .ok () →
      Vouched E H service pv (request.inputs.transition H br.endBlock data.l2PreRootOutputAtBlock
        data.claimRootOutputAtBlock data.opSuccinctConfig data.trustedSequencer) request) :
    AnswerSettled E H V service request response := by
  obtain ⟨r, hcall, rfl⟩ := AggchainProofService.buildAndRespond_ok_iff.mp hbuild
  obtain ⟨data, hfetched, hmatch, hguest, hroot, hler, hparams⟩ :=
    builderCall_accepted hprover hcall
  have hsettled := settled_of_accepted hE (hinputs ▸ hmax) hguest
  obtain ⟨hfep, -, hvalues⟩ := AggchainProofWitness.verifyAggchainInputs_ok_iff.mp hguest
  obtain ⟨e, -, hpv⟩ := AggchainProofWitness.publicValues_eq_some.mp hvalues
  rw [hinputs] at hfetched hsettled
  have hfep' : (service.aggchainProofBuilder.retrievedFep H br data).verify E
      request.inputs.l1InfoTreeRootHash r.publicValues.newLocalExitRoot
      r.publicValues.commitImportedBridgeExits = .ok () := by
    rw [hpv, ← hinputs]
    exact hfep
  refine ⟨congrArg AggchainProofInputs.lastProvenBlock hinputs, hler, hparams, ?_⟩
  refine ⟨_, _, _, _, hfetched.preRoot, hfetched.claimRoot, hfetched.config, hfetched.sequencer,
    ?_, hsettled, hvouch data _ hmatch hfep'⟩
  rw [hroot]

/-- **Every answer of the service is settled.** -/
theorem AggchainProofService.call_settled (hprover : HonestProver E H service.aggchainProofBuilder)
    (hE : ExecutorSound E V) (hmax : request.inputs.lastProvenBlock.toNat + 1 < 2 ^ 64)
    (hok : service.call E H request = .ok response) :
    AnswerSettled E H V service request response := by
  cases request with
  | normal inputs =>
    simp only [call, handleNormalRequest, Except.bind_eq_ok, Except.mapError_eq_ok] at hok
    obtain ⟨p, hp, hbuild⟩ := hok
    obtain ⟨reply, proof, id, -, -, -, -, -, hdecode, hverify, -⟩ :=
      ProposerService.call_ok_iff.mp hp
    refine answerSettled_of_build hprover hE rfl hmax hbuild ?_
    intro data pv hmatch hfep
    -- the values that came with the proposer's proof are the transition
    have hvalues := hmatch _ _ rfl
    obtain ⟨hhead, hproof⟩ := (FepInputs.verify_proven_ok_iff rfl).mp hfep
    obtain ⟨-, hroot, hpath⟩ := FepInputs.verifyL1Head_ok_iff.mp hhead
    exact ⟨⟨proof, hverify, hvalues ▸ hdecode⟩, hproof, hroot, hpath⟩
  | optimistic inputs =>
    refine answerSettled_of_build hprover hE rfl hmax hok ?_
    intro data pv _ hfep
    exact (FepInputs.verify_signed_ok_iff rfl).mp hfep

end Answer

/-! ## The endpoints -/

namespace GrpcService

variable {X : Ext} {Y : HostExt} {W : Wire X Y} {E : Env X} {H : Host Y} {V : L2View}
  {self : GrpcService X Y}

/-- A range that passes the check of an endpoint starts behind a block that has a successor. -/
theorem succ_lt_of_checked {endpoint : String} {last requested : UInt64} {u : Unit}
    (h : checkBlockRange endpoint last requested = .ok u) : last.toNat + 1 < 2 ^ 64 := by
  unfold checkBlockRange at h
  split_ifs at h with hle
  exact succ_lt_of_lt (UInt64.not_le.mp hle)

/-- **End to end.**  Every answer of either endpoint carries an answer of the service that is
settled, for the inputs that the message converts to. -/
theorem generate_settles (hprover : HonestProver E H self.service.aggchainProofBuilder)
    (hE : ExecutorSound E V) :
    (∀ (request : GenerateAggchainProofRequest W) (response : GenerateAggchainProofResponse W),
      (self.generateAggchainProof E H request).result = .ok response →
      ∃ inputs answer, request.Converts inputs ∧
        AnswerSettled E H V self.service (.normal inputs) answer ∧
        response =
          { aggchainProof := some (aggchainProofMessage H W (inputs.context H) answer)
            lastProvenBlock := inputs.lastProvenBlock
            endBlock := answer.endBlock
            localExitRootHash := some (W.ofDigest answer.publicValues.newLocalExitRoot)
            customChainData := answer.customChainData }) ∧
    ∀ (request : GenerateOptimisticAggchainProofRequest W)
      (response : GenerateOptimisticAggchainProofResponse W),
      (self.generateOptimisticAggchainProof E H request).result = .ok response →
      ∃ inner inputs signature answer, request.aggchainProofRequest = some inner ∧
        inner.Converts inputs ∧ Present request.optimisticModeSignature W.signature signature ∧
        AnswerSettled E H V self.service (.optimistic ⟨inputs, signature⟩) answer ∧
        answer.endBlock = inner.requestedEndBlock ∧
        response =
          { aggchainProof := some (aggchainProofMessage H W (inputs.context H) answer)
            localExitRootHash := some (W.ofDigest answer.publicValues.newLocalExitRoot)
            customChainData := answer.customChainData } := by
  refine ⟨?_, ?_⟩
  · intro request response hok
    simp only [generateAggchainProof, Traced.bind_ok_iff, Traced.result_ofExcept,
      Except.mapError_eq_ok, Traced.result_pure, Except.ok.injEq] at hok
    obtain ⟨_, hcheck, inputs, hinputs, answer, hanswer, rfl⟩ := hok
    have hconv := GenerateAggchainProofRequest.converts_of_tryInto hinputs
    have hmax : inputs.lastProvenBlock.toNat + 1 < 2 ^ 64 := by
      rw [hconv.lastProvenBlock]
      exact succ_lt_of_checked hcheck
    have hsettled : AnswerSettled E H V self.service (.normal inputs) answer :=
      AggchainProofService.call_settled hprover hE hmax (issue_ok hanswer)
    refine ⟨inputs, answer, hconv, hsettled, ?_⟩
    rw [hsettled.lastProvenBlock, hsettled.localExitRootHash]
    rfl
  · intro request response hok
    simp only [generateOptimisticAggchainProof, Traced.bind_ok_iff, Traced.result_ofExcept,
      Except.mapError_eq_ok, Traced.result_pure, Except.ok.injEq] at hok
    obtain ⟨inputs, hinputs, _, hcheck, answer, hanswer, rfl⟩ := hok
    obtain ⟨hsignature, inner, hinner, hconverted⟩ :=
      GenerateOptimisticAggchainProofRequest.tryInto_ok_iff.mp hinputs
    have hconv := GenerateAggchainProofRequest.converts_of_tryInto hconverted
    have hcall := issue_ok hanswer
    have hsettled : AnswerSettled E H V self.service (.optimistic inputs) answer :=
      AggchainProofService.call_settled hprover hE (succ_lt_of_checked hcheck) hcall
    obtain ⟨r, -, hanswer'⟩ := AggchainProofService.buildAndRespond_ok_iff.mp hcall
    refine ⟨inner, inputs.aggchainProofInputs, inputs.signatureOptimisticMode, answer, hinner, hconv,
      hsignature, hsettled, ?_, ?_⟩
    · rw [hanswer', ← hconv.requestedEndBlock]
    · rw [hsettled.localExitRootHash]

end GrpcService

/-! ## The sample range -/

namespace Sample

theorem executorSound_rpcEnv : ExecutorSound rpcEnv quietView where
  bytes32 := (executorSound_onChain proofEnv quietView).bytes32
  address := (executorSound_onChain proofEnv quietView).address

theorem honestProver_grpc (stop : UInt64) (params : Digest) :
    HonestProver rpcEnv (serviceHost params) (grpc stop params).service.aggchainProofBuilder := by
  intro stdin proof hproof
  unfold grpc at hproof
  dsimp only at hproof
  split_ifs at hproof with h
  exact ⟨committed exitsCommitment params, rfl, h⟩

end Sample

open Sample

/-- The answer for the sample message: the GER of block `2` was inserted and its claim made. -/
theorem generate_settles_sample : ∃ response inputs answer,
    ((grpc 2 paramsSp1).generateAggchainProof rpcEnv (serviceHost paramsSp1) message).result =
      .ok response ∧ message.Converts inputs ∧ response.endBlock = answer.endBlock ∧
    AnswerSettled rpcEnv (serviceHost paramsSp1) quietView (grpc 2 paramsSp1).service
      (.normal inputs) answer := by
  obtain ⟨response, hok, -⟩ := generate_endBlock_two
  obtain ⟨inputs, answer, hconv, hsettled, rfl⟩ := (GrpcService.generate_settles
    (honestProver_grpc 2 paramsSp1) executorSound_rpcEnv).1 message response hok
  exact ⟨_, inputs, answer, hok, hconv, rfl, hsettled⟩

end Aggchain
