import Aggchain.Host.Completeness
import Aggchain.Host.Proposer

/-!
# Aggchain.Host.Service — `aggchain-proof-service`

A normal request goes through the proposer and the builder, an optimistic one through the builder
alone; both answers carry the custom chain data that L1 decodes.

L1 recomputes the chain parameters from the custom chain data and its own configuration.
`call_matches_l1_iff`: the answer agrees with that computation exactly when the end block fits the
32 bits it is given in the witness.
-/

namespace Aggchain

/-! ## Custom chain data (`custom_chain_data/mod.rs`) -/

section CustomChainData

/-- `AGGCHAIN_TYPE` -/
def aggchainType : UInt16 := 1

/-- `VKeySelector::new` -/
def vKeySelector (program aggchainType : UInt16) : Bytes 4 :=
  Bytes.ofNat 4 ((program.toUInt32 <<< 16) ||| aggchainType.toUInt32).toNat

variable {Y : HostExt} (H : Host Y)

/-- `CustomChainData::abi_encode`: three words, the selector left-aligned. -/
def computeCustomChainData (outputRoot : Digest) (l2BlockNumber : UInt64) : List UInt8 :=
  (vKeySelector H.programVersion aggchainType).val ++ List.replicate 28 0 ++ outputRoot.val ++
    Bytes.beBytes 32 l2BlockNumber.toNat

/-- ABI decoding of `(bytes4, bytes32, uint256)`. -/
def abiDecodeCustomChainData (data : List UInt8) : Option (Bytes 4 × Digest × U256) :=
  if h : data.length = 96 ∧ (data.drop 4).take 28 = List.replicate 28 0 then
    some (⟨data.take 4, by simp [h.1]⟩, ⟨(data.drop 32).take 32, by simp [h.1]⟩,
      BitVec.ofNat 256 (Bytes.ofBe (data.drop 64)))
  else none

/-- The program version in the high 16 bits, the aggchain type in the low 16. -/
theorem ofBe_vKeySelector (program type : UInt16) :
    Bytes.ofBe (vKeySelector program type).val = program.toNat * 2 ^ 16 + type.toNat := by
  have hp : program.toNat < 2 ^ 16 := program.toNat_lt
  have ht : type.toNat < 2 ^ 16 := type.toNat_lt
  have hval : ((program.toUInt32 <<< 16) ||| type.toUInt32).toNat =
      program.toNat * 2 ^ 16 + type.toNat := by
    rw [UInt32.toNat_or, UInt32.toNat_shiftLeft, UInt16.toNat_toUInt32, UInt16.toNat_toUInt32]
    have hshift : program.toNat <<< ((16 : UInt32).toNat % 32) % 2 ^ 32 = program.toNat <<< 16 := by
      show program.toNat <<< 16 % 2 ^ 32 = program.toNat <<< 16
      rw [Nat.shiftLeft_eq]
      omega
    rw [hshift, ← Nat.shiftLeft_add_eq_or_of_lt ht, Nat.shiftLeft_eq]
  show Bytes.ofBe (Bytes.beBytes 4 _) = _
  rw [hval, Bytes.ofBe_beBytes_of_lt]
  omega

theorem abiDecode_computeCustomChainData (outputRoot : Digest) (l2BlockNumber : UInt64) :
    abiDecodeCustomChainData (computeCustomChainData H outputRoot l2BlockNumber) =
      some (vKeySelector H.programVersion aggchainType, outputRoot,
        BitVec.ofNat 256 l2BlockNumber.toNat) := by
  have hsel := (vKeySelector H.programVersion aggchainType).2
  have hroot := outputRoot.2
  have hnum : l2BlockNumber.toNat < 256 ^ 32 := l2BlockNumber.toNat_lt.trans (by norm_num)
  set data := computeCustomChainData H outputRoot l2BlockNumber with hdata
  have hlen : data.length = 96 := by
    simp [hdata, computeCustomChainData, hsel, hroot]
  have hpad : (data.drop 4).take 28 = List.replicate 28 0 := by
    simp [hdata, computeCustomChainData, List.append_assoc, List.take_append, hsel]
  have hfirst : data.take 4 = (vKeySelector H.programVersion aggchainType).val := by
    simp [hdata, computeCustomChainData, List.append_assoc, hsel]
  have hnil : (vKeySelector H.programVersion aggchainType).val.drop 32 = [] :=
    List.drop_eq_nil_of_le (by omega)
  have hsecond : (data.drop 32).take 32 = outputRoot.val := by
    simp [hdata, computeCustomChainData, List.append_assoc, List.drop_append, hsel, hroot, hnil]
  have hthird : data.drop 64 = Bytes.beBytes 32 l2BlockNumber.toNat := by
    simp [hdata, computeCustomChainData, List.append_assoc, List.drop_append, hsel, hroot]
  rw [abiDecodeCustomChainData, dif_pos ⟨hlen, hpad⟩]
  refine congrArg some (Prod.ext_iff.mpr ⟨Subtype.ext hfirst, Prod.ext_iff.mpr
    ⟨Subtype.ext hsecond, ?_⟩⟩)
  show BitVec.ofNat 256 (Bytes.ofBe (data.drop 64)) = _
  rw [hthird, Bytes.ofBe_beBytes_of_lt hnum]

end CustomChainData

/-! ## The service -/

inductive AggchainProofServiceRequest (X : Ext) (Y : HostExt) where
  | normal (aggchainProofInputs : AggchainProofInputs Y)
  | optimistic (inputs : OptimisticAggchainProofInputs X Y)

structure AggchainProofServiceResponse where
  proof : List UInt8
  aggchainParams : Digest
  vkey : List UInt8
  lastProvenBlock : UInt64
  endBlock : UInt64
  localExitRootHash : Digest
  customChainData : List UInt8
  publicValues : AggchainProofPublicValues
  deriving DecidableEq

/-- `aggchain_proof_service::Error`, the variants of a request. -/
inductive ServiceError where
  | proposerServiceError (source : ProposerError)
  | aggchainProofBuilderRequestFailed (source : BuilderError)
  deriving DecidableEq

structure AggchainProofService (X : Ext) (Y : HostExt) where
  proposerService : ProposerService Y
  aggchainProofBuilder : AggchainProofBuilder X Y

section Model

variable {X : Ext} {Y : HostExt} (E : Env X) (H : Host Y)

/-- What the proposer is asked for. -/
def AggchainProofInputs.proposerRequest (inputs : AggchainProofInputs Y) : FepProposerRequest where
  lastProvenBlock := inputs.lastProvenBlock
  requestedEndBlock := inputs.requestedEndBlock
  l1BlockHash := inputs.l1InfoTreeLeaf.inner.blockHash

namespace AggchainProofService

variable (self : AggchainProofService X Y)

/-- The common tail of both handlers: build the proof and answer. -/
def buildAndRespond (request : AggchainProofBuilderRequest X Y) :
    Except ServiceError AggchainProofServiceResponse := do
  let aggchainProofResponse ← (self.aggchainProofBuilder.call E H request).mapError
    .aggchainProofBuilderRequestFailed
  pure { proof := aggchainProofResponse.proof
         aggchainParams := aggchainProofResponse.aggchainParams
         vkey := aggchainProofResponse.vkey
         lastProvenBlock := request.aggchainProofInputs.lastProvenBlock
         endBlock := request.endBlock
         localExitRootHash := aggchainProofResponse.newLocalExitRoot
         customChainData := computeCustomChainData H aggchainProofResponse.outputRoot
           request.endBlock
         publicValues := aggchainProofResponse.publicValues }

def handleNormalRequest (inputs : AggchainProofInputs Y) :
    Except ServiceError AggchainProofServiceResponse := do
  let aggregationProofResponse ← (self.proposerService.call inputs.proposerRequest).mapError
    .proposerServiceError
  self.buildAndRespond E H
    { fepVerification := .proof aggregationProofResponse.aggregationProof
        aggregationProofResponse.publicValues
      endBlock := aggregationProofResponse.endBlock
      aggchainProofInputs := inputs }

def handleOptimisticRequest (inputs : OptimisticAggchainProofInputs X Y) :
    Except ServiceError AggchainProofServiceResponse :=
  self.buildAndRespond E H
    { fepVerification := .optimistic inputs.signatureOptimisticMode
      -- In optimistic mode, the end_block is the one defined in the request.
      endBlock := inputs.aggchainProofInputs.requestedEndBlock
      aggchainProofInputs := inputs.aggchainProofInputs }

def call : AggchainProofServiceRequest X Y → Except ServiceError AggchainProofServiceResponse
  | .normal inputs => self.handleNormalRequest E H inputs
  | .optimistic inputs => self.handleOptimisticRequest E H inputs

end AggchainProofService

end Model

/-! ## Specification -/

namespace AggchainProofServiceRequest

variable {X : Ext} {Y : HostExt}

def inputs : AggchainProofServiceRequest X Y → AggchainProofInputs Y
  | .normal inputs => inputs
  | .optimistic inputs => inputs.aggchainProofInputs

def isOptimistic : AggchainProofServiceRequest X Y → Bool
  | .normal _ => false
  | .optimistic _ => true

end AggchainProofServiceRequest

namespace AggchainProofService

variable {X : Ext} {Y : HostExt} {E : Env X} {H : Host Y} {self : AggchainProofService X Y}
  {request : AggchainProofServiceRequest X Y} {response : AggchainProofServiceResponse}

/-- The end block a request is given from outside: the one the proposer reports, or in optimistic
mode the requested one. -/
def givenEndBlock (self : AggchainProofService X Y) :
    AggchainProofServiceRequest X Y → Option UInt64
  | .normal inputs =>
    (self.proposerService.answer inputs.proposerRequest).toOption.map AggProofResponse.endBlock
  | .optimistic inputs => some inputs.aggchainProofInputs.requestedEndBlock

theorem buildAndRespond_ok_iff {br : AggchainProofBuilderRequest X Y} :
    self.buildAndRespond E H br = .ok response ↔
      ∃ r, self.aggchainProofBuilder.call E H br = .ok r ∧
        response =
          { proof := r.proof
            aggchainParams := r.aggchainParams
            vkey := r.vkey
            lastProvenBlock := br.aggchainProofInputs.lastProvenBlock
            endBlock := br.endBlock
            localExitRootHash := r.newLocalExitRoot
            customChainData := computeCustomChainData H r.outputRoot br.endBlock
            publicValues := r.publicValues } := by
  simp only [buildAndRespond, Except.bind_eq_ok, Except.mapError_eq_ok, Except.pure_eq_ok]
  exact exists_congr fun r => and_congr_right fun _ => eq_comm

/-- A request that is answered went to the builder with the end block given from outside. -/
theorem call_ok (hok : self.call E H request = .ok response) :
    ∃ br : AggchainProofBuilderRequest X Y, br.aggchainProofInputs = request.inputs ∧
      br.fepVerification.signature.isSome = request.isOptimistic ∧
      self.givenEndBlock request = some br.endBlock ∧
      self.buildAndRespond E H br = .ok response := by
  cases request with
  | normal inputs =>
    simp only [call, handleNormalRequest, Except.bind_eq_ok, Except.mapError_eq_ok] at hok
    obtain ⟨p, hp, hbuild⟩ := hok
    obtain ⟨reply, -, -, hreply, -, -, hstop, -⟩ := ProposerService.call_ok_iff.mp hp
    refine ⟨_, ?_, ?_, ?_, hbuild⟩
    · rfl
    · rfl
    · simp only [givenEndBlock, hreply, Except.toOption, Option.map_some, hstop]
  | optimistic inputs => exact ⟨_, rfl, rfl, rfl, hok⟩

end AggchainProofService

/-! ## What L1 recomputes -/

section L1

variable {X : Ext} {Y : HostExt}

/-- What L1 knows about a range, besides the custom chain data. -/
structure L1Knowledge where
  /-- the state root at the last proven block -/
  preStateRoot : Digest
  config : OpSuccinctConfig
  trustedSequencer : Address

/-- The chain parameters for a claimed root and block number. -/
def L1Knowledge.params (k : L1Knowledge) (optimisticMode : Bool) (root : Digest) (n : U256) :
    AggchainParamsValues where
  l2PreRoot := k.preStateRoot
  claimRoot := root
  claimBlockNum := n
  rollupConfigHash := k.config.rollupConfigHash
  optimisticMode
  trustedSequencer := k.trustedSequencer
  rangeVkeyCommitment := k.config.rangeVkeyCommitment
  aggregationVkeyHash := k.config.aggregationVkeyHash

/-- The knowledge is what the contracts client of the builder sees too. -/
structure L1Knowledge.SeenBy (k : L1Knowledge) (client : ContractsClient X)
    (lastProvenBlock : UInt64) : Prop where
  preStateRoot : ∃ output, client.getL2OutputAtBlock lastProvenBlock = .ok output ∧
    output.stateRoot = k.preStateRoot
  config : client.getOpSuccinctConfig = .ok k.config
  trustedSequencer : client.getTrustedSequencerAddress = .ok k.trustedSequencer

/-- The answer is what L1 recomputes: the custom chain data decode to the selector of this program, a
root and the end block, and the chain parameters are the hash of the ones for that root and block. -/
def MatchesL1 (E : Env X) (H : Host Y) (k : L1Knowledge) (request : AggchainProofServiceRequest X Y)
    (response : AggchainProofServiceResponse) : Prop :=
  ∃ selector root n,
    abiDecodeCustomChainData response.customChainData = some (selector, root, n) ∧
    Bytes.ofBe selector.val = H.programVersion.toNat * 2 ^ 16 + aggchainType.toNat ∧
    n.toNat = response.endBlock.toNat ∧
    response.aggchainParams =
      E.keccak256 (k.params request.isOptimistic root n).abiEncodePacked

/-- The executor returns what the guest commits for the given stdin. -/
def HonestProver (E : Env X) (H : Host Y) (builder : AggchainProofBuilder X Y) : Prop :=
  ∀ stdin proof, builder.proverCall stdin = .ok proof → ∃ pv,
    H.deserializePublicValues proof.publicValues = some pv ∧
      stdin.witness.verifyAggchainInputs E = .ok pv

/-- The key digest of the L1 configuration is the packing of the key's eight words. -/
def RawKeyPacked (H : Host Y) (vkey : Y.VKey) : Prop :=
  H.bytes32Raw vkey = Bytes.ofNat 32 (H.hashBabybear vkey).packed

variable {E : Env X} {H : Host Y} {k : L1Knowledge}

/-- The chain parameters in the witness: those of L1, with the low 32 bits of the end block. -/
theorem retrievedFep_values {builder : AggchainProofBuilder X Y}
    {br : AggchainProofBuilderRequest X Y} {data : ChainData X} {v : AggchainParamsValues}
    (hraw : RawKeyPacked H builder.aggregationVkey)
    (hk : k.SeenBy builder.contractsClient br.aggchainProofInputs.lastProvenBlock)
    (hfetched : builder.Fetched br.aggchainProofInputs.lastProvenBlock br.endBlock data)
    (hkeys : builder.KeysMatch H data)
    (hv : (builder.retrievedFep H br data).aggchainParamsValues = some v) :
    v = k.params br.fepVerification.signature.isSome data.claimRootOutputAtBlock.stateRoot
      (BitVec.ofNat 256 (br.endBlock.toNat % 2 ^ 32)) := by
  obtain ⟨h, hh, rfl⟩ := FepInputs.aggchainParamsValues_eq_some.mp hv
  obtain ⟨output, houtput, hpre⟩ := hk.preStateRoot
  obtain rfl := Except.ok.inj (hfetched.preRoot.symm.trans houtput)
  have hconfig := Except.ok.inj (hfetched.config.symm.trans hk.config)
  have hseq := Except.ok.inj (hfetched.sequencer.symm.trans hk.trustedSequencer)
  obtain ⟨hagg, hrange⟩ := hkeys
  rw [hconfig] at hagg hrange
  -- the encoded key digest is the one of the configuration
  have hvkey : h = k.config.aggregationVkeyHash :=
    (BabyBearDigest.toHashBn254_eq hh).trans (hraw.symm.trans hagg.symm)
  have hnum : (builder.retrievedFep H br data).claimBlockNum.toNat = br.endBlock.toNat % 2 ^ 32 :=
    UInt64.toNat_toUInt32 _
  rw [hnum, hvkey]
  show AggchainParamsValues.mk data.l2PreRootOutputAtBlock.stateRoot _ _
    data.opSuccinctConfig.rollupConfigHash _ data.trustedSequencer H.rangeVkeyCommitment _ = _
  rw [hpre, hconfig, hseq, ← hrange]
  rfl

/-- What the builder answers, if its prover is honest. -/
theorem builderCall_params {builder : AggchainProofBuilder X Y}
    {br : AggchainProofBuilderRequest X Y} {r : AggchainProofBuilderResponse}
    (hprover : HonestProver E H builder) (hraw : RawKeyPacked H builder.aggregationVkey)
    (hk : k.SeenBy builder.contractsClient br.aggchainProofInputs.lastProvenBlock)
    (hcall : builder.call E H br = .ok r) :
    ∃ output, builder.contractsClient.getL2OutputAtBlock br.endBlock = .ok output ∧
      r.outputRoot = output.stateRoot ∧
      r.aggchainParams = E.keccak256 (k.params br.fepVerification.signature.isSome output.stateRoot
        (BitVec.ofNat 256 (br.endBlock.toNat % 2 ^ 32))).abiEncodePacked := by
  obtain ⟨inputs, proof, pv, stark, vkeyBytes, proofBytes, hinputs, -, hproof, hpv, -, -, -, rfl⟩ :=
    AggchainProofBuilder.call_ok_iff.mp hcall
  obtain ⟨data, hfetched, hkeys, -, -, rfl⟩ :=
    AggchainProofBuilder.retrieveChainData_ok_iff.mp hinputs
  obtain ⟨pv', hpv', hguest⟩ := hprover _ _ hproof
  obtain rfl := Option.some.inj (hpv.symm.trans hpv')
  obtain ⟨-, -, hvalues⟩ := AggchainProofWitness.verifyAggchainInputs_ok_iff.mp hguest
  obtain ⟨e, he, rfl⟩ := AggchainProofWitness.publicValues_eq_some.mp hvalues
  obtain ⟨v, hv, rfl⟩ := Option.map_eq_some_iff.mp he
  refine ⟨data.claimRootOutputAtBlock, hfetched.claimRoot, rfl, ?_⟩
  rw [← retrievedFep_values hraw hk hfetched hkeys hv]

/-- The parameters for a block and for its low 32 bits differ, and collide under keccak256. -/
def TruncationCollision (E : Env X) (k : L1Knowledge) (optimisticMode : Bool) (root : Digest)
    (block : UInt64) : Prop :=
  let low := k.params optimisticMode root (BitVec.ofNat 256 (block.toNat % 2 ^ 32))
  let full := k.params optimisticMode root (BitVec.ofNat 256 block.toNat)
  low ≠ full ∧ E.keccak256 low.abiEncodePacked = E.keccak256 full.abiEncodePacked

theorem params_low_eq_iff {optimisticMode : Bool} {root : Digest} {block : UInt64} :
    k.params optimisticMode root (BitVec.ofNat 256 (block.toNat % 2 ^ 32)) =
      k.params optimisticMode root (BitVec.ofNat 256 block.toNat) ↔ block.toNat < 2 ^ 32 := by
  have hblock : block.toNat < 2 ^ 64 := block.toNat_lt
  constructor
  · intro h
    have hnum := congrArg (fun v => v.claimBlockNum.toNat) h
    simp only [L1Knowledge.params, BitVec.toNat_ofNat] at hnum
    omega
  · intro h
    rw [Nat.mod_eq_of_lt h]

/-- **What L1 recomputes.**  An answer of the service is the one L1 recomputes exactly when the end
block it was given fits 32 bits. -/
theorem call_matches_l1_iff {service : AggchainProofService X Y}
    {request : AggchainProofServiceRequest X Y} {response : AggchainProofServiceResponse}
    (hprover : HonestProver E H service.aggchainProofBuilder)
    (hraw : RawKeyPacked H service.aggchainProofBuilder.aggregationVkey)
    (hk : k.SeenBy service.aggchainProofBuilder.contractsClient request.inputs.lastProvenBlock)
    (hcol : ∀ block output, service.givenEndBlock request = some block →
      service.aggchainProofBuilder.contractsClient.getL2OutputAtBlock block = .ok output →
      ¬ TruncationCollision E k request.isOptimistic output.stateRoot block)
    (hok : service.call E H request = .ok response) :
    MatchesL1 E H k request response ↔
      ∀ block, service.givenEndBlock request = some block → block.toNat < 2 ^ 32 := by
  obtain ⟨br, hinputs, hmode, hgiven, hbuild⟩ := AggchainProofService.call_ok hok
  obtain ⟨r, hcall, rfl⟩ := AggchainProofService.buildAndRespond_ok_iff.mp hbuild
  rw [← hinputs] at hk
  obtain ⟨output, houtput, hroot, hparams⟩ := builderCall_params hprover hraw hk hcall
  rw [hmode] at hparams
  have hdecode := abiDecode_computeCustomChainData H r.outputRoot br.endBlock
  constructor
  · rintro ⟨selector, root, n, hdec, -, -, hn⟩ block hblock
    obtain rfl := Option.some.inj (hgiven.symm.trans hblock)
    have heq := Option.some.inj (hdecode.symm.trans hdec)
    obtain ⟨-, rfl, rfl⟩ : _ ∧ r.outputRoot = root ∧ _ = n := by simpa [Prod.ext_iff] using heq
    by_contra hlarge
    refine hcol _ output hgiven houtput ⟨fun h => hlarge (params_low_eq_iff.mp h), ?_⟩
    rw [← hparams, ← hroot]
    exact hn
  · intro hsmall
    have hlt : br.endBlock.toNat < 2 ^ 32 := hsmall _ hgiven
    refine ⟨_, _, _, hdecode, ofBe_vKeySelector _ _, ?_, ?_⟩
    · rw [BitVec.toNat_ofNat, Nat.mod_eq_of_lt (by omega)]
    · rw [hroot, ← params_low_eq_iff.mpr hlt]
      exact hparams

end L1

/-! ## Optimistic requests for the sample range

The L2 block after the events is called for under the number `stop`. -/

namespace Sample

def knowledge : L1Knowledge := ⟨Bytes.ofNat 32 0x51, chainData.opSuccinctConfig, trustedSequencer⟩

/-- The parameters L1 computes for block `n`. -/
def l1Params (n : ℕ) : List UInt8 :=
  (knowledge.params true (Bytes.ofNat 32 0x52) (BitVec.ofNat 256 n)).abiEncodePacked

def paramsZero : Digest :=
  Bytes.ofNat 32 0x649af541f2a5c47cb1412a9583f26273e4494cfae82bb9b036f09aab15223714
def paramsLarge : Digest :=
  Bytes.ofNat 32 0x780dd7210357e76b170afe5ec3e148a4ba0a6b5d1759edf27763b4ec6049caa1

/-- keccak256 on the parameters of the blocks `0` and `2^32` too. -/
def serviceEnv : Env ⟨Digest, Bytes 65⟩ :=
  { quietEnv with
    keccak256 := fun data =>
      if data = l1Params 0 then paramsZero
      else if data = l1Params (2 ^ 32) then paramsLarge
      else quietEnv.keccak256 data
    recoverAddressFromPrehash := fun _ _ => .ok trustedSequencer }

def serviceHost (params : Digest) : Host hostExt :=
  { host with deserializePublicValues := fun _ => some (committed exitsCommitment params) }

/-- The prover proves what the guest accepts with the given parameters. -/
def proofBuilder (params : Digest) : AggchainProofBuilder ⟨Digest, Bytes 65⟩ hostExt :=
  { builder with
    proverCall := fun stdin =>
      if stdin.witness.verifyAggchainInputs serviceEnv = .ok (committed exitsCommitment params) then
        .ok ⟨.compressed (), []⟩
      else .error "the guest failed" }

def service (params : Digest) : AggchainProofService ⟨Digest, Bytes 65⟩ hostExt where
  proposerService :=
    { getBlockNumber := fun _ => .ok 1
      requestAggProof := fun _ => .error "not available"
      waitForProof := fun _ => .error "not available"
      verifyAggregatedProof := fun _ _ => .ok ()
      abiDecodePublicValues := fun _ => .error "not available"
      aggregationVkey := () }
  aggchainProofBuilder := proofBuilder params

def serviceRequest (stop : UInt64) : AggchainProofServiceRequest ⟨Digest, Bytes 65⟩ hostExt :=
  .optimistic
    { aggchainProofInputs :=
        { proofInputs with
          requestedEndBlock := stop
          gerLeaves := ⟨[("ger", ⟨2, ⟨path, leaf⟩, 0⟩)], by decide⟩ }
      signatureOptimisticMode := quietSignature }

def serviceResponse (params : Digest) (stop : UInt64) : AggchainProofServiceResponse where
  proof := []
  aggchainParams := params
  vkey := []
  lastProvenBlock := 1
  endBlock := stop
  localExitRootHash := input.newLocalExitRoot
  customChainData := computeCustomChainData (serviceHost params) (Bytes.ofNat 32 0x52) stop
  publicValues := committed exitsCommitment params

theorem honestProver_sample (params : Digest) :
    HonestProver serviceEnv (serviceHost params) (service params).aggchainProofBuilder := by
  intro stdin proof hproof
  unfold service proofBuilder at hproof
  dsimp only at hproof
  split_ifs at hproof with h
  exact ⟨committed exitsCommitment params, rfl, h⟩

theorem rawKeyPacked_sample (params : Digest) :
    RawKeyPacked (serviceHost params) (service params).aggchainProofBuilder.aggregationVkey := rfl

theorem seenBy_sample (params : Digest) :
    knowledge.SeenBy (service params).aggchainProofBuilder.contractsClient 1 :=
  ⟨⟨_, rfl, rfl⟩, rfl, rfl⟩

end Sample

open Sample

/-- At block `2` the answer is the one L1 recomputes. -/
theorem call_matches_l1_sample :
    (service paramsEcdsa).call serviceEnv (serviceHost paramsEcdsa) (serviceRequest 2) =
      .ok (serviceResponse paramsEcdsa 2) ∧
    MatchesL1 serviceEnv (serviceHost paramsEcdsa) knowledge (serviceRequest 2)
      (serviceResponse paramsEcdsa 2) := by
  have hok : (service paramsEcdsa).call serviceEnv (serviceHost paramsEcdsa) (serviceRequest 2) =
      .ok (serviceResponse paramsEcdsa 2) := by decide +kernel
  refine ⟨hok, (call_matches_l1_iff (honestProver_sample paramsEcdsa)
    (rawKeyPacked_sample paramsEcdsa) (seenBy_sample paramsEcdsa) ?_ hok).mpr ?_⟩
  · rintro block output hblock - ⟨hne, -⟩
    obtain rfl := Option.some.inj hblock
    exact hne (params_low_eq_iff.mpr (by decide))
  · intro block hblock
    obtain rfl := Option.some.inj hblock
    decide

/-- At block `2^32` the custom chain data carry the block and the chain parameters carry `0`. -/
theorem call_not_matches_l1 :
    (service paramsZero).call serviceEnv (serviceHost paramsZero) (serviceRequest 0x100000000) =
      .ok (serviceResponse paramsZero 0x100000000) ∧
    HonestProver serviceEnv (serviceHost paramsZero) (service paramsZero).aggchainProofBuilder ∧
    RawKeyPacked (serviceHost paramsZero) (service paramsZero).aggchainProofBuilder.aggregationVkey ∧
    ¬ MatchesL1 serviceEnv (serviceHost paramsZero) knowledge (serviceRequest 0x100000000)
      (serviceResponse paramsZero 0x100000000) := by
  refine ⟨by decide +kernel, honestProver_sample paramsZero, rawKeyPacked_sample paramsZero, ?_⟩
  rintro ⟨selector, root, n, hdec, -, -, hparams⟩
  have hdecode := abiDecode_computeCustomChainData (serviceHost paramsZero) (Bytes.ofNat 32 0x52)
    0x100000000
  have heq := Option.some.inj (hdecode.symm.trans hdec)
  obtain ⟨-, rfl, rfl⟩ : _ ∧ Bytes.ofNat 32 0x52 = root ∧ _ = n := by
    simpa [Prod.ext_iff] using heq
  have hlarge : serviceEnv.keccak256 (l1Params (2 ^ 32)) = paramsLarge := by decide +kernel
  have hne : paramsZero ≠ paramsLarge := by decide +kernel
  exact hne (hparams.trans hlarge)

end Aggchain
