import Aggchain.Host.Builder
import Aggchain.Host.L2Execution

/-!
# Aggchain.Host.Completeness — the assembled witness passes the bridge check

The host selects, sorts and commits; the guest folds, filters and commits.  For an honest chain, a
client that describes it and a request that lists what happened in the range, the witness that
`retrieve_chain_data` assembles is accepted by the bridge check of the guest.
-/

namespace Aggchain

section Sketch

open StaticCallWithContext (Answers)

variable {X : Ext} (E : Env X)

/-- On the sketch the view function `f` has the value `value f`, at the block `block`. -/
def Evaluates (sketch : X.Sketch) (caller bridge : Address) (block : Digest)
    (value : SolFunction → Digest) (f : SolFunction) : Prop :=
  Answers E sketch (f.contract bridge) caller ⟨f, E.abiDecodeBytes32⟩ (value f) block

end Sketch

namespace AggchainProofBuilder

open StaticCallWithContext (Answers)

variable {X : Ext} {Y : HostExt} {E : Env X} {H : Host Y} {self : AggchainProofBuilder X Y}
  {request : AggchainProofBuilderRequest X Y} {data : ChainData X}

/-! ## The bridge check of an assembled witness -/

section Assembled

/-- The GERs the builder selects for a request. -/
abbrev selectedGers (H : Host Y) (request : AggchainProofBuilderRequest X Y) : List InsertedGER :=
  request.aggchainProofInputs.sortedInsertedGers H.sortUnstableByKey (newBlocksRange request)

/-- If the two sketches evaluate to chain values that the selected lists connect, the assembled
witness is accepted. -/
theorem proverWitness_verify {fep : FepInputs X} (bridge : Address) (prev new : SolFunction → Digest)
    (hprev : ∀ f, f.IsHashChain → Evaluates E data.prevL2BlockSketch self.staticCallCallerAddress
      bridge fep.prevBlockHash prev f)
    (hnew : ∀ f, f.IsHashChain ∨ f = .getRoot → Evaluates E data.newL2BlockSketch
      self.staticCallCallerAddress bridge fep.newBlockHash new f)
    (hbridge : Answers E data.newL2BlockSketch L2_GER_ADDR self.staticCallCallerAddress
      E.bridgeAddressCall bridge fep.newBlockHash)
    (hler : data.newLocalExitRoot = new .getRoot)
    (hinserted : HashChain.fold E.chainStep (prev .insertedGERHashChain)
      ((selectedGers H request).map (InsertedGER.ger E)) = new .insertedGERHashChain)
    (hremoved : prev .removedGERHashChain = new .removedGERHashChain)
    (hclaimed : HashChain.fold E.chainStep (prev .claimedGlobalIndexHashChain)
      ((bridgeExitsClaimed H request).map E.claimCommitment) = new .claimedGlobalIndexHashChain)
    (hunset : prev .unsetGlobalIndexHashChain = new .unsetGlobalIndexHashChain)
    (hproofs : ∀ ger ∈ selectedGers H request,
      ger.verify E request.aggchainProofInputs.l1InfoTreeRootHash = true) :
    ((self.proverWitness E H request data fep).bridgeConstraintsInput.verify E).result = .ok () := by
  refine BridgeConstraintsInput.verify_ok_iff.mpr ⟨bridge, ?_⟩
  have hchain : ∀ (f : SolFunction) (hashes : List Digest), f.IsHashChain →
      HashChain.fold E.chainStep (prev f) hashes = new f →
      BridgeConstraintsInput.ChainChecked E
        (self.proverWitness E H request data fep).bridgeConstraintsInput ⟨f, E.abiDecodeBytes32⟩
        (f.contract bridge) hashes :=
    fun f hashes hf hfold => ⟨prev f, new f, hprev f hf, hnew f (Or.inl hf), hfold⟩
  refine
    { insertedGers := hchain .insertedGERHashChain _ trivial hinserted
      removedGers := hchain .removedGERHashChain [] trivial hremoved
      bridgeAddress := hbridge
      claimed := hchain .claimedGlobalIndexHashChain _ trivial hclaimed
      unset := hchain .unsetGlobalIndexHashChain [] trivial hunset
      newLer := ?_
      exits := ⟨_, filterValues_nil _, rfl⟩
      gers := filterValues_nil _
      proofs := hproofs }
  have hroot := hnew .getRoot (Or.inr rfl)
  rw [Evaluates, ← hler] at hroot
  exact hroot

end Assembled

/-! ## Honest chain, honest client, honest request -/

section Honest

/-- The fetched data describe the chain at the two blocks. -/
structure Describes (L : L2Execution E) (caller : Address) (lastProvenBlock endBlock : UInt64)
    (data : ChainData X) : Prop where
  prevHash : data.l2PreRootOutputAtBlock.latestBlockHash = L.hash lastProvenBlock.toNat
  newHash : data.claimRootOutputAtBlock.latestBlockHash = L.hash endBlock.toNat
  newLer : data.newLocalExitRoot = L.value endBlock.toNat .getRoot
  prevSketch : ∀ f, f.IsHashChain → Evaluates E data.prevL2BlockSketch caller L.bridge
    (L.hash lastProvenBlock.toNat) (L.value lastProvenBlock.toNat) f
  newSketch : ∀ f, f.IsHashChain ∨ f = .getRoot → Evaluates E data.newL2BlockSketch caller L.bridge
    (L.hash endBlock.toNat) (L.value endBlock.toNat) f
  bridgeAddress : Answers E data.newL2BlockSketch L2_GER_ADDR caller E.bridgeAddressCall L.bridge
    (L.hash endBlock.toNat)

/-- The block lies behind the last proven one and not behind the end block. -/
def InRange (lastProvenBlock endBlock block : UInt64) : Bool :=
  lastProvenBlock < block && block ≤ endBlock

/-- One leaf of the map as an insertion on the chain: block, position in the block, GER. -/
def leafInsertion (E : Env X) (e : InsertedGerWithBlockNumber) : ℕ × ℕ × Digest :=
  (e.blockNumber.toNat, e.blockIndex.toNat, E.l1InfoTreeLeafGer e.insertedGer.l1Leaf)

/-- The request lists what happened between the two blocks: each GER insertion once, in any order,
with a Merkle proof for the L1 info root, and the claims in order.  Entries of other blocks are not
restricted. -/
structure ListsRange (H : Host Y) (L : L2Execution E) (inputs : AggchainProofInputs Y)
    (endBlock : UInt64) : Prop where
  gers : ((inputs.gerLeaves.values.filter
      (fun e => InRange inputs.lastProvenBlock endBlock e.blockNumber)).map (leafInsertion E)).Perm
    (L.insertions inputs.lastProvenBlock.toNat (endBlock.toNat - inputs.lastProvenBlock.toNat))
  proofs : ∀ e ∈ inputs.gerLeaves.values, InRange inputs.lastProvenBlock endBlock e.blockNumber →
    e.toInsertedGER.verify E inputs.l1InfoTreeRootHash = true
  exits : (inputs.importedBridgeExits.filter
      (fun ib => InRange inputs.lastProvenBlock endBlock ib.blockNumber)).map
      (fun ib => ⟨H.globalIndexToU256 ib.globalIndex, ib.bridgeExitHash⟩) =
    L.claims inputs.lastProvenBlock.toNat (endBlock.toNat - inputs.lastProvenBlock.toNat)

/-- Where `last_proven_block + 1` does not wrap, the inclusive range starts right behind the block. -/
theorem contains_succ {last stop : UInt64} (hmax : last.toNat + 1 < 2 ^ 64) (block : UInt64) :
    (⟨last + 1, stop⟩ : BlockRange).contains block = InRange last stop block := by
  have hsucc : (last + 1).toNat = last.toNat + 1 := by
    rw [UInt64.toNat_add]
    simp only [UInt64.toNat_one]
    omega
  have hstart : (last + 1 ≤ block) ↔ (last < block) := by
    rw [UInt64.le_iff_toNat_le, UInt64.lt_iff_toNat_lt, hsucc]
    omega
  unfold BlockRange.contains InRange
  simp only [hstart]

/-- In front of another block it does not wrap. -/
theorem succ_lt_of_lt {last block : UInt64} (hlt : last < block) : last.toNat + 1 < 2 ^ 64 := by
  have hnat : last.toNat < block.toNat := hlt
  have hbound : block.toNat < 2 ^ 64 := block.toNat_lt
  omega

theorem newBlocksRange_contains
    (hlt : request.aggchainProofInputs.lastProvenBlock < request.endBlock) (block : UInt64) :
    (newBlocksRange request).contains block =
      InRange request.aggchainProofInputs.lastProvenBlock request.endBlock block :=
  contains_succ (succ_lt_of_lt hlt) block

/-- The selected GERs are the inserted ones, in the order of the chain. -/
theorem selectedGers_map {L : L2Execution E}
    (hlt : request.aggchainProofInputs.lastProvenBlock < request.endBlock)
    (hlists : ListsRange H L request.aggchainProofInputs request.endBlock) :
    (selectedGers H request).map (InsertedGER.ger E) =
      (L.insertions request.aggchainProofInputs.lastProvenBlock.toNat
        (request.endBlock.toNat - request.aggchainProofInputs.lastProvenBlock.toNat)).map (·.2.2) := by
  let asInsertion : InsertedGER → ℕ × ℕ × Digest :=
    fun g => (g.blockNumber.toNat, g.blockIndex.toNat, g.ger E)
  have hsel : (selectedGers H request).map asInsertion =
      L.insertions request.aggchainProofInputs.lastProvenBlock.toNat
        (request.endBlock.toNat - request.aggchainProofInputs.lastProvenBlock.toNat) := by
    have hkey : ∀ g : InsertedGER, L2Execution.position (asInsertion g) = g.position := fun _ => rfl
    refine H.sortUnstableByKey.map_sort_eq hkey ?_ (L2Execution.insertions_increasing _ _)
    rw [List.map_map]
    simp only [newBlocksRange_contains hlt]
    exact hlists.gers
  rw [← hsel, List.map_map]
  rfl

theorem selectedGers_verify {L : L2Execution E}
    (hlt : request.aggchainProofInputs.lastProvenBlock < request.endBlock)
    (hlists : ListsRange H L request.aggchainProofInputs request.endBlock) :
    ∀ ger ∈ selectedGers H request,
      ger.verify E request.aggchainProofInputs.l1InfoTreeRootHash = true := by
  intro ger hger
  obtain ⟨e, he, rfl⟩ := List.mem_map.mp (H.sortUnstableByKey.mem_sort.mp hger)
  obtain ⟨hmem, hin⟩ := List.mem_filter.mp he
  rw [newBlocksRange_contains hlt] at hin
  exact hlists.proofs e hmem hin

/-- The witness for an honest range passes the bridge check. -/
theorem proverWitness_verify_of_honest {L : L2Execution E}
    (hlt : request.aggchainProofInputs.lastProvenBlock < request.endBlock)
    (hquiet : ∀ e ∈ L.between request.aggchainProofInputs.lastProvenBlock.toNat
      (request.endBlock.toNat - request.aggchainProofInputs.lastProvenBlock.toNat), e.Quiet)
    (hdata : Describes L self.staticCallCallerAddress request.aggchainProofInputs.lastProvenBlock
      request.endBlock data)
    (hlists : ListsRange H L request.aggchainProofInputs request.endBlock) :
    ((self.proverWitness E H request data (self.retrievedFep H request data)).bridgeConstraintsInput
      |>.verify E).result = .ok () := by
  set last := request.aggchainProofInputs.lastProvenBlock with hlast
  have hnat : last.toNat < request.endBlock.toNat := hlt
  have hend : last.toNat + (request.endBlock.toNat - last.toNat) = request.endBlock.toNat := by
    omega
  -- the chain values at the end block, from the ones at the last proven block
  have hvalue : ∀ f : SolFunction, f.IsHashChain → L.value request.endBlock.toNat f =
      HashChain.fold E.chainStep (L.value last.toNat f) ((L.between last.toNat
        (request.endBlock.toNat - last.toNat)).flatMap (L2Event.elements E f)) := by
    intro f hf
    rw [← L2Execution.value_add _ _ hf, hend]
  refine proverWitness_verify L.bridge (L.value last.toNat) (L.value request.endBlock.toNat)
    ?_ ?_ ?_ hdata.newLer ?_ ?_ ?_ ?_ (selectedGers_verify hlt hlists)
  · intro f hf
    have h := hdata.prevSketch f hf
    rwa [← hdata.prevHash] at h
  · intro f hf
    have h := hdata.newSketch f hf
    rwa [← hdata.newHash] at h
  · have h := hdata.bridgeAddress
    rwa [← hdata.newHash] at h
  · rw [selectedGers_map hlt hlists, L2Execution.insertions_gers]
    exact (hvalue .insertedGERHashChain trivial).symm
  · have h := hvalue .removedGERHashChain trivial
    rw [L2Execution.elements_quiet hquiet (Or.inl rfl)] at h
    exact h.symm
  · have hclaims : bridgeExitsClaimed H request = L.claims last.toNat
        (request.endBlock.toNat - last.toNat) := by
      unfold bridgeExitsClaimed
      simp only [newBlocksRange_contains hlt]
      exact hlists.exits
    rw [hclaims, L2Execution.claims, ← L2Execution.elements_claimed]
    exact (hvalue .claimedGlobalIndexHashChain trivial).symm
  · have h := hvalue .unsetGlobalIndexHashChain trivial
    rw [L2Execution.elements_quiet hquiet (Or.inr rfl)] at h
    exact h.symm

/-- With the answers at hand, a witness is assembled exactly when the keys of the L1 configuration
are the expected ones, the public values of the proof (if there is one) are the retrieved ones and
the key digest fits its encoding. -/
theorem exists_retrieved_iff
    (hfetched : Fetched self request.aggchainProofInputs.lastProvenBlock request.endBlock data) :
    (∃ inputs, self.retrieveChainData E H request = .ok inputs) ↔
      KeysMatch H self data ∧ PublicValuesMatch H self request data ∧
        (H.hashBabybear self.aggregationVkey).toHashBn254.isSome = true := by
  constructor
  · rintro ⟨inputs, hinputs⟩
    obtain ⟨data', hfetched', hkeys, hpv, hparams, -⟩ := retrieveChainData_ok_iff.mp hinputs
    obtain rfl := hfetched'.unique hfetched
    exact ⟨hkeys, hpv, (FepInputs.exists_aggchainParams_iff E).mp hparams⟩
  · rintro ⟨hkeys, hpv, hsome⟩
    exact ⟨_, retrieveChainData_ok_iff.mpr ⟨data, hfetched, hkeys, hpv,
      (FepInputs.exists_aggchainParams_iff E).mpr hsome, rfl⟩⟩

/-- **Completeness.**  On an honest chain that neither removes GERs nor unsets claims in the range,
every witness that `retrieve_chain_data` assembles passes the bridge check; and it does assemble one
unless a check of the builder itself refuses the request. -/
theorem retrieveChainData_complete {L : L2Execution E}
    (hlt : request.aggchainProofInputs.lastProvenBlock < request.endBlock)
    (hquiet : ∀ e ∈ L.between request.aggchainProofInputs.lastProvenBlock.toNat
      (request.endBlock.toNat - request.aggchainProofInputs.lastProvenBlock.toNat), e.Quiet)
    (hfetched : Fetched self request.aggchainProofInputs.lastProvenBlock request.endBlock data)
    (hdata : Describes L self.staticCallCallerAddress request.aggchainProofInputs.lastProvenBlock
      request.endBlock data)
    (hlists : ListsRange H L request.aggchainProofInputs request.endBlock) :
    (∀ inputs, self.retrieveChainData E H request = .ok inputs →
      (inputs.stdin.witness.bridgeConstraintsInput.verify E).result = .ok ()) ∧
    ((∃ inputs, self.retrieveChainData E H request = .ok inputs) ↔
      KeysMatch H self data ∧ PublicValuesMatch H self request data ∧
        (H.hashBabybear self.aggregationVkey).toHashBn254.isSome = true) := by
  refine ⟨?_, exists_retrieved_iff hfetched⟩
  intro inputs hinputs
  obtain ⟨data', hfetched', -, -, -, rfl⟩ := retrieveChainData_ok_iff.mp hinputs
  obtain rfl := hfetched'.unique hfetched
  exact proverWitness_verify_of_honest hlt hquiet hdata hlists

end Honest

end AggchainProofBuilder

/-! ## One honest range

Block `2` inserts one GER and claims one global index; the map also holds a leaf of block `5`, the
list an exit of block `1`. -/

namespace Sample

def quietEnv : Env ⟨Digest, Bytes 65⟩ := proofEnv.onChain quietView

/-- The execution behind `quietView`. -/
def execution : L2Execution quietEnv where
  hash n := Bytes.ofNat 32 n
  events n := if n = 2 then [.insertGer 0 leaf.inner.globalExitRoot, .claim claim] else []
  bridge := Bytes.ofNat 20 0xb71d6e
  value n f := if n < 2 then Bytes.ofNat 32 0 else quietView.bytes32 (Bytes.ofNat 32 2) L2_GER_ADDR f
  folds n f hf := by
    rcases Nat.lt_trichotomy n 1 with h | rfl | h
    · simp [show n + 1 < 2 by omega, show n < 2 by omega, show n + 1 ≠ 2 by omega]
    · cases f with
      | bridgeAddress => exact hf.elim
      | getRoot => exact hf.elim
      | _ => decide +kernel
    · simp [show ¬ n + 1 < 2 by omega, show ¬ n < 2 by omega, show n + 1 ≠ 2 by omega]
  indices n := by
    by_cases h : n = 2
    · subst h
      exact List.pairwise_singleton _ _
    · simp [h]

def hostExt : HostExt := ⟨U256, Unit, Unit⟩

def host : Host hostExt where
  sortUnstableByKey := UnstableSort.insertionSort _
  globalIndexToU256 := id
  bytes32Raw _ := Bytes.ofNat 32 (BabyBearDigest.packed vkeyHash)
  hashBabybear _ := vkeyHash
  rangeVkeyCommitment := Bytes.ofNat 32 0x7a
  programVersion := 7
  deserializePublicValues _ := none
  serializeVkey _ := .ok []
  serializeProof _ := .ok []
  serializePublicValues _ := .ok []
  sp1CircuitVersion := "v4.0.0"

def chainData : ChainData ⟨Digest, Bytes 65⟩ where
  prevLocalExitRoot := Bytes.ofNat 32 0
  newLocalExitRoot := Bytes.ofNat 32 0x1e7
  l2PreRootOutputAtBlock := ⟨Bytes.ofNat 32 0, Bytes.ofNat 32 0x51, Bytes.ofNat 32 0x61,
    Bytes.ofNat 32 1, Bytes.ofNat 32 0x51⟩
  claimRootOutputAtBlock := ⟨Bytes.ofNat 32 0, Bytes.ofNat 32 0x52, Bytes.ofNat 32 0x62,
    Bytes.ofNat 32 2, Bytes.ofNat 32 0x52⟩
  opSuccinctConfig := ⟨host.bytes32Raw (), host.rangeVkeyCommitment, Bytes.ofNat 32 0xcf⟩
  prevL2BlockSketch := Bytes.ofNat 32 1
  newL2BlockSketch := Bytes.ofNat 32 2
  trustedSequencer := trustedSequencer

/-- A client that answers for block `1` and, at every other number, for block `2`. -/
def builder : AggchainProofBuilder ⟨Digest, Bytes 65⟩ hostExt where
  contractsClient :=
    { getL2LocalExitRoot := fun n =>
        .ok (if n = 1 then chainData.prevLocalExitRoot else chainData.newLocalExitRoot)
      getL2OutputAtBlock := fun n =>
        .ok (if n = 1 then chainData.l2PreRootOutputAtBlock else chainData.claimRootOutputAtBlock)
      getOpSuccinctConfig := .ok chainData.opSuccinctConfig
      getPrevL2BlockSketch := fun _ => .ok chainData.prevL2BlockSketch
      getNewL2BlockSketch := fun _ => .ok chainData.newL2BlockSketch
      getTrustedSequencerAddress := .ok trustedSequencer }
  networkId := 1
  proverReady := .ok ()
  proverCall _ := .error "not available"
  aggregationVkey := ()
  aggchainVkey := ()
  staticCallCallerAddress := Bytes.ofNat 20 0

def proofInputs : AggchainProofInputs hostExt where
  lastProvenBlock := 1
  requestedEndBlock := 2
  l1InfoTreeRootHash := path.root
  l1InfoTreeLeaf := leaf
  l1InfoTreeMerkleProof := path
  gerLeaves := ⟨[("later", ⟨5, ⟨path, leaf⟩, 0⟩), ("ger", ⟨2, ⟨path, leaf⟩, 0⟩)], by decide⟩
  importedBridgeExits := [⟨1, Bytes.ofNat 32 0xe0, (0 : U256)⟩,
    ⟨2, claim.bridgeExitHash, claim.globalIndex⟩]

def builderRequest : AggchainProofBuilderRequest ⟨Digest, Bytes 65⟩ hostExt :=
  ⟨.optimistic quietSignature, 2, proofInputs⟩

theorem describes_chainData : AggchainProofBuilder.Describes execution (Bytes.ofNat 20 0) 1 2
    chainData where
  prevHash := rfl
  newHash := rfl
  newLer := by decide +kernel
  prevSketch := by
    intro f hf
    refine ⟨rfl, _, rfl, ?_⟩
    cases f with
    | bridgeAddress => exact hf.elim
    | getRoot => exact hf.elim
    | _ => decide +kernel
  newSketch := by
    intro f hf
    refine ⟨rfl, _, rfl, ?_⟩
    cases f with
    | bridgeAddress => simp [SolFunction.IsHashChain] at hf
    | _ => decide +kernel
  bridgeAddress := ⟨rfl, _, rfl, by decide +kernel⟩

theorem listsRange_proofInputs : AggchainProofBuilder.ListsRange host execution proofInputs 2 where
  gers := by
    have h : ((proofInputs.gerLeaves.values.filter
        (fun e => AggchainProofBuilder.InRange 1 2 e.blockNumber)).map
        (AggchainProofBuilder.leafInsertion quietEnv)) = execution.insertions 1 1 := by
      decide +kernel
    exact h ▸ List.Perm.refl _
  proofs := by decide +kernel
  exits := by decide +kernel

theorem fetched_chainData : AggchainProofBuilder.Fetched builder 1 2 chainData :=
  ⟨rfl, rfl, rfl, rfl, rfl, rfl, rfl, rfl⟩

end Sample

open Sample

theorem retrieveChainData_complete_sample :
    ∃ inputs, builder.retrieveChainData quietEnv host builderRequest = .ok inputs ∧
      (inputs.stdin.witness.bridgeConstraintsInput.verify quietEnv).result = .ok () := by
  have h := @AggchainProofBuilder.retrieveChainData_complete _ _ quietEnv host builder
    builderRequest chainData execution (by decide) (by decide +kernel) fetched_chainData
    describes_chainData listsRange_proofInputs
  have hpv : AggchainProofBuilder.PublicValuesMatch host builder builderRequest chainData := by
    intro p pv hproof
    cases hproof
  obtain ⟨inputs, hinputs⟩ := h.2.mpr ⟨⟨rfl, rfl⟩, hpv, by decide +kernel⟩
  exact ⟨inputs, hinputs, h.1 inputs hinputs⟩

end Aggchain
