import Aggchain.Guest.Bridge
import Aggchain.Guest.L2View

/-!
# Aggchain.Guest.BridgeSound — what an accepted bridge input says about the chain

The L2 contracts fold one element per event into four hash chains.  If `verify` accepts, then the
witness lists are the lists the contracts folded between the two blocks, unless the two lists
exhibit a collision of `keccak256_combine` or a cycle; the new local exit root, the committed claims
and the L1 inclusion of the GERs follow from the remaining checks.
-/

namespace Aggchain

/-- What the two contracts folded into their hash chains over a range of blocks. -/
structure L2Events where
  insertedGers : List Digest
  removedGers : List Digest
  /-- the commitments of the claims -/
  claimed : List Digest
  /-- the unset global indices, as 32 big-endian bytes -/
  unset : List Digest

section Sound

variable {X : Ext} (E : Env X) (V : L2View)

/-- From block `prev` to block `new`, one `keccak256_combine([chain, element])` per event takes the
hash chain `f` of the contract `addr` from its old to its new value. -/
def FoldedInto (prev new : Digest) (addr : Address) (f : SolFunction) (elements : List Digest) :
    Prop :=
  HashChain.fold E.chainStep (V.bytes32 prev addr f) elements = V.bytes32 new addr f

/-- The four event lists of the range, for the given GER manager and bridge contract. -/
structure L2Events.Folded (real : L2Events) (prev new : Digest) (ger bridge : Address) : Prop where
  insertedGers : FoldedInto E V prev new ger .insertedGERHashChain real.insertedGers
  removedGers : FoldedInto E V prev new ger .removedGERHashChain real.removedGers
  claimed : FoldedInto E V prev new bridge .claimedGlobalIndexHashChain real.claimed
  unset : FoldedInto E V prev new bridge .unsetGlobalIndexHashChain real.unset

/-- `g` is the GER of an L1 info tree leaf whose Merkle path leads to `root`. -/
def IncludedInL1 (root g : Digest) : Prop :=
  ∃ (leaf : L1InfoTreeLeaf) (path : MerkleProof), E.l1InfoTreeLeafGer leaf = g ∧ path.root = root ∧
    E.merkleProofVerify path (E.l1InfoTreeLeafHash leaf) leaf.l1InfoTreeIndex = true

namespace BridgeConstraintsInput

variable {E V} {inp : BridgeConstraintsInput X}

/-- A checked chain is one that the chain really folded. -/
theorem ChainChecked.foldedInto (hE : ExecutorSound E V) {f : SolFunction}
    (hf : f ≠ .bridgeAddress) {addr : Address} {hashes : List Digest}
    (h : ChainChecked E inp ⟨f, E.abiDecodeBytes32⟩ addr hashes) :
    FoldedInto E V inp.prevL2BlockHash inp.newL2BlockHash addr f hashes := by
  obtain ⟨prev, new, hprev, hnew, hfold⟩ := h
  obtain rfl := hE.answers_bytes32 hf hprev
  obtain rfl := hE.answers_bytes32 hf hnew
  exact hfold

/-- A checked witness list is the real list, up to a collision or a cycle. -/
theorem ChainChecked.bound (hE : ExecutorSound E V) {f : SolFunction} (hf : f ≠ .bridgeAddress)
    {addr : Address} {hashes real : List Digest}
    (h : ChainChecked E inp ⟨f, E.abiDecodeBytes32⟩ addr hashes)
    (hreal : FoldedInto E V inp.prevL2BlockHash inp.newL2BlockHash addr f real) :
    HashChain.Bound E.chainStep (V.bytes32 inp.prevL2BlockHash addr f) hashes real :=
  HashChain.bound_of_fold_eq ((h.foldedInto hE hf).trans hreal.symm)

/-- **Soundness of the bridge constraints.** -/
theorem verify_sound (hE : ExecutorSound E V) (hok : (inp.verify E).result = .ok ())
    {bridge : Address} (hbridge : bridge = V.bridgeAddress inp.newL2BlockHash inp.gerAddr) :
    (∀ real : L2Events,
      real.Folded E V inp.prevL2BlockHash inp.newL2BlockHash inp.gerAddr bridge →
      HashChain.Bound E.chainStep
        (V.bytes32 inp.prevL2BlockHash inp.gerAddr .insertedGERHashChain)
        inp.bridgeWitness.rawInsertedGers real.insertedGers ∧
      HashChain.Bound E.chainStep
        (V.bytes32 inp.prevL2BlockHash inp.gerAddr .removedGERHashChain)
        inp.bridgeWitness.removedGers real.removedGers ∧
      HashChain.Bound E.chainStep
        (V.bytes32 inp.prevL2BlockHash bridge .claimedGlobalIndexHashChain)
        (inp.bridgeWitness.bridgeExitsClaimed.map E.claimCommitment) real.claimed ∧
      HashChain.Bound E.chainStep
        (V.bytes32 inp.prevL2BlockHash bridge .unsetGlobalIndexHashChain)
        (inp.bridgeWitness.globalIndicesUnset.map U256.toBeBytes) real.unset) ∧
    inp.newLocalExitRoot = V.bytes32 inp.newL2BlockHash bridge .getRoot ∧
    (∃ claims, filterValues inp.bridgeWitness.globalIndicesUnset
        inp.bridgeWitness.bridgeExitsClaimed GlobalIndexWithLeafHash.globalIndex = .ok claims ∧
      inp.commitImportedBridgeExits = E.importedBridgeExitsCommitmentV3 claims) ∧
    ∃ kept, filterValues inp.bridgeWitness.removedGers inp.bridgeWitness.rawInsertedGers id =
      .ok kept ∧ ∀ g ∈ kept, IncludedInL1 E inp.l1InfoRoot g := by
  obtain ⟨addr, hacc⟩ := verify_ok_iff.mp hok
  obtain rfl : addr = bridge := (hE.answers_bridgeAddress hacc.bridgeAddress).trans hbridge.symm
  refine ⟨fun real hreal => ⟨?_, ?_, ?_, ?_⟩, ?_, ?_, _, hacc.gers, ?_⟩
  · exact hacc.insertedGers.bound hE (by decide) hreal.insertedGers
  · exact hacc.removedGers.bound hE (by decide) hreal.removedGers
  · exact hacc.claimed.bound hE (by decide) hreal.claimed
  · exact hacc.unset.bound hE (by decide) hreal.unset
  · exact hE.answers_bytes32 (by decide) hacc.newLer
  · obtain ⟨claims, hclaims, hcommit⟩ := hacc.exits
    exact ⟨claims, hclaims, hcommit.symm⟩
  · intro g hg
    obtain ⟨inserted, hmem, rfl⟩ := List.mem_map.mp hg
    obtain ⟨hroot, hpath⟩ := InsertedGER.verify_eq_true_iff.mp (hacc.proofs inserted hmem)
    exact ⟨inserted.l1InfoTreeLeaf, inserted.proof, rfl, hroot, hpath⟩

end BridgeConstraintsInput

end Sound

/-! ## One range of a chain

Between blocks `1` and `2` the chain inserts one GER, and claims and unsets one global index.  The
hashes are the values of keccak256. -/

section Sample

namespace Sample

def leaf : L1InfoTreeLeaf where
  l1InfoTreeIndex := 0
  rer := Bytes.ofNat 32 2
  mer := Bytes.ofNat 32 1
  inner :=
    { globalExitRoot := Bytes.ofNat 32 0xe90b7bceb6e7df5418fb78d8ee546e97c83a08bbccc01a0644d599ccd2a7c2e0
      blockHash := Bytes.ofNat 32 0xb10c
      timestamp := 1 }

def leafHash : Digest := Bytes.ofNat 32 0xa9e5d57659f02aa07412a25556c8d81eac5d5f4bf73389289a8d90e9ff8db424

def path : MerkleProof where
  proof := List.replicate 32 (Bytes.ofNat 32 0)
  root := Bytes.ofNat 32 0xa8aa36f82ac61523e140be90344de9136826f039a230f72c1766239a4abab112

def claim : GlobalIndexWithLeafHash := ⟨0x10000000000000007, Bytes.ofNat 32 0xe1⟩

def claimCommitment : Digest := Bytes.ofNat 32 0xa525dadb830bcfae0a0a446e6390bc38b299b405cfc7136dfc7ffcfe84a1da92

/-- The commitment to this one claim. -/
def exitsCommitment : Digest := Bytes.ofNat 32 0xb55157c5710aa0f15c9ab57b200ff42157662d311a47a9e8b8de82cf56e16ff3

def insertedChain : Digest := Bytes.ofNat 32 0xf8dd1754cdb399bc5b4e203e4acfec383074082a262a94d223f4e1ba300eaf08
def claimedChain : Digest := Bytes.ofNat 32 0x7f1f9dbad989592f0255b127ed85196d750b6f42713e04e1c40d4d83cbcbdea9
def unsetChain : Digest := Bytes.ofNat 32 0xcee8989d39864553552f9eb64eb2b75882cd66e8d2e3f148221d37d820fcbdb0
def emptyHash : Digest := Bytes.ofNat 32 0xc5d2460186f7233c927e7db2dcc703c0e500b653ca82273b7bfad8045d85a470

/-- keccak256 on what is folded in the range. -/
def keccak256 (data : List UInt8) : Digest :=
  if data = List.replicate 32 0 ++ leaf.inner.globalExitRoot.val then insertedChain
  else if data = List.replicate 32 0 ++ claimCommitment.val then claimedChain
  else if data = List.replicate 32 0 ++ (U256.toBeBytes claim.globalIndex).val then unsetChain
  else emptyHash

/-- The chain: nothing has happened at block `1`, and nothing happens after the events. -/
def view (bridge : Address) : L2View where
  bytes32 block _ f :=
    if block = Bytes.ofNat 32 1 then Bytes.ofNat 32 0
    else
      match f with
      | .insertedGERHashChain => insertedChain
      | .claimedGlobalIndexHashChain => claimedChain
      | .unsetGlobalIndexHashChain => unsetChain
      | .getRoot => Bytes.ofNat 32 0x1e7
      | _ => Bytes.ofNat 32 0
  bridgeAddress _ _ := bridge

/-- The chain without the unset claim. -/
def quietView : L2View :=
  { view (Bytes.ofNat 20 0xb71d6e) with
    bytes32 := fun block contract f =>
      if f = .unsetGlobalIndexHashChain then Bytes.ofNat 32 0
      else (view (Bytes.ofNat 20 0xb71d6e)).bytes32 block contract f }

def env : Env ⟨Digest, Bytes 65⟩ := Env.onChain (X := ⟨Unit, Bytes 65⟩)
  { keccak256 := keccak256
    sha256 := fun _ => Bytes.ofNat 32 0
    recoverAddressFromPrehash := fun _ _ => .error "invalid signature"
    verifySp1Proof := fun _ _ => false
    merkleProofVerify := fun p h i => decide (p = path ∧ h = leafHash ∧ i = 0)
    l1InfoTreeLeafHash := fun _ => leafHash
    l1InfoTreeLeafGer := fun l => l.inner.globalExitRoot
    claimCommitment := fun _ => claimCommitment
    importedBridgeExitsCommitmentV3 := fun claims =>
      if claims = [claim] then exitsCommitment else emptyHash
    clientExecutorEth := fun _ => .ok ()
    clientExecutorExecute := fun _ _ => .error "no call"
    abiDecodeBytes32 := decodeBytes32
    abiDecodeAddress := decodeAddressValidate } (view (Bytes.ofNat 20 0xb71d6e))

def input : BridgeConstraintsInput ⟨Digest, Bytes 65⟩ where
  gerAddr := L2_GER_ADDR
  prevL2BlockHash := Bytes.ofNat 32 1
  newL2BlockHash := Bytes.ofNat 32 2
  newLocalExitRoot := Bytes.ofNat 32 0x1e7
  l1InfoRoot := path.root
  commitImportedBridgeExits := emptyHash
  bridgeWitness :=
    { insertedGers := [⟨path, leaf, 2, 0⟩]
      rawInsertedGers := [leaf.inner.globalExitRoot]
      removedGers := []
      bridgeExitsClaimed := [claim]
      globalIndicesUnset := [claim.globalIndex]
      prevL2BlockSketch := Bytes.ofNat 32 1
      newL2BlockSketch := Bytes.ofNat 32 2
      callerAddress := Bytes.ofNat 20 0 }

def events : L2Events where
  insertedGers := [leaf.inner.globalExitRoot]
  removedGers := []
  claimed := [claimCommitment]
  unset := [U256.toBeBytes claim.globalIndex]

theorem events_folded : events.Folded env (view (Bytes.ofNat 20 0xb71d6e)) input.prevL2BlockHash
    input.newL2BlockHash input.gerAddr (Bytes.ofNat 20 0xb71d6e) := by
  constructor <;> (unfold FoldedInto; decide +kernel)

end Sample

open Sample

theorem verify_sound_unset_claim :
    events.Folded env (view (Bytes.ofNat 20 0xb71d6e)) input.prevL2BlockHash input.newL2BlockHash
      input.gerAddr (Bytes.ofNat 20 0xb71d6e) ∧
    HashChain.Bound env.chainStep (Bytes.ofNat 32 0) input.bridgeWitness.rawInsertedGers
      events.insertedGers ∧
    ∃ kept, filterValues input.bridgeWitness.removedGers input.bridgeWitness.rawInsertedGers id =
      .ok kept ∧ ∀ g ∈ kept, IncludedInL1 env input.l1InfoRoot g :=
  have hok : (input.verify env).result = .ok () := by decide +kernel
  have h := BridgeConstraintsInput.verify_sound (executorSound_onChain _ _) hok rfl
  ⟨events_folded, (h.1 events events_folded).1, h.2.2.2⟩

end Sample

end Aggchain
