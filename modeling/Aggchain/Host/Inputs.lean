import Aggchain.Guest.Bridge
import Aggchain.Lib.UnstableSort

/-!
# Aggchain.Host.Inputs — `aggchain-proof-types`: what a proof is requested for

The request carries a map of GER leaves and a list of imported bridge exits, each entry with the
block it belongs to; the builder selects the entries of a block range.  A map is modelled with the
order it is iterated in, which is arbitrary.
-/

namespace Aggchain

/-- The opaque types of the services. -/
structure HostExt where
  GlobalIndex : Type
  /-- `SP1ReduceProof` -/
  AggregationProof : Type
  /-- `SP1VerifyingKey` -/
  VKey : Type

/-- A `HashMap`, in the order it is iterated in. -/
structure IterMap (K V : Type) where
  entries : List (K × V)
  nodup : (entries.map Prod.fst).Nodup

/-- `HashMap::values` -/
def IterMap.values {K V : Type} (self : IterMap K V) : List V := self.entries.map Prod.snd

/-- `RangeInclusive<u64>` -/
structure BlockRange where
  start : UInt64
  stop : UInt64

def BlockRange.contains (self : BlockRange) (block : UInt64) : Bool :=
  self.start ≤ block && block ≤ self.stop

structure InsertedGer where
  /-- proof from GER to L1Root -/
  proofGerL1root : MerkleProof
  l1Leaf : L1InfoTreeLeaf
  deriving DecidableEq

structure InsertedGerWithBlockNumber where
  blockNumber : UInt64
  insertedGer : InsertedGer
  /-- the index of the injected GER event in the block -/
  blockIndex : UInt64
  deriving DecidableEq

structure ImportedBridgeExitWithBlockNumber (Y : HostExt) where
  blockNumber : UInt64
  bridgeExitHash : Digest
  globalIndex : Y.GlobalIndex

/-- Data needed as the input for the aggchain proof generation. -/
structure AggchainProofInputs (Y : HostExt) where
  lastProvenBlock : UInt64
  /-- the max end block for which the aggchain proof is requested -/
  requestedEndBlock : UInt64
  l1InfoTreeRootHash : Digest
  l1InfoTreeLeaf : L1InfoTreeLeaf
  l1InfoTreeMerkleProof : MerkleProof
  gerLeaves : IterMap String InsertedGerWithBlockNumber
  importedBridgeExits : List (ImportedBridgeExitWithBlockNumber Y)

structure OptimisticAggchainProofInputs (X : Ext) (Y : HostExt) where
  aggchainProofInputs : AggchainProofInputs Y
  signatureOptimisticMode : X.Signature

/-! ## Selection of a block range -/

section Selection

/-- The position of an insertion on the chain. -/
def InsertedGER.position (e : InsertedGER) : ℕ ×ₗ ℕ :=
  toLex (e.blockNumber.toNat, e.blockIndex.toNat)

/-- One entry of the map as the guest takes it. -/
def InsertedGerWithBlockNumber.toInsertedGER (e : InsertedGerWithBlockNumber) : InsertedGER where
  proof := e.insertedGer.proofGerL1root
  l1InfoTreeLeaf := e.insertedGer.l1Leaf
  blockNumber := e.blockNumber
  blockIndex := e.blockIndex

variable {Y : HostExt} (self : AggchainProofInputs Y)

/-- The GERs inserted in a block range, by position. -/
def AggchainProofInputs.sortedInsertedGers (sortUnstableByKey : UnstableSort InsertedGER.position)
    (range : BlockRange) : List InsertedGER :=
  sortUnstableByKey.sort ((self.gerLeaves.values.filter (fun e => range.contains e.blockNumber)).map
    InsertedGerWithBlockNumber.toInsertedGER)

end Selection

end Aggchain
