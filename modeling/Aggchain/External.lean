import Aggchain.Lib.Bytes

/-!
# Aggchain.External — what the provers take from other crates

The aggchain program and the services around it call into `agglayer_primitives`, `unified_bridge`,
`sp1-cc`, `alloy` and the SP1 runtime.  None of that code is part of the repository:

* the plain data types are written down with the fields the repository reads;
* the opaque types are collected in `Ext`, the functions on them in `Env`.  Every result that uses
  a property of one of these functions states it as a hypothesis.
-/

namespace Aggchain

/-! ## Data -/

/-- `Digest`, `B256`, `[u8; 32]`. -/
abbrev Digest := Bytes 32

/-- `Address`. -/
abbrev Address := Bytes 20

/-- `U256`. -/
abbrev U256 := BitVec 256

/-- `U256::to_be_bytes`. -/
def U256.toBeBytes (x : U256) : Digest := Bytes.ofNat 32 x.toNat

/-- The text of an error of another crate (`eyre::Report` and the like). -/
abbrev Report := String

structure L1InfoTreeLeafInner where
  globalExitRoot : Digest
  blockHash : Digest
  timestamp : UInt64
  deriving DecidableEq

structure L1InfoTreeLeaf where
  l1InfoTreeIndex : UInt32
  rer : Digest
  mer : Digest
  inner : L1InfoTreeLeafInner
  deriving DecidableEq

structure MerkleProof where
  proof : List Digest
  root : Digest
  deriving DecidableEq

/-- One imported bridge exit as it is committed to. -/
structure GlobalIndexWithLeafHash where
  globalIndex : U256
  bridgeExitHash : Digest
  deriving DecidableEq

/-- The public values of an aggchain proof. -/
structure AggchainProofPublicValues where
  prevLocalExitRoot : Digest
  newLocalExitRoot : Digest
  l1InfoRoot : Digest
  originNetwork : UInt32
  commitImportedBridgeExits : Digest
  aggchainParams : Digest
  deriving DecidableEq

/-- The view functions of the two `sol!` interfaces. -/
inductive SolFunction where
  | insertedGERHashChain
  | removedGERHashChain
  | bridgeAddress
  | getRoot
  | claimedGlobalIndexHashChain
  | unsetGlobalIndexHashChain
  deriving DecidableEq

/-- A type `C : SolCall` with `C::Return = R`: the function it encodes and
`C::abi_decode_returns_validate`. -/
structure SolCall (R : Type) where
  function : SolFunction
  abiDecodeReturnsValidate : List UInt8 → Except Report R

structure ContractInput where
  contractAddress : Address
  callerAddress : Address
  calldata : SolFunction
  deriving DecidableEq

structure ContractPublicValues where
  contractOutput : List UInt8
  anchorHash : Digest

/-! ## Opaque types and functions -/

/-- The opaque types: `EvmSketchInput` and `Signature`. -/
structure Ext where
  Sketch : Type
  Signature : Type

/-- The functions the guest program calls. -/
structure Env (X : Ext) where
  keccak256 : List UInt8 → Digest
  sha256 : List UInt8 → Digest
  /-- `Signature::recover_address_from_prehash` -/
  recoverAddressFromPrehash : X.Signature → Digest → Except Report Address
  /-- `sp1_zkvm::lib::verify::verify_sp1_proof`; `false` where the zkVM aborts -/
  verifySp1Proof : List UInt32 → Digest → Bool
  /-- `MerkleProof::verify` -/
  merkleProofVerify : MerkleProof → Digest → UInt32 → Bool
  l1InfoTreeLeafHash : L1InfoTreeLeaf → Digest
  l1InfoTreeLeafGer : L1InfoTreeLeaf → Digest
  /-- `GlobalIndexWithLeafHash::commitment` -/
  claimCommitment : GlobalIndexWithLeafHash → Digest
  /-- `ImportedBridgeExitCommitmentValues::commitment` for version V3 -/
  importedBridgeExitsCommitmentV3 : List GlobalIndexWithLeafHash → Digest
  /-- `ClientExecutor::eth` -/
  clientExecutorEth : X.Sketch → Except Report Unit
  /-- `ClientExecutor::execute` -/
  clientExecutorExecute : X.Sketch → ContractInput → Except Report ContractPublicValues
  /-- `abi_decode_returns_validate` of a function that returns one `bytes32` -/
  abiDecodeBytes32 : List UInt8 → Except Report Digest
  /-- `abi_decode_returns_validate` of a function that returns one `address` -/
  abiDecodeAddress : List UInt8 → Except Report Address

namespace Env

variable {X : Ext} (E : Env X)

/-- `keccak256_combine`: the hash of the concatenated items. -/
def keccak256Combine (items : List Digest) : Digest := E.keccak256 (items.map Subtype.val).flatten

/-- One step of an on-chain hash chain. -/
def chainStep (acc hash : Digest) : Digest := E.keccak256Combine [acc, hash]

/-! The calls of `GlobalExitRootManagerL2SovereignChain` and `BridgeL2SovereignChain`. -/

def insertedGERHashChainCall : SolCall Digest := ⟨.insertedGERHashChain, E.abiDecodeBytes32⟩
def removedGERHashChainCall : SolCall Digest := ⟨.removedGERHashChain, E.abiDecodeBytes32⟩
def bridgeAddressCall : SolCall Address := ⟨.bridgeAddress, E.abiDecodeAddress⟩
def getRootCall : SolCall Digest := ⟨.getRoot, E.abiDecodeBytes32⟩
def claimedGlobalIndexHashChainCall : SolCall Digest :=
  ⟨.claimedGlobalIndexHashChain, E.abiDecodeBytes32⟩
def unsetGlobalIndexHashChainCall : SolCall Digest :=
  ⟨.unsetGlobalIndexHashChain, E.abiDecodeBytes32⟩

end Env

end Aggchain
