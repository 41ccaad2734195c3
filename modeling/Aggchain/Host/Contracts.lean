import Aggchain.Guest.StaticCall

/-!
# Aggchain.Host.Contracts — the contracts client (`contracts.rs`, `error.rs`)

What the builder asks the chains for: the traits of `aggchain-proof-contracts` as one record of
answers.  `Aggchain.Host.Erigon` is the implementation that the service uses.
-/

namespace Aggchain

/-- `aggchain_proof_contracts::Error`, the variants that the modelled functions return. -/
inductive ContractsError where
  | providerInitializationError (source : Report)
  | bridgeAddressError (source : Report)
  | localExitRootError (source : Report)
  | rollupNodeInitError (source : Report)
  | l2OutputAtBlockRetrievalError (source : Report)
  | l2OutputAtBlockValueMissing (field : String)
  | l2OutputAtBlockInvalidValue (field : String) (source : Report)
  | opSuccinctConfigRetrievalError (source : Report)
  | invalidHostStaticCall (source : Report) (stage : StaticCallStage)
  | invalidPreBlockSketchFinalization (source : Report)
  | invalidNewBlockSketchFinalization (source : Report)
  | hostExecutorPreBlockInitialization (source : Report)
  | hostExecutorNewBlockInitialization (source : Report)
  | invalidEvmSketchGenesisInput (source : String)
  | other (source : Report)
  deriving DecidableEq

structure L2OutputAtBlock where
  version : Digest
  stateRoot : Digest
  withdrawalStorageRoot : Digest
  latestBlockHash : Digest
  outputRoot : Digest
  deriving DecidableEq

/-- Configuration parameters for the OP Succinct verification, from the Aggchain FEP contract. -/
structure OpSuccinctConfig where
  aggregationVkeyHash : Digest
  rangeVkeyCommitment : Digest
  rollupConfigHash : Digest
  deriving DecidableEq

/-- `AggchainContractsClient + GetTrustedSequencerAddress` -/
structure ContractsClient (X : Ext) where
  getL2LocalExitRoot : UInt64 → Except ContractsError Digest
  getL2OutputAtBlock : UInt64 → Except ContractsError L2OutputAtBlock
  getOpSuccinctConfig : Except ContractsError OpSuccinctConfig
  getPrevL2BlockSketch : UInt64 → Except ContractsError X.Sketch
  getNewL2BlockSketch : UInt64 → Except ContractsError X.Sketch
  getTrustedSequencerAddress : Except ContractsError Address

end Aggchain
