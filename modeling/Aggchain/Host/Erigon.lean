import Aggchain.Guest.L2View
import Aggchain.Guest.Proof
import Aggchain.Host.Contracts

/-!
# Aggchain.Host.Erigon — the contracts clients (`aggchain-proof-contracts`)

`AggchainContractsRpcClient` reads L1 and L2 through the configured endpoints;
`ErigonContractsClient` decorates it with its own sketches and its own output at a block.  A sketch
is modelled by where it was built and by the calls the host executed on it.

The guest runs its static calls on the sketches that the host prepared.  `agrees_iff` says for which
configurations the two sides read the same L2 state.
-/

namespace Aggchain

/-- `Url`, in its normal form. -/
abbrev Url := String

/-! ## JSON-RPC answers -/

/-- `serde_json::Value`, as far as it is read. -/
inductive Json where
  | object (fields : List (String × Json))
  | string (value : String)
  | other

namespace Json

/-- `Value::get` -/
def get (field : String) : Json → Option Json
  | object fields => fields.lookup field
  | _ => none

/-- `Value::as_str` -/
def asStr : Json → Option String
  | string value => some value
  | _ => none

end Json

section Hex

def hexDigit (c : Char) : Option ℕ :=
  if '0' ≤ c ∧ c ≤ '9' then some (c.toNat - 48)
  else if 'a' ≤ c ∧ c ≤ 'f' then some (c.toNat - 87)
  else if 'A' ≤ c ∧ c ≤ 'F' then some (c.toNat - 55)
  else none

def hexBytes : List Char → Option (List UInt8)
  | [] => some []
  | [_] => none
  | c :: c' :: rest => do
    let high ← hexDigit c
    let low ← hexDigit c'
    let bytes ← hexBytes rest
    some (UInt8.ofNat (16 * high + low) :: bytes)

/-- `B256::from_str`: 64 hex digits, behind an optional `0x`. -/
def b256FromStr (value : String) : Except Report Digest :=
  let digits := match value.toList with
    | '0' :: 'x' :: rest => rest
    | chars => chars
  match hexBytes digits with
  | none => .error "invalid hex string"
  | some bytes => if h : bytes.length = 32 then .ok ⟨bytes, h⟩ else .error "invalid string length"

/-- The number as a JSON-RPC quantity. -/
def hexQuantity (n : UInt64) : String := "0x" ++ String.ofList (Nat.toDigits 16 n.toNat)

/-- One hash of a JSON object. -/
def parseHash (json : Json) (field : String) : Except ContractsError Digest := do
  let value ← Except.okOr (json.get field) (.l2OutputAtBlockValueMissing field)
  let valueStr ← Except.okOr value.asStr (.l2OutputAtBlockValueMissing field)
  (b256FromStr valueStr).mapError (.l2OutputAtBlockInvalidValue field)

end Hex

/-! ## Nodes -/

/-- `Genesis` of the sketch builder. -/
inductive Genesis where
  | mainnet
  | sepolia
  | opMainnet
  | linea
  | custom (config : String)
  deriving DecidableEq

/-- An L2 node: the chain it serves, and its answers.  An answer may be an error; one that is not is
about the chain. -/
structure Node where
  blockHash : UInt64 → Digest
  view : L2View
  /-- a JSON-RPC request: method and parameters -/
  request : String → List String → Except Report Json
  /-- `eth_call` at a block, or at the latest one -/
  ethCall : Option UInt64 → Address → SolFunction → Except Report (List UInt8)
  /-- the sketch builder at a block -/
  sketchBuild : Genesis → UInt64 → Except Report Unit
  sketchCall : UInt64 → ContractInput → Except Report (List UInt8)
  sketchFinalize : UInt64 → List ContractInput → Except Report Unit
  request_hash : ∀ block json hash, request "eth_getBlockByNumber" [hexQuantity block] = .ok json →
    parseHash json "hash" = .ok hash → hash = blockHash block
  ethCall_at : ∀ block address f out, ethCall (some block) address f = .ok out →
    ∀ caller, out = view.output (blockHash block) ⟨address, caller, f⟩
  ethCall_latest : ∀ address f out, ethCall none address f = .ok out →
    ∃ block, ∀ caller, out = view.output (blockHash block) ⟨address, caller, f⟩

/-- What the L1 contracts answer when a client is set up. -/
structure L1Answers where
  /-- the rollup contract of the network -/
  aggchainFep : Address
  trustedSequencer : Address
  /-- `selectedOpSuccinctConfigName` -/
  opSuccinctConfigName : Digest

/-- Everything outside: each URL is served by one node. -/
structure World where
  node : Url → Node
  /-- `build_alloy_fill_provider` -/
  buildAlloyFillProvider : Url → Except Report Unit
  /-- `HttpClient::builder().build` -/
  buildHttpClient : Url → Except Report Unit
  /-- `parse_evm_sketch_genesis`, which may read a file -/
  parseEvmSketchGenesis : String → Except ContractsError Genesis
  /-- the rollup manager and the aggchain contract of a network -/
  l1 : Url → Address → UInt32 → Except ContractsError L1Answers
  /-- `opSuccinctConfigs` of an aggchain contract -/
  opSuccinctConfigs : Url → Address → Digest → Except Report OpSuccinctConfig

structure AggchainProofContractsConfig where
  l1RpcEndpoint : Url
  l2ExecutionLayerRpcEndpoint : Url
  l2ConsensusLayerRpcEndpoint : Url
  polygonRollupManager : Address
  globalExitRootManagerV2SovereignChain : Address
  staticCallCallerAddress : Address
  evmSketchGenesis : String

/-- `AggchainProofContractsConfig::default` -/
def AggchainProofContractsConfig.default : AggchainProofContractsConfig where
  l1RpcEndpoint := "http://anvil-mock-l1-rpc:8545/"
  l2ExecutionLayerRpcEndpoint := "http://anvil-mock-l2-rpc:8545/"
  l2ConsensusLayerRpcEndpoint := "http://rollup-node-mock-l2-rpc:8545/"
  polygonRollupManager := Bytes.ofNat 20 0xB7f8BC63BbcaD18155201308C8f3540b07f84F5e
  globalExitRootManagerV2SovereignChain := Bytes.ofNat 20 0xa40D5f56745a118D0906a34E69aeC8C0Db1cB8fA
  staticCallCallerAddress := Bytes.ofNat 20 0xe859276098f208D003ca6904C6cC26629Ee364Ce
  evmSketchGenesis := "mainnet"

/-! ## Sketches -/

/-- `EvmSketchInput`: the node and the block it was built at, and the executed calls. -/
structure EvmSketchInput where
  elRpcUrl : Url
  block : UInt64
  executed : List ContractInput
  deriving DecidableEq

/-- What a client builds its sketches with. -/
structure SketchSource where
  elRpcUrl : Url
  genesis : Genesis
  callerAddress : Address
  gerAddress : Address
  bridgeAddress : Address

namespace SketchSource

variable (world : World) (self : SketchSource)

/-- The calls on the sketch of the previous block, in order. -/
def prevCalls : List (StaticCallStage × ContractInput) :=
  [(.prevHashChain .InsertedGER, ⟨self.gerAddress, self.callerAddress, .insertedGERHashChain⟩),
    (.prevHashChain .RemovedGER, ⟨self.gerAddress, self.callerAddress, .removedGERHashChain⟩),
    (.prevHashChain .ClaimedGlobalIndex,
      ⟨self.bridgeAddress, self.callerAddress, .claimedGlobalIndexHashChain⟩),
    (.prevHashChain .UnsetGlobalIndex,
      ⟨self.bridgeAddress, self.callerAddress, .unsetGlobalIndexHashChain⟩)]

/-- The calls on the sketch of the new block, in order. -/
def newCalls : List (StaticCallStage × ContractInput) :=
  [(.bridgeAddress, ⟨self.gerAddress, self.callerAddress, .bridgeAddress⟩),
    (.newLer, ⟨self.bridgeAddress, self.callerAddress, .getRoot⟩),
    (.newHashChain .InsertedGER, ⟨self.gerAddress, self.callerAddress, .insertedGERHashChain⟩),
    (.newHashChain .RemovedGER, ⟨self.gerAddress, self.callerAddress, .removedGERHashChain⟩),
    (.newHashChain .ClaimedGlobalIndex,
      ⟨self.bridgeAddress, self.callerAddress, .claimedGlobalIndexHashChain⟩),
    (.newHashChain .UnsetGlobalIndex,
      ⟨self.bridgeAddress, self.callerAddress, .unsetGlobalIndexHashChain⟩)]

/-- `host_execute` -/
def hostExecute (block : UInt64) (call : StaticCallStage × ContractInput) :
    Except ContractsError Unit := do
  let _outputBytes ← ((world.node self.elRpcUrl).sketchCall block call.2).mapError
    (fun source => .invalidHostStaticCall source call.1)
  pure ()

/-- Build a sketch, execute the calls, finalize. -/
def sketch (initialization finalization : Report → ContractsError)
    (calls : List (StaticCallStage × ContractInput)) (block : UInt64) :
    Except ContractsError EvmSketchInput := do
  let node := world.node self.elRpcUrl
  (node.sketchBuild self.genesis block).mapError initialization
  calls.forM (self.hostExecute world block)
  let executed := calls.map Prod.snd
  (node.sketchFinalize block executed).mapError finalization
  pure ⟨self.elRpcUrl, block, executed⟩

end SketchSource

/-! ## The clients -/

structure AggchainContractsRpcClient where
  l2RootProviderEndpoint : Url
  /-- the endpoint of the L2 provider behind the contracts -/
  l2ElClient : Url
  polygonZkevmBridgeV2 : Address
  globalExitRootManagerL2 : Address
  /-- the endpoint of the L1 provider behind the aggchain contract -/
  l1Client : Url
  aggchainFep : Address
  trustedSequencerAddr : Address
  staticCallCallerAddress : Address
  evmSketchGenesis : Genesis
  opSuccinctConfigName : Digest

structure ErigonContractsClient where
  inner : AggchainContractsRpcClient
  /-- the endpoint of the JSON-RPC client -/
  l2Client : Url
  staticCallCallerAddress : Address
  globalExitRootManagerL2 : Address
  polygonZkevmBridgeV2 : Address
  sketchGenesis : Genesis

/-- The address in `.el_rpc_url(..)`. -/
def sketchRpcUrl : Url := "http://127.0.0.1:8123/"

section Model

variable (world : World)

/-- `bridgeAddress().call()` on the GER manager. -/
def World.callBridgeAddress (endpoint : Url) (ger : Address) : Except ContractsError Address := do
  let out ← ((world.node endpoint).ethCall none ger .bridgeAddress).mapError .bridgeAddressError
  (decodeAddress out).mapError .bridgeAddressError

namespace AggchainContractsRpcClient

def new (networkId : UInt32) (config : AggchainProofContractsConfig) :
    Except ContractsError AggchainContractsRpcClient := do
  (world.buildAlloyFillProvider config.l1RpcEndpoint).mapError .providerInitializationError
  (world.buildAlloyFillProvider config.l2ExecutionLayerRpcEndpoint).mapError
    .providerInitializationError
  (world.buildHttpClient config.l2ConsensusLayerRpcEndpoint).mapError .rollupNodeInitError
  let polygonZkevmBridgeV2 ← world.callBridgeAddress config.l2ExecutionLayerRpcEndpoint
    config.globalExitRootManagerV2SovereignChain
  let l1 ← world.l1 config.l1RpcEndpoint config.polygonRollupManager networkId
  let evmSketchGenesis ← world.parseEvmSketchGenesis config.evmSketchGenesis
  pure { l2RootProviderEndpoint := config.l2ExecutionLayerRpcEndpoint
         l2ElClient := config.l2ExecutionLayerRpcEndpoint
         polygonZkevmBridgeV2
         globalExitRootManagerL2 := config.globalExitRootManagerV2SovereignChain
         l1Client := config.l1RpcEndpoint
         aggchainFep := l1.aggchainFep
         trustedSequencerAddr := l1.trustedSequencer
         staticCallCallerAddress := config.staticCallCallerAddress
         evmSketchGenesis
         opSuccinctConfigName := l1.opSuccinctConfigName }

variable (self : AggchainContractsRpcClient)

def getL2LocalExitRoot (block : UInt64) : Except ContractsError Digest := do
  let response ← ((world.node self.l2ElClient).ethCall (some block) self.polygonZkevmBridgeV2
    .getRoot).mapError .localExitRootError
  (decodeBytes32 response).mapError .localExitRootError

/-- Asked of L1 each time; only the name of the configuration is the one of the set-up. -/
def getOpSuccinctConfig : Except ContractsError OpSuccinctConfig :=
  (world.opSuccinctConfigs self.l1Client self.aggchainFep self.opSuccinctConfigName).mapError
    .opSuccinctConfigRetrievalError

def sketchSource : SketchSource where
  elRpcUrl := self.l2RootProviderEndpoint
  genesis := self.evmSketchGenesis
  callerAddress := self.staticCallCallerAddress
  gerAddress := self.globalExitRootManagerL2
  bridgeAddress := self.polygonZkevmBridgeV2

def getPrevL2BlockSketch (block : UInt64) : Except ContractsError EvmSketchInput :=
  self.sketchSource.sketch world .hostExecutorPreBlockInitialization
    .invalidPreBlockSketchFinalization self.sketchSource.prevCalls block

def getNewL2BlockSketch (block : UInt64) : Except ContractsError EvmSketchInput :=
  self.sketchSource.sketch world .hostExecutorNewBlockInitialization
    .invalidNewBlockSketchFinalization self.sketchSource.newCalls block

end AggchainContractsRpcClient

namespace ErigonContractsClient

def new (inner : AggchainContractsRpcClient) (l2endpoint : Url)
    (config : AggchainProofContractsConfig) : Except ContractsError ErigonContractsClient := do
  (world.buildHttpClient l2endpoint).mapError .rollupNodeInitError
  (world.buildAlloyFillProvider config.l2ExecutionLayerRpcEndpoint).mapError
    .providerInitializationError
  let polygonZkevmBridgeV2 ← world.callBridgeAddress config.l2ExecutionLayerRpcEndpoint
    config.globalExitRootManagerV2SovereignChain
  let sketchGenesis ← world.parseEvmSketchGenesis config.evmSketchGenesis
  pure { inner
         l2Client := l2endpoint
         staticCallCallerAddress := config.staticCallCallerAddress
         globalExitRootManagerL2 := config.globalExitRootManagerV2SovereignChain
         polygonZkevmBridgeV2
         sketchGenesis }

/-- The two clients as `AggchainProofService::new` sets them up. -/
def ofConfig (networkId : UInt32) (config : AggchainProofContractsConfig) :
    Except ContractsError ErigonContractsClient := do
  let inner ← AggchainContractsRpcClient.new world networkId config
  new world inner config.l2ExecutionLayerRpcEndpoint config

variable (self : ErigonContractsClient)

/-- The decorator's sketches: at a fixed address instead of the configured endpoint. -/
def sketchSource : SketchSource where
  elRpcUrl := sketchRpcUrl
  genesis := self.sketchGenesis
  callerAddress := self.staticCallCallerAddress
  gerAddress := self.globalExitRootManagerL2
  bridgeAddress := self.polygonZkevmBridgeV2

def getPrevL2BlockSketch (block : UInt64) : Except ContractsError EvmSketchInput :=
  self.sketchSource.sketch world .hostExecutorNewBlockInitialization
    .invalidPreBlockSketchFinalization self.sketchSource.prevCalls block

def getNewL2BlockSketch (block : UInt64) : Except ContractsError EvmSketchInput :=
  self.sketchSource.sketch world .hostExecutorNewBlockInitialization
    .invalidPreBlockSketchFinalization self.sketchSource.newCalls block

def getL2OutputAtBlock (block : UInt64) : Except ContractsError L2OutputAtBlock := do
  let json ← ((world.node self.l2Client).request "eth_getBlockByNumber"
    [hexQuantity block]).mapError .l2OutputAtBlockRetrievalError
  let stateRoot ← parseHash json "stateRoot"
  let withdrawalStorageRoot ← parseHash json "withdrawalsRoot"
  let latestBlockHash ← parseHash json "hash"
  let outputRoot ← parseHash json "stateRoot"
  -- version: 0x0 on katana network
  pure ⟨Bytes.ofNat 32 0, stateRoot, withdrawalStorageRoot, latestBlockHash, outputRoot⟩

/-- The client as the builder sees it, in the world of the time it is asked. -/
def contractsClient (Signature : Type) : ContractsClient ⟨EvmSketchInput, Signature⟩ where
  getL2LocalExitRoot := self.inner.getL2LocalExitRoot world
  getL2OutputAtBlock := self.getL2OutputAtBlock world
  getOpSuccinctConfig := self.inner.getOpSuccinctConfig world
  getPrevL2BlockSketch := self.getPrevL2BlockSketch world
  getNewL2BlockSketch := self.getNewL2BlockSketch world
  getTrustedSequencerAddress := .ok self.inner.trustedSequencerAddr

end ErigonContractsClient

end Model

/-! ## Host and guest on the same state -/

section Agreement

variable {Signature : Type}

/-- The guest's executor on a sketch: a call that the host executed on it answers what the contract
answers at the block of the sketch, anchored there. -/
structure SketchExecutor (world : World) (E : Env ⟨EvmSketchInput, Signature⟩) : Prop where
  executed : ∀ {sketch i pv}, i ∈ sketch.executed → E.clientExecutorExecute sketch i = .ok pv →
    pv = ⟨(world.node sketch.elRpcUrl).view.output
      ((world.node sketch.elRpcUrl).blockHash sketch.block) i,
      (world.node sketch.elRpcUrl).blockHash sketch.block⟩
  abiDecodeAddress : E.abiDecodeAddress = decodeAddressValidate

/-- The GER manager names the same bridge at all blocks. -/
def BridgeConstant (world : World) (config : AggchainProofContractsConfig) : Prop :=
  let node := world.node config.l2ExecutionLayerRpcEndpoint
  ∀ m n, node.view.bridgeAddress (node.blockHash m) config.globalExitRootManagerV2SovereignChain =
    node.view.bridgeAddress (node.blockHash n) config.globalExitRootManagerV2SovereignChain

/-- The L2 data of one block pair. -/
structure L2Data where
  prevSketch : EvmSketchInput
  newSketch : EvmSketchInput
  prevOutput : L2OutputAtBlock
  newOutput : L2OutputAtBlock
  newLocalExitRoot : Digest

/-- The client supplies the data for a block pair. -/
structure Supplied (client : ContractsClient ⟨EvmSketchInput, Signature⟩) (prev new : UInt64)
    (data : L2Data) : Prop where
  prevSketch : client.getPrevL2BlockSketch prev = .ok data.prevSketch
  newSketch : client.getNewL2BlockSketch new = .ok data.newSketch
  prevOutput : client.getL2OutputAtBlock prev = .ok data.prevOutput
  newOutput : client.getL2OutputAtBlock new = .ok data.newOutput
  newLocalExitRoot : client.getL2LocalExitRoot new = .ok data.newLocalExitRoot

/-- The block hash a sketch is anchored at. -/
def World.anchor (world : World) (sketch : EvmSketchInput) : Digest :=
  (world.node sketch.elRpcUrl).blockHash sketch.block

/-- Host and guest read the same L2 state: the anchors are the block hashes, the root in the new
sketch is the fetched one, and the guest only runs calls that the host executed on the same sketch,
whatever else is in the witness. -/
structure Agrees (world : World) (E : Env ⟨EvmSketchInput, Signature⟩) (caller : Address)
    (data : L2Data) : Prop where
  prevAnchor : world.anchor data.prevSketch = data.prevOutput.latestBlockHash
  newAnchor : world.anchor data.newSketch = data.newOutput.latestBlockHash
  newLer : ∀ i ∈ data.newSketch.executed, i.calldata = .getRoot →
    (world.node data.newSketch.elRpcUrl).view.bytes32 (world.anchor data.newSketch)
      i.contractAddress .getRoot = data.newLocalExitRoot
  calls : ∀ w : AggchainProofWitness ⟨EvmSketchInput, Signature⟩,
    w.bridgeWitness.prevL2BlockSketch = data.prevSketch →
    w.bridgeWitness.newL2BlockSketch = data.newSketch → w.bridgeWitness.callerAddress = caller →
    ∀ c ∈ (w.bridgeConstraintsInput.verify E).calls, c.input ∈ c.sketch.executed

/-! ### What a success of each fetcher says -/

variable {world : World} {config : AggchainProofContractsConfig} {networkId : UInt32}
  {client : ErigonContractsClient}

theorem SketchSource.sketch_ok {source : SketchSource}
    {initialization finalization : Report → ContractsError}
    {calls : List (StaticCallStage × ContractInput)} {block : UInt64} {sketch : EvmSketchInput}
    (h : source.sketch world initialization finalization calls block = .ok sketch) :
    sketch = ⟨source.elRpcUrl, block, calls.map Prod.snd⟩ := by
  simp only [SketchSource.sketch, Except.bind_eq_ok, Except.pure_eq_ok] at h
  obtain ⟨-, -, -, -, -, -, rfl⟩ := h
  rfl

/-- The bridge address comes from some block of the chain at the endpoint. -/
theorem World.callBridgeAddress_ok {endpoint : Url} {ger bridge : Address}
    (h : world.callBridgeAddress endpoint ger = .ok bridge) :
    ∃ block, bridge = (world.node endpoint).view.bridgeAddress
      ((world.node endpoint).blockHash block) ger := by
  simp only [World.callBridgeAddress, Except.bind_eq_ok, Except.mapError_eq_ok] at h
  obtain ⟨out, hout, hdec⟩ := h
  obtain ⟨block, hblock⟩ := (world.node endpoint).ethCall_latest _ _ _ hout
  rw [hblock ger, L2View.output_bridgeAddress _ _ rfl, decodeAddress_pad] at hdec
  exact ⟨block, (Except.ok.inj hdec).symm⟩

/-- The set-up client: the configured addresses and endpoints, and twice the bridge address. -/
structure SetUp (world : World) (config : AggchainProofContractsConfig)
    (client : ErigonContractsClient) : Prop where
  l2Client : client.l2Client = config.l2ExecutionLayerRpcEndpoint
  l2ElClient : client.inner.l2ElClient = config.l2ExecutionLayerRpcEndpoint
  caller : client.staticCallCallerAddress = config.staticCallCallerAddress
  ger : client.globalExitRootManagerL2 = config.globalExitRootManagerV2SovereignChain
  bridge : world.callBridgeAddress config.l2ExecutionLayerRpcEndpoint
    config.globalExitRootManagerV2SovereignChain = .ok client.polygonZkevmBridgeV2
  innerBridge : client.inner.polygonZkevmBridgeV2 = client.polygonZkevmBridgeV2
  innerSource : client.inner.sketchSource.elRpcUrl = config.l2ExecutionLayerRpcEndpoint ∧
    client.inner.sketchSource.callerAddress = config.staticCallCallerAddress ∧
    client.inner.sketchSource.gerAddress = config.globalExitRootManagerV2SovereignChain

theorem ErigonContractsClient.ofConfig_ok
    (h : ErigonContractsClient.ofConfig world networkId config = .ok client) :
    SetUp world config client := by
  simp only [ErigonContractsClient.ofConfig, AggchainContractsRpcClient.new,
    ErigonContractsClient.new, Except.bind_eq_ok, Except.mapError_eq_ok, Except.pure_eq_ok] at h
  obtain ⟨inner, ⟨-, -, -, -, -, -, b, hb, -, -, -, -, rfl⟩, -, -, -, -, b', hb', -, -, rfl⟩ := h
  obtain rfl := Except.ok.inj (hb.symm.trans hb')
  exact ⟨rfl, rfl, rfl, rfl, hb, rfl, rfl, rfl, rfl⟩

theorem ErigonContractsClient.getL2OutputAtBlock_ok {block : UInt64} {output : L2OutputAtBlock}
    (h : client.getL2OutputAtBlock world block = .ok output) :
    output.latestBlockHash = (world.node client.l2Client).blockHash block := by
  simp only [ErigonContractsClient.getL2OutputAtBlock, Except.bind_eq_ok, Except.mapError_eq_ok,
    Except.pure_eq_ok] at h
  obtain ⟨json, hjson, -, -, -, -, hash, hhash, -, -, rfl⟩ := h
  exact (world.node client.l2Client).request_hash block json hash hjson hhash

theorem AggchainContractsRpcClient.getL2LocalExitRoot_ok {inner : AggchainContractsRpcClient}
    {block : UInt64} {root : Digest} (h : inner.getL2LocalExitRoot world block = .ok root) :
    root = (world.node inner.l2ElClient).view.bytes32
      ((world.node inner.l2ElClient).blockHash block) inner.polygonZkevmBridgeV2 .getRoot := by
  simp only [AggchainContractsRpcClient.getL2LocalExitRoot, Except.bind_eq_ok,
    Except.mapError_eq_ok] at h
  obtain ⟨out, hout, hdec⟩ := h
  rw [(world.node inner.l2ElClient).ethCall_at _ _ _ _ hout inner.polygonZkevmBridgeV2,
    L2View.output_bytes32 _ _ (by simp), decodeBytes32_val] at hdec
  exact (Except.ok.inj hdec).symm

/-- The chains of the GER manager are executed on both sketches. -/
theorem SketchSource.executed_ger (source : SketchSource) {f : SolFunction}
    (hf : f = .insertedGERHashChain ∨ f = .removedGERHashChain) :
    ⟨source.gerAddress, source.callerAddress, f⟩ ∈ source.prevCalls.map Prod.snd ∧
      ⟨source.gerAddress, source.callerAddress, f⟩ ∈ source.newCalls.map Prod.snd := by
  rcases hf with rfl | rfl <;> simp [SketchSource.prevCalls, SketchSource.newCalls]

/-- The chains of the bridge are executed on both sketches. -/
theorem SketchSource.executed_bridge (source : SketchSource) {f : SolFunction}
    (hf : f = .claimedGlobalIndexHashChain ∨ f = .unsetGlobalIndexHashChain) :
    ⟨source.bridgeAddress, source.callerAddress, f⟩ ∈ source.prevCalls.map Prod.snd ∧
      ⟨source.bridgeAddress, source.callerAddress, f⟩ ∈ source.newCalls.map Prod.snd := by
  rcases hf with rfl | rfl <;> simp [SketchSource.prevCalls, SketchSource.newCalls]

/-- The calls that the host executed on their sketch. -/
def hostExecuted (Signature : Type) : Set (StaticCall ⟨EvmSketchInput, Signature⟩) :=
  {c | c.input ∈ c.sketch.executed}

/-- The bridge that the guest finds is the one the GER manager names at the block of the new
sketch. -/
theorem fetchBridgeAddress_eq {E : Env ⟨EvmSketchInput, Signature⟩}
    {inp : BridgeConstraintsInput ⟨EvmSketchInput, Signature⟩} {bridge : Address}
    (hE : SketchExecutor world E)
    (hmem : ⟨inp.gerAddr, inp.bridgeWitness.callerAddress, .bridgeAddress⟩ ∈
      inp.bridgeWitness.newL2BlockSketch.executed)
    (hbridge : (inp.fetchBridgeAddress E).result = .ok bridge) :
    bridge = (world.node inp.bridgeWitness.newL2BlockSketch.elRpcUrl).view.bridgeAddress
      (world.anchor inp.bridgeWitness.newL2BlockSketch) inp.gerAddr := by
  obtain ⟨-, out, hex, hdec⟩ := StaticCallWithContext.execute_ok_iff.mp hbridge
  obtain ⟨rfl, -⟩ := ContractPublicValues.mk.inj (hE.executed hmem hex)
  have hdec' : E.abiDecodeAddress _ = .ok bridge := hdec
  rw [hE.abiDecodeAddress, L2View.output_bridgeAddress _ _ rfl, decodeAddressValidate_pad] at hdec'
  exact (Except.ok.inj hdec').symm

/-- The guest stays inside the executed calls if it looks at the GER manager of the sketches and
finds the bridge of the sketches there. -/
theorem calls_subset_executed {E : Env ⟨EvmSketchInput, Signature⟩} (source : SketchSource)
    {prev new : UInt64} {w : AggchainProofWitness ⟨EvmSketchInput, Signature⟩}
    (hE : SketchExecutor world E) (hger : source.gerAddress = L2_GER_ADDR)
    (hnamed : (world.node source.elRpcUrl).view.bridgeAddress
      ((world.node source.elRpcUrl).blockHash new) L2_GER_ADDR = source.bridgeAddress)
    (hprev : w.bridgeWitness.prevL2BlockSketch =
      ⟨source.elRpcUrl, prev, source.prevCalls.map Prod.snd⟩)
    (hnew : w.bridgeWitness.newL2BlockSketch =
      ⟨source.elRpcUrl, new, source.newCalls.map Prod.snd⟩)
    (hcaller : w.bridgeWitness.callerAddress = source.callerAddress) :
    ∀ c ∈ (w.bridgeConstraintsInput.verify E).calls, c ∈ hostExecuted Signature := by
  have hchain : ∀ {address f}, ⟨address, source.callerAddress, f⟩ ∈ source.prevCalls.map Prod.snd ∧
      ⟨address, source.callerAddress, f⟩ ∈ source.newCalls.map Prod.snd →
      w.bridgeConstraintsInput.ChainCallsIn (hostExecuted Signature) address f := by
    rintro address f ⟨hmem, hmem'⟩
    refine ⟨?_, ?_⟩
    · show ⟨address, w.bridgeWitness.callerAddress, f⟩ ∈ w.bridgeWitness.prevL2BlockSketch.executed
      rw [hprev, hcaller]
      exact hmem
    · show ⟨address, w.bridgeWitness.callerAddress, f⟩ ∈ w.bridgeWitness.newL2BlockSketch.executed
      rw [hnew, hcaller]
      exact hmem'
  have haddr : ⟨L2_GER_ADDR, w.bridgeWitness.callerAddress, .bridgeAddress⟩ ∈
      w.bridgeWitness.newL2BlockSketch.executed := by
    rw [hnew, hcaller, ← hger]
    simp [SketchSource.newCalls]
  have hgerChain : ∀ f, f = .insertedGERHashChain ∨ f = .removedGERHashChain →
      w.bridgeConstraintsInput.ChainCallsIn (hostExecuted Signature) L2_GER_ADDR f := by
    intro f hf
    have hmem := source.executed_ger hf
    rw [hger] at hmem
    exact hchain hmem
  refine BridgeConstraintsInput.calls_verify (hgerChain _ (Or.inl rfl)) (hgerChain _ (Or.inr rfl))
    haddr ?_
  intro bridge hbridge
  have hfound := fetchBridgeAddress_eq hE haddr hbridge
  rw [show w.bridgeConstraintsInput.bridgeWitness = w.bridgeWitness from rfl, hnew] at hfound
  -- the bridge found by the guest is the one of the sketches
  obtain rfl : bridge = source.bridgeAddress := hfound.trans hnamed
  refine ⟨hchain (source.executed_bridge (Or.inl rfl)), hchain (source.executed_bridge (Or.inr rfl)),
    ?_⟩
  show ⟨source.bridgeAddress, w.bridgeWitness.callerAddress, .getRoot⟩ ∈
    w.bridgeWitness.newL2BlockSketch.executed
  rw [hnew, hcaller]
  simp [SketchSource.newCalls]

/-- With sketches from a source at the configured endpoint, and the GER manager at its fixed address,
the two sides agree. -/
theorem SetUp.agrees {E : Env ⟨EvmSketchInput, Signature⟩} {source : SketchSource}
    {prev new : UInt64} {data : L2Data} (hset : SetUp world config client)
    (hconst : BridgeConstant world config) (hE : SketchExecutor world E)
    (hger : config.globalExitRootManagerV2SovereignChain = L2_GER_ADDR)
    (hsource : source.elRpcUrl = config.l2ExecutionLayerRpcEndpoint ∧
      source.callerAddress = config.staticCallCallerAddress ∧
      source.gerAddress = config.globalExitRootManagerV2SovereignChain)
    (hbridge : source.bridgeAddress = client.polygonZkevmBridgeV2)
    (hprevSketch : data.prevSketch = ⟨source.elRpcUrl, prev, source.prevCalls.map Prod.snd⟩)
    (hnewSketch : data.newSketch = ⟨source.elRpcUrl, new, source.newCalls.map Prod.snd⟩)
    (hprevOutput : client.getL2OutputAtBlock world prev = .ok data.prevOutput)
    (hnewOutput : client.getL2OutputAtBlock world new = .ok data.newOutput)
    (hroot : client.inner.getL2LocalExitRoot world new = .ok data.newLocalExitRoot) :
    Agrees world E config.staticCallCallerAddress data := by
  obtain ⟨hurl, hcaller, hsger⟩ := hsource
  have hprevHash := ErigonContractsClient.getL2OutputAtBlock_ok hprevOutput
  have hnewHash := ErigonContractsClient.getL2OutputAtBlock_ok hnewOutput
  have hrootValue := AggchainContractsRpcClient.getL2LocalExitRoot_ok hroot
  rw [hset.l2Client, ← hurl] at hprevHash hnewHash
  rw [hset.l2ElClient, ← hurl, hset.innerBridge, ← hbridge] at hrootValue
  -- the bridge named at the new block is the one the client read at its start
  have hnamed : (world.node source.elRpcUrl).view.bridgeAddress
      ((world.node source.elRpcUrl).blockHash new) L2_GER_ADDR = source.bridgeAddress := by
    obtain ⟨block, hread⟩ := World.callBridgeAddress_ok hset.bridge
    rw [hbridge, hread, hurl, ← hger]
    exact hconst new block
  refine ⟨?_, ?_, ?_, ?_⟩
  · rw [hprevSketch, hprevHash]
    rfl
  · rw [hnewSketch, hnewHash]
    rfl
  · intro i hi hgetRoot
    rw [hnewSketch] at hi ⊢
    have haddr : i.contractAddress = source.bridgeAddress := by
      simp only [SketchSource.newCalls, List.map_cons, List.map_nil, List.mem_cons,
        List.not_mem_nil, or_false] at hi
      rcases hi with rfl | rfl | rfl | rfl | rfl | rfl <;> first | rfl | cases hgetRoot
    rw [haddr]
    exact hrootValue.symm
  · intro w hprev hnew hcall
    exact calls_subset_executed source hE (hsger.trans hger) hnamed (hprev.trans hprevSketch)
      (hnew.trans hnewSketch) (hcall.trans hcaller.symm)

/-- The sketches of the decorated client are built at the configured endpoint: with them the two
sides agree whatever that endpoint is. -/
theorem AggchainContractsRpcClient.sketches_agree {E : Env ⟨EvmSketchInput, Signature⟩}
    {prev new : UInt64} {data : L2Data}
    (hger : config.globalExitRootManagerV2SovereignChain = L2_GER_ADDR)
    (hconst : BridgeConstant world config) (hE : SketchExecutor world E)
    (hclient : ErigonContractsClient.ofConfig world networkId config = .ok client)
    (hprevSketch : client.inner.getPrevL2BlockSketch world prev = .ok data.prevSketch)
    (hnewSketch : client.inner.getNewL2BlockSketch world new = .ok data.newSketch)
    (hprevOutput : client.getL2OutputAtBlock world prev = .ok data.prevOutput)
    (hnewOutput : client.getL2OutputAtBlock world new = .ok data.newOutput)
    (hroot : client.inner.getL2LocalExitRoot world new = .ok data.newLocalExitRoot) :
    Agrees world E config.staticCallCallerAddress data :=
  have hset := ErigonContractsClient.ofConfig_ok hclient
  hset.agrees hconst hE hger hset.innerSource hset.innerBridge (SketchSource.sketch_ok hprevSketch)
    (SketchSource.sketch_ok hnewSketch) hprevOutput hnewOutput hroot

/-- The sketches of the decorator agree where the configured endpoint is their fixed address. -/
theorem ErigonContractsClient.agrees_of_config {E : Env ⟨EvmSketchInput, Signature⟩}
    {prev new : UInt64} {data : L2Data}
    (hurl : config.l2ExecutionLayerRpcEndpoint = sketchRpcUrl)
    (hger : config.globalExitRootManagerV2SovereignChain = L2_GER_ADDR)
    (hconst : BridgeConstant world config) (hE : SketchExecutor world E)
    (hclient : ErigonContractsClient.ofConfig world networkId config = .ok client)
    (hdata : Supplied (client.contractsClient world Signature) prev new data) :
    Agrees world E config.staticCallCallerAddress data :=
  have hset := ofConfig_ok hclient
  hset.agrees hconst hE hger ⟨hurl.symm, hset.caller, hset.ger⟩ rfl
    (SketchSource.sketch_ok hdata.prevSketch) (SketchSource.sketch_ok hdata.newSketch)
    hdata.prevOutput hdata.newOutput hdata.newLocalExitRoot

end Agreement

/-! ## Two nodes

A world with one chain behind the fixed address of the sketches and another one everywhere else. -/

namespace TwoNodes

/-- The functions of `E`, with static calls on the sketches of the host. -/
def onSketches {X : Ext} (E : Env X) (world : World) : Env ⟨EvmSketchInput, X.Signature⟩ where
  keccak256 := E.keccak256
  sha256 := E.sha256
  recoverAddressFromPrehash := E.recoverAddressFromPrehash
  verifySp1Proof := E.verifySp1Proof
  merkleProofVerify := E.merkleProofVerify
  l1InfoTreeLeafHash := E.l1InfoTreeLeafHash
  l1InfoTreeLeafGer := E.l1InfoTreeLeafGer
  claimCommitment := E.claimCommitment
  importedBridgeExitsCommitmentV3 := E.importedBridgeExitsCommitmentV3
  clientExecutorEth _ := .ok ()
  clientExecutorExecute sketch i :=
    if i ∈ sketch.executed then
      .ok ⟨(world.node sketch.elRpcUrl).view.output (world.anchor sketch) i, world.anchor sketch⟩
    else .error "missing state"
  abiDecodeBytes32 := decodeBytes32
  abiDecodeAddress := decodeAddressValidate

theorem sketchExecutor_onSketches {X : Ext} (E : Env X) (world : World) :
    SketchExecutor world (onSketches E world) where
  executed := by
    intro sketch i pv hi hex
    have hok : (onSketches E world).clientExecutorExecute sketch i = .ok _ := if_pos hi
    exact (Except.ok.inj (hok.symm.trans hex)).symm
  abiDecodeAddress := rfl

/-- Contracts without state. -/
def emptyView : L2View := ⟨fun _ _ _ => Bytes.ofNat 32 0, fun _ _ => Bytes.ofNat 20 0⟩

/-- A hash of one repeated digit, as text. -/
def hashText (digit : Char) : String := String.ofList ('0' :: 'x' :: List.replicate 64 digit)

/-- A block whose hashes are all the same. -/
def blockJson (digit : Char) : Json :=
  .object [("hash", .string (hashText digit)), ("stateRoot", .string (hashText digit)),
    ("withdrawalsRoot", .string (hashText digit))]

theorem parseHash_blockJson {digit : Char} {hash : Digest}
    (h : b256FromStr (hashText digit) = .ok hash) :
    ∀ field ∈ ["hash", "stateRoot", "withdrawalsRoot"],
      parseHash (blockJson digit) field = .ok hash := by
  intro field hfield
  simp only [parseHash, Except.bind_eq_ok, Except.okOr_eq_ok, Except.mapError_eq_ok]
  simp only [List.mem_cons, List.not_mem_nil, or_false] at hfield
  rcases hfield with rfl | rfl | rfl
  · exact ⟨.string (hashText digit), rfl, _, rfl, h⟩
  · exact ⟨.string (hashText digit), rfl, _, rfl, h⟩
  · exact ⟨.string (hashText digit), rfl, _, rfl, h⟩

/-- A node of a chain on which every block has the hash with this digit. -/
def node (digit : Char) (hash : Digest) (h : b256FromStr (hashText digit) = .ok hash) : Node where
  blockHash _ := hash
  view := emptyView
  request _ _ := .ok (blockJson digit)
  ethCall _ address f := .ok (emptyView.output hash ⟨address, address, f⟩)
  sketchBuild _ _ := .ok ()
  sketchCall _ _ := .ok []
  sketchFinalize _ _ := .ok ()
  request_hash := by
    rintro block json hash' hjson hparse
    obtain rfl := Except.ok.inj hjson
    exact Except.ok.inj (hparse.symm.trans (parseHash_blockJson h "hash" (by simp)))
  ethCall_at := by
    rintro block address f out hout caller
    exact (Except.ok.inj hout).symm
  ethCall_latest := by
    rintro address f out hout
    exact ⟨0, fun caller => (Except.ok.inj hout).symm⟩

theorem parse_zeros : b256FromStr (hashText '0') = .ok (Bytes.ofNat 32 0) := by
  rw [b256FromStr, hashText, String.toList_ofList]
  decide +kernel

theorem parse_ones : b256FromStr (hashText '1') = .ok ⟨List.replicate 32 0x11, rfl⟩ := by
  rw [b256FromStr, hashText, String.toList_ofList]
  decide +kernel

def zeros : Node := node '0' _ parse_zeros
def ones : Node := node '1' _ parse_ones

def world : World where
  node url := if url = sketchRpcUrl then ones else zeros
  buildAlloyFillProvider _ := .ok ()
  buildHttpClient _ := .ok ()
  parseEvmSketchGenesis _ := .ok .mainnet
  l1 _ _ _ := .ok ⟨Bytes.ofNat 20 0, Bytes.ofNat 20 0, Bytes.ofNat 32 0⟩
  opSuccinctConfigs _ _ _ := .error "not available"

theorem world_node (url : Url) : world.node url = if url = sketchRpcUrl then ones else zeros := rfl

/-- Either node answers for the empty contracts, with the hash of one digit. -/
theorem world_node_cases (url : Url) : ∃ digit hash h, world.node url = node digit hash h := by
  rw [world_node]
  split_ifs
  · exact ⟨_, _, parse_ones, rfl⟩
  · exact ⟨_, _, parse_zeros, rfl⟩

/-- Both nodes name the bridge at address zero. -/
theorem world_callBridgeAddress (url : Url) (ger : Address) :
    world.callBridgeAddress url ger = .ok (Bytes.ofNat 20 0) := by
  obtain ⟨digit, hash, h, hnode⟩ := world_node_cases url
  simp only [World.callBridgeAddress, Except.bind_eq_ok, Except.mapError_eq_ok, hnode]
  refine ⟨_, rfl, ?_⟩
  rw [L2View.output_bridgeAddress _ _ rfl, decodeAddress_pad]
  rfl

variable (config : AggchainProofContractsConfig)

/-- The client in this world. -/
def client : ErigonContractsClient where
  inner :=
    { l2RootProviderEndpoint := config.l2ExecutionLayerRpcEndpoint
      l2ElClient := config.l2ExecutionLayerRpcEndpoint
      polygonZkevmBridgeV2 := Bytes.ofNat 20 0
      globalExitRootManagerL2 := config.globalExitRootManagerV2SovereignChain
      l1Client := config.l1RpcEndpoint
      aggchainFep := Bytes.ofNat 20 0
      trustedSequencerAddr := Bytes.ofNat 20 0
      staticCallCallerAddress := config.staticCallCallerAddress
      evmSketchGenesis := .mainnet
      opSuccinctConfigName := Bytes.ofNat 32 0 }
  l2Client := config.l2ExecutionLayerRpcEndpoint
  staticCallCallerAddress := config.staticCallCallerAddress
  globalExitRootManagerL2 := config.globalExitRootManagerV2SovereignChain
  polygonZkevmBridgeV2 := Bytes.ofNat 20 0
  sketchGenesis := .mainnet

theorem ofConfig_client (networkId : UInt32) :
    ErigonContractsClient.ofConfig world networkId config = .ok (client config) := by
  rw [ErigonContractsClient.ofConfig, AggchainContractsRpcClient.new, world_callBridgeAddress]
  show ErigonContractsClient.new world _ _ _ = _
  rw [ErigonContractsClient.new, world_callBridgeAddress]
  rfl

/-- The L2 data it supplies for the blocks `1` and `2`. -/
def data : L2Data where
  prevSketch := ⟨sketchRpcUrl, 1, (client config).sketchSource.prevCalls.map Prod.snd⟩
  newSketch := ⟨sketchRpcUrl, 2, (client config).sketchSource.newCalls.map Prod.snd⟩
  prevOutput := output
  newOutput := output
  newLocalExitRoot := Bytes.ofNat 32 0
where
  output :=
    let hash := (world.node config.l2ExecutionLayerRpcEndpoint).blockHash 0
    ⟨Bytes.ofNat 32 0, hash, hash, hash, hash⟩

theorem getL2OutputAtBlock_client (block : UInt64) :
    (client config).getL2OutputAtBlock world block = .ok (data.output config) := by
  obtain ⟨digit, hash, h, hnode⟩ := world_node_cases config.l2ExecutionLayerRpcEndpoint
  have hparse := parseHash_blockJson h
  have houtput : data.output config = ⟨Bytes.ofNat 32 0, hash, hash, hash, hash⟩ := by
    rw [data.output, hnode]
    rfl
  have hrequest : (world.node (client config).l2Client).request "eth_getBlockByNumber"
      [hexQuantity block] = .ok (blockJson digit) := by
    show (world.node config.l2ExecutionLayerRpcEndpoint).request _ _ = _
    rw [hnode]
    rfl
  simp only [ErigonContractsClient.getL2OutputAtBlock, Except.bind_eq_ok, Except.mapError_eq_ok,
    Except.pure_eq_ok]
  exact ⟨_, hrequest, hash, hparse _ (by simp), hash, hparse _ (by simp), hash, hparse _ (by simp),
    hash, hparse _ (by simp), houtput.symm⟩

theorem getL2LocalExitRoot_client (block : UInt64) :
    (client config).inner.getL2LocalExitRoot world block = .ok (Bytes.ofNat 32 0) := by
  obtain ⟨digit, hash, h, hnode⟩ := world_node_cases config.l2ExecutionLayerRpcEndpoint
  have hcall : (world.node (client config).inner.l2ElClient).ethCall (some block) (Bytes.ofNat 20 0)
      .getRoot = .ok (emptyView.output hash ⟨Bytes.ofNat 20 0, Bytes.ofNat 20 0, .getRoot⟩) := by
    show (world.node config.l2ExecutionLayerRpcEndpoint).ethCall _ _ _ = _
    rw [hnode]
    rfl
  simp only [AggchainContractsRpcClient.getL2LocalExitRoot, Except.bind_eq_ok,
    Except.mapError_eq_ok]
  refine ⟨_, hcall, ?_⟩
  rw [L2View.output_bytes32 _ _ (by simp), decodeBytes32_val]
  rfl

/-- Every sketch is built, executed and finalized. -/
theorem sketch_world (source : SketchSource) (initialization finalization : Report → ContractsError)
    (calls : List (StaticCallStage × ContractInput)) (block : UInt64) :
    source.sketch world initialization finalization calls block =
      .ok ⟨source.elRpcUrl, block, calls.map Prod.snd⟩ := by
  obtain ⟨digit, hash, h, hnode⟩ := world_node_cases source.elRpcUrl
  have hcalls : calls.forM (source.hostExecute world block) = .ok () := by
    induction calls with
    | nil => rfl
    | cons call calls ih =>
      have hcall : source.hostExecute world block call = .ok () := by
        rw [SketchSource.hostExecute, hnode]
        rfl
      rw [List.forM_eq_forM, List.forM_cons, hcall]
      exact ih
  simp only [SketchSource.sketch, Except.bind_eq_ok, Except.mapError_eq_ok, Except.pure_eq_ok, hnode]
  exact ⟨(), rfl, (), hcalls, (), rfl, trivial⟩

theorem supplied_data (Signature : Type) :
    Supplied ((client config).contractsClient world Signature) 1 2 (data config) where
  prevSketch := sketch_world _ _ _ _ _
  newSketch := sketch_world _ _ _ _ _
  prevOutput := getL2OutputAtBlock_client config 1
  newOutput := getL2OutputAtBlock_client config 2
  newLocalExitRoot := getL2LocalExitRoot_client config 2

theorem bridgeConstant_world : BridgeConstant world config := by
  intro m n
  obtain ⟨digit, hash, h, hnode⟩ := world_node_cases config.l2ExecutionLayerRpcEndpoint
  rw [hnode]
  rfl

/-- A witness with these sketches, for the rest as in `Sample.proofWitness`. -/
def witness : AggchainProofWitness ⟨EvmSketchInput, Bytes 65⟩ where
  prevLocalExitRoot := Bytes.ofNat 32 0
  newLocalExitRoot := (data config).newLocalExitRoot
  l1InfoRoot := Sample.path.root
  originNetwork := 1
  fep :=
    { l1Head := Sample.leaf.inner.blockHash
      claimBlockNum := 2
      rollupConfigHash := Bytes.ofNat 32 0xcf
      prevStateRoot := (data config).prevOutput.stateRoot
      prevWithdrawalStorageRoot := (data config).prevOutput.withdrawalStorageRoot
      prevBlockHash := (data config).prevOutput.latestBlockHash
      newStateRoot := (data config).newOutput.stateRoot
      newWithdrawalStorageRoot := (data config).newOutput.withdrawalStorageRoot
      newBlockHash := (data config).newOutput.latestBlockHash
      aggregationVkeyHash := Sample.vkeyHash
      rangeVkeyCommitment := Bytes.ofNat 32 0x7a
      trustedSequencer := Sample.trustedSequencer
      signatureOptimisticMode := none
      l1InfoTreeLeaf := Sample.leaf
      l1HeadInclusionProof := Sample.path }
  commitImportedBridgeExits := Sample.emptyHash
  bridgeWitness :=
    { insertedGers := []
      rawInsertedGers := []
      removedGers := []
      bridgeExitsClaimed := []
      globalIndicesUnset := []
      prevL2BlockSketch := (data config).prevSketch
      newL2BlockSketch := (data config).newSketch
      callerAddress := config.staticCallCallerAddress }

end TwoNodes

/-! ## For which configurations -/

section Config

/-- In every world the data for every block pair agree with what the guest reads. -/
def AlwaysAgrees (networkId : UInt32) (config : AggchainProofContractsConfig) : Prop :=
  ∀ (Signature : Type) (world : World) (E : Env ⟨EvmSketchInput, Signature⟩)
    (client : ErigonContractsClient) (prev new : UInt64) (data : L2Data),
    BridgeConstant world config → SketchExecutor world E →
    ErigonContractsClient.ofConfig world networkId config = .ok client →
    Supplied (client.contractsClient world Signature) prev new data →
    Agrees world E config.staticCallCallerAddress data

/-- The instance of the two nodes. -/
theorem AlwaysAgrees.twoNodes {networkId : UInt32} {config : AggchainProofContractsConfig}
    (h : AlwaysAgrees networkId config) :
    Agrees TwoNodes.world (TwoNodes.onSketches Sample.env TwoNodes.world)
      config.staticCallCallerAddress (TwoNodes.data config) :=
  h (Bytes 65) TwoNodes.world _ (TwoNodes.client config) 1 2 _ (TwoNodes.bridgeConstant_world config)
    (TwoNodes.sketchExecutor_onSketches _ _) (TwoNodes.ofConfig_client config networkId)
    (TwoNodes.supplied_data config _)

/-- The two nodes are told apart unless the sketches are built at the configured endpoint. -/
theorem TwoNodes.endpoint_of_agrees {X : Ext} {E : Env X} {config : AggchainProofContractsConfig}
    (h : Agrees world (onSketches E world) config.staticCallCallerAddress (data config)) :
    config.l2ExecutionLayerRpcEndpoint = sketchRpcUrl := by
  by_contra hne
  have hanchor : (world.node sketchRpcUrl).blockHash 1 =
      (world.node config.l2ExecutionLayerRpcEndpoint).blockHash 0 := h.prevAnchor
  rw [world_node, world_node, if_pos rfl, if_neg hne] at hanchor
  have hdiff : ones.blockHash 1 ≠ zeros.blockHash 0 := by decide +kernel
  exact hdiff hanchor

/-- The first call of the guest is executed by the host only if the configured GER manager is the one
of the guest. -/
theorem TwoNodes.ger_of_agrees {E : Env ⟨Digest, Bytes 65⟩} {config : AggchainProofContractsConfig}
    (h : Agrees world (onSketches E world) config.staticCallCallerAddress (data config)) :
    config.globalExitRootManagerV2SovereignChain = L2_GER_ADDR := by
  have hmem : ⟨L2_GER_ADDR, config.staticCallCallerAddress, .insertedGERHashChain⟩ ∈
      (data config).prevSketch.executed :=
    h.calls (witness config) rfl rfl rfl _ BridgeConstraintsInput.first_call_mem
  -- no other call of the host is to this function
  simpa [data, SketchSource.prevCalls, client, ErigonContractsClient.sketchSource, eq_comm] using hmem

/-- **Host and guest read the same L2 state** exactly when the configured endpoint is the address
that the sketches are built at and the configured GER manager is the one of the guest. -/
theorem ErigonContractsClient.agrees_iff (networkId : UInt32)
    (config : AggchainProofContractsConfig) :
    AlwaysAgrees networkId config ↔
      config.l2ExecutionLayerRpcEndpoint = sketchRpcUrl ∧
        config.globalExitRootManagerV2SovereignChain = L2_GER_ADDR := by
  constructor
  · intro h
    exact ⟨TwoNodes.endpoint_of_agrees h.twoNodes, TwoNodes.ger_of_agrees h.twoNodes⟩
  · rintro ⟨hurl, hger⟩ Signature world E client prev new data hconst hE hclient hdata
    exact agrees_of_config hurl hger hconst hE hclient hdata

/-- The default configuration: the sketches are not anchored at the blocks of the configured chain. -/
theorem default_not_agrees : ¬ AlwaysAgrees 1 .default := by
  intro h
  have hurl : AggchainProofContractsConfig.default.l2ExecutionLayerRpcEndpoint = sketchRpcUrl :=
    TwoNodes.endpoint_of_agrees h.twoNodes
  exact absurd hurl (by decide)

end Config

end Aggchain
