import Aggchain.External
import Aggchain.Host.ConfigRoundTrip
import Aggchain.Lib.Hex

/-!
# Aggchain.Host.AggkitConfig — `aggkit-prover-config` and the configurations it is made of

The configuration of `aggkit-prover` nests those of its services.  The `config` command prints the
default one and `validate-config` the one it has loaded.

* `Aggkit.ProverConfig.loadsBack_iff_printable`: which configurations load back, of all there are:
  the ones without log outputs, with whole seconds in the two timeouts of the proposer client, and
  with numbers that TOML has.  The default configuration does, whatever the environment is when it
  is loaded.
-/

namespace Aggchain

open Net (SocketAddr)

/-! ## Texts and values -/

/-- What `http::Uri`, `alloy` and `serde_with` print and parse. -/
structure AggkitTexts extends ConfigTexts where
  Uri : Type
  parseUri : String → Option Uri
  uriToString : Uri → String
  parseAddress : String → Option Address
  addressToString : Address → String
  /-- `DurationSeconds<u64>` -/
  toSeconds : Duration → UInt64

/-- Printing is undone by parsing, and whole seconds are kept. -/
structure AggkitTexts.PrintParse (T : AggkitTexts) : Prop where
  texts : T.toConfigTexts.PrintParse
  uri : ∀ u, T.parseUri (T.uriToString u) = some u
  address : ∀ a, T.parseAddress (T.addressToString a) = some a
  seconds : ∀ n, T.toSeconds (.fromSecs n) = n

/-- The variables of the environment that defaults are taken from. -/
structure ConfigEnv where
  sp1ClusterEndpoint : Option String
  proposerServiceEndpoint : Option String

section Values

variable (T : AggkitTexts)

def deserializeU32 : Toml → Option UInt32
  | .integer value =>
    if 0 ≤ value.val ∧ value.val < 4294967296 then some (UInt32.ofNat value.val.toNat) else none
  | _ => none

def serializeU32 (value : UInt32) : Toml :=
  .integer ⟨value.toNat, by have := value.toNat_lt; omega, by have := value.toNat_lt; omega⟩

def deserializeBool : Toml → Option Bool
  | .boolean value => some value
  | _ => none

def deserializeString : Toml → Option String
  | .string text => some text
  | _ => none

/-- `DisplayFromStr` -/
def deserializeUri : Toml → Option T.Uri
  | .string text => T.parseUri text
  | _ => none

def serializeUri (value : T.Uri) : Toml := .string (T.uriToString value)

/-- An address as text; the array of its bytes, which is read as well, is left out. -/
def deserializeAddress : Toml → Option Address
  | .string text => T.parseAddress text
  | _ => none

def serializeAddress (value : Address) : Toml := .string (T.addressToString value)

/-- An `Option` without a default: a key may be missing in a table, but no element in an array. -/
def missingOption {α : Type} : Toml → Option (Option α)
  | .array _ => none
  | _ => some none

/-- `DurationSeconds<u64>` -/
def deserializeSeconds (t : Toml) : Option Duration := (deserializeUsize t).map .fromSecs

def serializeSeconds (value : Duration) : Option Toml := serializeUsize (T.toSeconds value)

end Values

namespace Aggkit

variable (T : AggkitTexts)

/-! ## The proposer (`proposer-client`, `proposer-service`) -/

structure ProposerClientConfig where
  proposerEndpoint : T.Uri
  sp1ClusterEndpoint : T.Url
  requestTimeout : Duration
  provingTimeout : Duration

structure ProposerServiceConfig where
  mock : Bool
  client : ProposerClientConfig T
  l1RpcEndpoint : T.Url

/-- `from_env_or_default`; the `unwrap` of the built-in endpoint comes first. -/
def defaultProposerServiceEndpoint (env : ConfigEnv) : Option T.Uri := do
  let builtin ← T.parseUri "http://proposer-mock-rpc:3000"
  pure ((env.proposerServiceEndpoint.bind T.parseUri).getD builtin)

def defaultRequestTimeout : Duration := .fromSecs 600

def defaultProvingTimeout : Duration := .fromSecs 3600

/-- `L1RpcEndpoint::default` -/
def defaultL1RpcEndpoint : Option T.Url := T.parseUrl "http://anvil-mock-l1-rpc:8545"

namespace ProposerClientConfig

def default (env : ConfigEnv) : Option (ProposerClientConfig T) := do
  let proposerEndpoint ← defaultProposerServiceEndpoint T env
  let sp1ClusterEndpoint ← defaultSp1ClusterEndpoint T.toConfigTexts env.sp1ClusterEndpoint
  pure { proposerEndpoint, sp1ClusterEndpoint, requestTimeout := defaultRequestTimeout,
         provingTimeout := defaultProvingTimeout }

def deserialize (env : ConfigEnv) (t : Toml) : Option (ProposerClientConfig T) := do
  let proposerEndpoint ← t.readField ["proposer-endpoint"] 0 (deserializeUri T)
    (defaultProposerServiceEndpoint T env)
  let sp1ClusterEndpoint ← t.readField ["sp1-cluster-endpoint"] 1 (deserializeUrl T.toConfigTexts)
    (defaultSp1ClusterEndpoint T.toConfigTexts env.sp1ClusterEndpoint)
  let requestTimeout ← t.readField ["request-timeout"] 2 deserializeSeconds
    (some defaultRequestTimeout)
  let provingTimeout ← t.readField ["proving-timeout"] 3 deserializeSeconds
    (some defaultProvingTimeout)
  pure { proposerEndpoint, sp1ClusterEndpoint, requestTimeout, provingTimeout }

variable {T}

def serialize (self : ProposerClientConfig T) : Option Toml := do
  let requestTimeout ← serializeSeconds T self.requestTimeout
  let provingTimeout ← serializeSeconds T self.provingTimeout
  pure (.struct [("proposer-endpoint", some (serializeUri T self.proposerEndpoint)),
    ("sp1-cluster-endpoint", some (serializeUrl T.toConfigTexts self.sp1ClusterEndpoint)),
    ("request-timeout", some requestTimeout),
    ("proving-timeout", some provingTimeout)])

end ProposerClientConfig

namespace ProposerServiceConfig

def default (env : ConfigEnv) : Option (ProposerServiceConfig T) := do
  let client ← ProposerClientConfig.default T env
  let l1RpcEndpoint ← defaultL1RpcEndpoint T
  pure { mock := false, client, l1RpcEndpoint }

/-- The client and the endpoint have to be there. -/
def deserialize (env : ConfigEnv) (t : Toml) : Option (ProposerServiceConfig T) := do
  let mock ← t.readField ["mock"] 0 deserializeBool (some false)
  let client ← t.readField ["client"] 1 (ProposerClientConfig.deserialize T env) none
  let l1RpcEndpoint ← t.readField ["l1-rpc-endpoint"] 2 (deserializeUrl T.toConfigTexts) none
  pure { mock, client, l1RpcEndpoint }

variable {T}

def serialize (self : ProposerServiceConfig T) : Option Toml := do
  let client ← self.client.serialize
  pure (.struct [("mock", some (.boolean self.mock)), ("client", some client),
    ("l1-rpc-endpoint", some (serializeUrl T.toConfigTexts self.l1RpcEndpoint))])

end ProposerServiceConfig

/-! ## The builder (`aggchain-proof-contracts`, `aggchain-proof-builder`) -/

structure AggchainProofContractsConfig where
  l1RpcEndpoint : T.Url
  l2ExecutionLayerRpcEndpoint : T.Url
  l2ConsensusLayerRpcEndpoint : T.Url
  polygonRollupManager : Address
  globalExitRootManagerV2SovereignChain : Address
  staticCallCallerAddress : Address
  evmSketchGenesis : String

structure AggchainProofBuilderConfig where
  networkId : UInt32
  primaryProver : ProverType T.toConfigTexts
  fallbackProver : Option (ProverType T.toConfigTexts)
  provingTimeout : Duration
  contracts : AggchainProofContractsConfig T

structure AggchainProofServiceConfig where
  aggchainProofBuilder : AggchainProofBuilderConfig T
  proposerService : ProposerServiceConfig T

def defaultL2ExecutionLayerUrl : Option T.Url := T.parseUrl "http://anvil-mock-l2-rpc:8545"

def defaultL2ConsensusLayerUrl : Option T.Url := T.parseUrl "http://rollup-node-mock-l2-rpc:8545"

def defaultPolygonRollupManager : Address :=
  Bytes.ofNat 20 0xB7f8BC63BbcaD18155201308C8f3540b07f84F5e

def defaultGlobalExitRootManagerV2SovereignChain : Address :=
  Bytes.ofNat 20 0xa40D5f56745a118D0906a34E69aeC8C0Db1cB8fA

def defaultStaticCallCallerAddress : Address :=
  Bytes.ofNat 20 0xe859276098f208D003ca6904C6cC26629Ee364Ce

def defaultEvmSketchGenesis : String := "mainnet"

def defaultAggchainProverTimeout : Duration := .fromSecs 3600

namespace AggchainProofContractsConfig

def default : Option (AggchainProofContractsConfig T) := do
  let l1RpcEndpoint ← defaultL1RpcEndpoint T
  let l2ExecutionLayerRpcEndpoint ← defaultL2ExecutionLayerUrl T
  let l2ConsensusLayerRpcEndpoint ← defaultL2ConsensusLayerUrl T
  pure { l1RpcEndpoint, l2ExecutionLayerRpcEndpoint, l2ConsensusLayerRpcEndpoint,
         polygonRollupManager := defaultPolygonRollupManager
         globalExitRootManagerV2SovereignChain := defaultGlobalExitRootManagerV2SovereignChain
         staticCallCallerAddress := defaultStaticCallCallerAddress
         evmSketchGenesis := defaultEvmSketchGenesis }

def deserialize (t : Toml) : Option (AggchainProofContractsConfig T) := do
  let l1RpcEndpoint ← t.readField ["l1-rpc-endpoint"] 0 (deserializeUrl T.toConfigTexts)
    (defaultL1RpcEndpoint T)
  let l2ExecutionLayerRpcEndpoint ← t.readField ["l2-execution-layer-rpc-endpoint"] 1
    (deserializeUrl T.toConfigTexts) (defaultL2ExecutionLayerUrl T)
  let l2ConsensusLayerRpcEndpoint ← t.readField ["l2-consensus-layer-rpc-endpoint"] 2
    (deserializeUrl T.toConfigTexts) (defaultL2ConsensusLayerUrl T)
  let polygonRollupManager ← t.readField ["polygon-rollup-manager"] 3 (deserializeAddress T)
    (some defaultPolygonRollupManager)
  let globalExitRootManagerV2SovereignChain ←
    t.readField ["global-exit-root-manager-v2-sovereign-chain"] 4 (deserializeAddress T)
      (some defaultGlobalExitRootManagerV2SovereignChain)
  let staticCallCallerAddress ← t.readField ["static-call-caller-address"] 5 (deserializeAddress T)
    (some defaultStaticCallCallerAddress)
  let evmSketchGenesis ← t.readField ["evm-sketch-genesis"] 6 deserializeString
    (some defaultEvmSketchGenesis)
  pure { l1RpcEndpoint, l2ExecutionLayerRpcEndpoint, l2ConsensusLayerRpcEndpoint,
         polygonRollupManager, globalExitRootManagerV2SovereignChain, staticCallCallerAddress,
         evmSketchGenesis }

variable {T}

def serialize (self : AggchainProofContractsConfig T) : Toml :=
  .struct [("l1-rpc-endpoint", some (serializeUrl T.toConfigTexts self.l1RpcEndpoint)),
    ("l2-execution-layer-rpc-endpoint",
      some (serializeUrl T.toConfigTexts self.l2ExecutionLayerRpcEndpoint)),
    ("l2-consensus-layer-rpc-endpoint",
      some (serializeUrl T.toConfigTexts self.l2ConsensusLayerRpcEndpoint)),
    ("polygon-rollup-manager", some (serializeAddress T self.polygonRollupManager)),
    ("global-exit-root-manager-v2-sovereign-chain",
      some (serializeAddress T self.globalExitRootManagerV2SovereignChain)),
    ("static-call-caller-address", some (serializeAddress T self.staticCallCallerAddress)),
    ("evm-sketch-genesis", some (.string self.evmSketchGenesis))]

end AggchainProofContractsConfig

namespace AggchainProofBuilderConfig

def default (env : ConfigEnv) : Option (AggchainProofBuilderConfig T) := do
  let primaryProver ← ProverType.default T.toConfigTexts env.sp1ClusterEndpoint
  let contracts ← AggchainProofContractsConfig.default T
  pure { networkId := 0, primaryProver, fallbackProver := none,
         provingTimeout := defaultAggchainProverTimeout, contracts }

/-- The network and the prover have to be there. -/
def deserialize (env : ConfigEnv) (t : Toml) : Option (AggchainProofBuilderConfig T) := do
  let networkId ← t.readField ["network-id"] 0 deserializeU32 none
  let primaryProver ← t.readField ["primary-prover"] 1
    (ProverType.deserialize T.toConfigTexts env.sp1ClusterEndpoint) none
  let fallbackProver ← t.readField ["fallback-prover"] 2
    (fun t => (ProverType.deserialize T.toConfigTexts env.sp1ClusterEndpoint t).map some)
    (missingOption t)
  let provingTimeout ← t.readField ["proving-timeout"] 3 (deserializeDuration T.toConfigTexts)
    (some defaultAggchainProverTimeout)
  let contracts ← t.readField ["contracts"] 4 (AggchainProofContractsConfig.deserialize T)
    (AggchainProofContractsConfig.default T)
  pure { networkId, primaryProver, fallbackProver, provingTimeout, contracts }

variable {T}

def serialize (self : AggchainProofBuilderConfig T) : Option Toml := do
  let primaryProver ← self.primaryProver.serialize
  let fallbackProver ← Aggchain.ProverConfig.serializeFallback self.fallbackProver
  pure (.struct [("network-id", some (serializeU32 self.networkId)),
    ("primary-prover", some primaryProver), ("fallback-prover", fallbackProver),
    ("proving-timeout", some (serializeDuration T.toConfigTexts self.provingTimeout)),
    ("contracts", some self.contracts.serialize)])

end AggchainProofBuilderConfig

namespace AggchainProofServiceConfig

def default (env : ConfigEnv) : Option (AggchainProofServiceConfig T) := do
  let aggchainProofBuilder ← AggchainProofBuilderConfig.default T env
  let proposerService ← ProposerServiceConfig.default T env
  pure { aggchainProofBuilder, proposerService }

def deserialize (env : ConfigEnv) (t : Toml) : Option (AggchainProofServiceConfig T) := do
  let aggchainProofBuilder ← t.readField ["aggchain-proof-builder"] 0
    (AggchainProofBuilderConfig.deserialize T env) none
  let proposerService ← t.readField ["proposer-service"] 1
    (ProposerServiceConfig.deserialize T env) none
  pure { aggchainProofBuilder, proposerService }

variable {T}

def serialize (self : AggchainProofServiceConfig T) : Option Toml := do
  let aggchainProofBuilder ← self.aggchainProofBuilder.serialize
  let proposerService ← self.proposerService.serialize
  pure (.struct [("aggchain-proof-builder", some aggchainProofBuilder),
    ("proposer-service", some proposerService)])

end AggchainProofServiceConfig

/-! ## The configuration (`aggkit-prover-config`) -/

/-- The Aggkit Prover configuration. -/
structure ProverConfig where
  grpcEndpoint : SocketAddr
  grpc : GrpcConfig
  log : Log
  telemetry : TelemetryConfig
  shutdown : ShutdownConfig
  aggchainProofService : AggchainProofServiceConfig T
  primaryProver : ProverType T.toConfigTexts
  fallbackProver : Option (ProverType T.toConfigTexts)

def defaultSocketAddr : SocketAddr := .v4 ⟨127, 0, 0, 1⟩ 8081

def defaultMetricsApiAddr : SocketAddr := .v4 ⟨0, 0, 0, 0⟩ 3001

def defaultRuntimeShutdownTimeout : Duration := .fromSecs 30

/-- `TelemetryConfig` -/
def deserializeTelemetry (t : Toml) : Option TelemetryConfig := do
  let addr ← t.readField ["prometheus-addr"] 0 deserializeSocketAddr (some defaultMetricsApiAddr)
  pure { addr }

/-- `ShutdownConfig` -/
def deserializeShutdown (t : Toml) : Option ShutdownConfig := do
  let runtimeTimeout ← t.readField ["runtime-timeout"] 0 (deserializeDuration T.toConfigTexts)
    (some defaultRuntimeShutdownTimeout)
  pure { runtimeTimeout }

namespace ProverConfig

def default (env : ConfigEnv) : Option (ProverConfig T) := do
  let aggchainProofService ← AggchainProofServiceConfig.default T env
  let primaryProver ← ProverType.default T.toConfigTexts env.sp1ClusterEndpoint
  pure { grpcEndpoint := defaultSocketAddr, grpc := .default, log := .default
         telemetry := ⟨defaultMetricsApiAddr⟩, shutdown := ⟨defaultRuntimeShutdownTimeout⟩
         aggchainProofService, primaryProver, fallbackProver := none }

def deserialize (env : ConfigEnv) (t : Toml) : Option (ProverConfig T) := do
  let grpcEndpoint ← t.readField ["grpc-endpoint"] 0 deserializeSocketAddr (some defaultSocketAddr)
  let grpc ← t.readField ["grpc"] 1 GrpcConfig.deserialize (some .default)
  let log ← t.readField ["log"] 2 Log.deserialize (some .default)
  let telemetry ← t.readField ["telemetry"] 3 deserializeTelemetry (some ⟨defaultMetricsApiAddr⟩)
  let shutdown ← t.readField ["shutdown"] 4 (deserializeShutdown T)
    (some ⟨defaultRuntimeShutdownTimeout⟩)
  let aggchainProofService ← t.readField ["aggchain-proof-service"] 5
    (AggchainProofServiceConfig.deserialize T env) (AggchainProofServiceConfig.default T env)
  let primaryProver ← t.readField ["primary-prover"] 6
    (ProverType.deserialize T.toConfigTexts env.sp1ClusterEndpoint)
    (ProverType.default T.toConfigTexts env.sp1ClusterEndpoint)
  let fallbackProver ← t.readField ["fallback-prover"] 7
    (fun t => (ProverType.deserialize T.toConfigTexts env.sp1ClusterEndpoint t).map some) (some none)
  pure { grpcEndpoint, grpc, log, telemetry, shutdown, aggchainProofService, primaryProver,
         fallbackProver }

variable {T}

def serialize (self : ProverConfig T) : Option Toml := do
  let grpc ← Toml.skipIf (self.grpc = .default) self.grpc.serialize
  let aggchainProofService ← self.aggchainProofService.serialize
  let primaryProver ← self.primaryProver.serialize
  let fallbackProver ← Aggchain.ProverConfig.serializeFallback self.fallbackProver
  pure (.struct [("grpc-endpoint", some (serializeSocketAddr self.grpcEndpoint)), ("grpc", grpc),
    ("log", some self.log.serialize), ("telemetry", some self.telemetry.serialize),
    ("shutdown", some (self.shutdown.serialize T.toConfigTexts)),
    ("aggchain-proof-service", some aggchainProofService), ("primary-prover", some primaryProver),
    ("fallback-prover", fallbackProver)])

variable (T)

/-- `ProverConfig::try_load`, from the entries of the document in the file. -/
def tryLoad (env : ConfigEnv) (document : List (String × Toml)) : Option (ProverConfig T) :=
  deserialize T env (.table document)

end ProverConfig

end Aggkit

/-! ## What is printed can be read -/

section Reads

open Toml

variable {T : AggkitTexts} {t : Toml}

theorem reads_u32 (n : UInt32) : Reads deserializeU32 (serializeU32 n) n := by
  intro t' hsame
  obtain rfl := same_integer hsame
  have hlt := n.toNat_lt
  have hrange : (0 : ℤ) ≤ (n.toNat : ℤ) ∧ (n.toNat : ℤ) < 4294967296 := by omega
  simp only [deserializeU32, if_pos hrange, Int.toNat_natCast, UInt32.ofNat_toNat]

theorem reads_bool (b : Bool) : Reads deserializeBool (.boolean b) b := by
  intro t' hsame
  cases hsame
  rfl

theorem reads_string (text : String) : Reads deserializeString (.string text) text := by
  intro t' hsame
  obtain rfl := same_string hsame
  rfl

theorem reads_uri (hT : T.PrintParse) (u : T.Uri) :
    Reads (deserializeUri T) (serializeUri T u) u := by
  intro t' hsame
  obtain rfl := same_string hsame
  exact hT.uri u

theorem reads_address (hT : T.PrintParse) (a : Address) :
    Reads (deserializeAddress T) (serializeAddress T a) a := by
  intro t' hsame
  obtain rfl := same_string hsame
  exact hT.address a

/-- The duration is a number of seconds. -/
def Duration.Whole (d : Duration) : Prop := d.nanos = 0

theorem Duration.Whole.eq {d : Duration} (h : d.Whole) : d = .fromSecs d.secs := by
  cases d
  obtain rfl := h
  rfl

theorem Duration.whole_fromSecs (n : UInt64) : (Duration.fromSecs n).Whole := rfl

theorem reads_seconds (hT : T.PrintParse) {d : Duration} (hd : d.Whole)
    (h : serializeSeconds T d = some t) : Reads deserializeSeconds t d := by
  intro t' hsame
  rw [hd.eq, serializeSeconds, hT.seconds] at h
  rw [deserializeSeconds, reads_usize h t' hsame, Option.map_some, ← hd.eq]

/-- The optional prover of the builder. -/
theorem missingOption_of_same {α : Type} {fields : List (String × Option Toml)} {t' : Toml}
    (hsame : (struct fields).Same t') : (missingOption t' : Option (Option α)) = some none := by
  obtain ⟨m, l', rfl, -, -⟩ := same_table hsame
  rfl

namespace Aggkit

theorem ProposerClientConfig.reads (hT : T.PrintParse) (env : ConfigEnv)
    {config : ProposerClientConfig T} (h : config.serialize = some t)
    (hrequest : config.requestTimeout.Whole) (hproving : config.provingTimeout.Whole) :
    Reads (ProposerClientConfig.deserialize T env) t config := by
  simp only [ProposerClientConfig.serialize, bind, Option.bind_eq_some_iff] at h
  obtain ⟨request, hrequest', proving, hproving', hstruct⟩ := h
  obtain rfl := Option.some.inj hstruct
  intro t' hsame
  have hnodup : ["proposer-endpoint", "sp1-cluster-endpoint", "request-timeout",
    "proving-timeout"].Nodup := by decide
  have hendpoint : t'.readField ["proposer-endpoint"] 0 (deserializeUri T)
      (defaultProposerServiceEndpoint T env) = some config.proposerEndpoint :=
    readField_written hsame (.plain hnodup (by simp)) (reads_uri hT config.proposerEndpoint)
  have hcluster : t'.readField ["sp1-cluster-endpoint"] 1 (deserializeUrl T.toConfigTexts)
      (defaultSp1ClusterEndpoint T.toConfigTexts env.sp1ClusterEndpoint) =
        some config.sp1ClusterEndpoint :=
    readField_written hsame (.plain hnodup (by simp)) (reads_url hT.texts config.sp1ClusterEndpoint)
  have hrequest : t'.readField ["request-timeout"] 2 deserializeSeconds
      (some defaultRequestTimeout) = some config.requestTimeout :=
    readField_written hsame (.plain hnodup (by simp)) (reads_seconds hT hrequest hrequest')
  have hproving : t'.readField ["proving-timeout"] 3 deserializeSeconds
      (some defaultProvingTimeout) = some config.provingTimeout :=
    readField_written hsame (.plain hnodup (by simp)) (reads_seconds hT hproving hproving')
  rw [ProposerClientConfig.deserialize, hendpoint, hcluster, hrequest, hproving]
  rfl

theorem ProposerServiceConfig.reads (hT : T.PrintParse) (env : ConfigEnv)
    {config : ProposerServiceConfig T} (h : config.serialize = some t)
    (hrequest : config.client.requestTimeout.Whole) (hproving : config.client.provingTimeout.Whole) :
    Reads (ProposerServiceConfig.deserialize T env) t config := by
  obtain ⟨client, hclient, hstruct⟩ := Option.bind_eq_some_iff.mp h
  obtain rfl := Option.some.inj hstruct
  intro t' hsame
  have hnodup : ["mock", "client", "l1-rpc-endpoint"].Nodup := by decide
  have hmock : t'.readField ["mock"] 0 deserializeBool (some false) = some config.mock :=
    readField_written hsame (.plain hnodup (by simp)) (reads_bool config.mock)
  have hclient : t'.readField ["client"] 1 (ProposerClientConfig.deserialize T env) none =
      some config.client :=
    readField_written hsame (.plain hnodup (by simp))
      (ProposerClientConfig.reads hT env hclient hrequest hproving)
  have hendpoint : t'.readField ["l1-rpc-endpoint"] 2 (deserializeUrl T.toConfigTexts) none =
      some config.l1RpcEndpoint :=
    readField_written hsame (.plain hnodup (by simp)) (reads_url hT.texts config.l1RpcEndpoint)
  rw [ProposerServiceConfig.deserialize, hmock, hclient, hendpoint]
  rfl

theorem AggchainProofContractsConfig.reads (hT : T.PrintParse)
    (config : AggchainProofContractsConfig T) :
    Reads (AggchainProofContractsConfig.deserialize T) config.serialize config := by
  intro t' hsame
  have hnodup : ["l1-rpc-endpoint", "l2-execution-layer-rpc-endpoint",
    "l2-consensus-layer-rpc-endpoint", "polygon-rollup-manager",
    "global-exit-root-manager-v2-sovereign-chain", "static-call-caller-address",
    "evm-sketch-genesis"].Nodup := by decide
  have hl1 : t'.readField ["l1-rpc-endpoint"] 0 (deserializeUrl T.toConfigTexts)
      (defaultL1RpcEndpoint T) = some config.l1RpcEndpoint :=
    readField_written hsame (.plain hnodup (by simp)) (reads_url hT.texts _)
  have hexecution : t'.readField ["l2-execution-layer-rpc-endpoint"] 1
      (deserializeUrl T.toConfigTexts) (defaultL2ExecutionLayerUrl T) =
        some config.l2ExecutionLayerRpcEndpoint :=
    readField_written hsame (.plain hnodup (by simp)) (reads_url hT.texts _)
  have hconsensus : t'.readField ["l2-consensus-layer-rpc-endpoint"] 2
      (deserializeUrl T.toConfigTexts) (defaultL2ConsensusLayerUrl T) =
        some config.l2ConsensusLayerRpcEndpoint :=
    readField_written hsame (.plain hnodup (by simp)) (reads_url hT.texts _)
  have hmanager : t'.readField ["polygon-rollup-manager"] 3 (deserializeAddress T)
      (some defaultPolygonRollupManager) = some config.polygonRollupManager :=
    readField_written hsame (.plain hnodup (by simp)) (reads_address hT _)
  have hger : t'.readField ["global-exit-root-manager-v2-sovereign-chain"] 4 (deserializeAddress T)
      (some defaultGlobalExitRootManagerV2SovereignChain) =
        some config.globalExitRootManagerV2SovereignChain :=
    readField_written hsame (.plain hnodup (by simp)) (reads_address hT _)
  have hcaller : t'.readField ["static-call-caller-address"] 5 (deserializeAddress T)
      (some defaultStaticCallCallerAddress) = some config.staticCallCallerAddress :=
    readField_written hsame (.plain hnodup (by simp)) (reads_address hT _)
  have hgenesis : t'.readField ["evm-sketch-genesis"] 6 deserializeString
      (some defaultEvmSketchGenesis) = some config.evmSketchGenesis :=
    readField_written hsame (.plain hnodup (by simp)) (reads_string _)
  rw [AggchainProofContractsConfig.deserialize, hl1, hexecution, hconsensus, hmanager, hger, hcaller,
    hgenesis]
  rfl

theorem AggchainProofBuilderConfig.reads (hT : T.PrintParse) (env : ConfigEnv)
    {config : AggchainProofBuilderConfig T} (h : config.serialize = some t) :
    Reads (AggchainProofBuilderConfig.deserialize T env) t config := by
  simp only [AggchainProofBuilderConfig.serialize, bind, Option.bind_eq_some_iff] at h
  obtain ⟨primary, hprimary, fallback, hfallback, hstruct⟩ := h
  obtain rfl := Option.some.inj hstruct
  intro t' hsame
  have hnodup : ["network-id", "primary-prover", "fallback-prover", "proving-timeout",
    "contracts"].Nodup := by decide
  have hnetwork : t'.readField ["network-id"] 0 deserializeU32 none = some config.networkId :=
    readField_written hsame (.plain hnodup (by simp)) (reads_u32 config.networkId)
  have hprimary : t'.readField ["primary-prover"] 1
      (ProverType.deserialize T.toConfigTexts env.sp1ClusterEndpoint) none =
        some config.primaryProver :=
    readField_written hsame (.plain hnodup (by simp)) (ProverType.reads hT.texts _ hprimary)
  have hfallback : t'.readField ["fallback-prover"] 2
      (fun t => (ProverType.deserialize T.toConfigTexts env.sp1ClusterEndpoint t).map some)
      (some none) = some config.fallbackProver :=
    ProverConfig.readField_fallback hT.texts _ hfallback hsame hnodup (by simp)
  have htimeout : t'.readField ["proving-timeout"] 3 (deserializeDuration T.toConfigTexts)
      (some defaultAggchainProverTimeout) = some config.provingTimeout :=
    readField_written hsame (.plain hnodup (by simp)) (reads_duration hT.texts _)
  have hcontracts : t'.readField ["contracts"] 4 (AggchainProofContractsConfig.deserialize T)
      (AggchainProofContractsConfig.default T) = some config.contracts :=
    readField_written hsame (.plain hnodup (by simp)) (config.contracts.reads hT)
  rw [AggchainProofBuilderConfig.deserialize, missingOption_of_same hsame, hnetwork, hprimary,
    hfallback, htimeout, hcontracts]
  rfl

theorem AggchainProofServiceConfig.reads (hT : T.PrintParse) (env : ConfigEnv)
    {config : AggchainProofServiceConfig T} (h : config.serialize = some t)
    (hrequest : config.proposerService.client.requestTimeout.Whole)
    (hproving : config.proposerService.client.provingTimeout.Whole) :
    Reads (AggchainProofServiceConfig.deserialize T env) t config := by
  simp only [AggchainProofServiceConfig.serialize, bind, Option.bind_eq_some_iff] at h
  obtain ⟨builder, hbuilder, proposer, hproposer, hstruct⟩ := h
  obtain rfl := Option.some.inj hstruct
  intro t' hsame
  have hnodup : ["aggchain-proof-builder", "proposer-service"].Nodup := by decide
  have hbuilder : t'.readField ["aggchain-proof-builder"] 0
      (AggchainProofBuilderConfig.deserialize T env) none = some config.aggchainProofBuilder :=
    readField_written hsame (.plain hnodup (by simp))
      (AggchainProofBuilderConfig.reads hT env hbuilder)
  have hproposer : t'.readField ["proposer-service"] 1 (ProposerServiceConfig.deserialize T env)
      none = some config.proposerService :=
    readField_written hsame (.plain hnodup (by simp))
      (ProposerServiceConfig.reads hT env hproposer hrequest hproving)
  rw [AggchainProofServiceConfig.deserialize, hbuilder, hproposer]
  rfl

theorem reads_telemetry (config : TelemetryConfig) :
    Reads deserializeTelemetry config.serialize config := by
  intro t' hsame
  have haddr : t'.readField ["prometheus-addr"] 0 deserializeSocketAddr
      (some defaultMetricsApiAddr) = some config.addr :=
    readField_written hsame (.plain (by simp) (List.mem_singleton_self _))
      (reads_socketAddr config.addr)
  rw [deserializeTelemetry, haddr]
  rfl

theorem reads_shutdown (hT : T.PrintParse) (config : ShutdownConfig) :
    Reads (deserializeShutdown T) (config.serialize T.toConfigTexts) config := by
  intro t' hsame
  have htimeout : t'.readField ["runtime-timeout"] 0 (deserializeDuration T.toConfigTexts)
      (some defaultRuntimeShutdownTimeout) = some config.runtimeTimeout :=
    readField_written hsame (.plain (by simp) (List.mem_singleton_self _))
      (reads_duration hT.texts config.runtimeTimeout)
  rw [deserializeShutdown, htimeout]
  rfl

namespace ProverConfig

/-- What a printed configuration is made of. -/
theorem serialize_eq_some {config : ProverConfig T} (h : config.serialize = some t) :
    ∃ grpc service primary fallback,
      skipIf (config.grpc = .default) config.grpc.serialize = some grpc ∧
      config.aggchainProofService.serialize = some service ∧
      config.primaryProver.serialize = some primary ∧
      Aggchain.ProverConfig.serializeFallback config.fallbackProver = some fallback ∧
      t = .struct [("grpc-endpoint", some (serializeSocketAddr config.grpcEndpoint)),
        ("grpc", grpc), ("log", some config.log.serialize),
        ("telemetry", some config.telemetry.serialize),
        ("shutdown", some (config.shutdown.serialize T.toConfigTexts)),
        ("aggchain-proof-service", some service), ("primary-prover", some primary),
        ("fallback-prover", fallback)] := by
  obtain ⟨grpc, hgrpc, h⟩ := Option.bind_eq_some_iff.mp h
  obtain ⟨service, hservice, h⟩ := Option.bind_eq_some_iff.mp h
  obtain ⟨primary, hprimary, h⟩ := Option.bind_eq_some_iff.mp h
  obtain ⟨fallback, hfallback, h⟩ := Option.bind_eq_some_iff.mp h
  exact ⟨grpc, service, primary, fallback, hgrpc, hservice, hprimary, hfallback,
    (Option.some.inj h).symm⟩

theorem nodup_keys : ["grpc-endpoint", "grpc", "log", "telemetry", "shutdown",
    "aggchain-proof-service", "primary-prover", "fallback-prover"].Nodup := by decide

theorem reads (hT : T.PrintParse) (env : ConfigEnv) {config : ProverConfig T}
    (h : config.serialize = some t) (hlog : config.log.outputs = [])
    (hrequest : config.aggchainProofService.proposerService.client.requestTimeout.Whole)
    (hproving : config.aggchainProofService.proposerService.client.provingTimeout.Whole) :
    Reads (deserialize T env) t config := by
  obtain ⟨grpc, service, primary, fallback, hgrpc, hservice, hprimary, hfallback, rfl⟩ :=
    serialize_eq_some h
  intro t' hsame
  have hendpoint : t'.readField ["grpc-endpoint"] 0 deserializeSocketAddr
      (some defaultSocketAddr) = some config.grpcEndpoint :=
    readField_written hsame (.plain nodup_keys (by simp)) (reads_socketAddr config.grpcEndpoint)
  have hgrpc : t'.readField ["grpc"] 1 GrpcConfig.deserialize (some .default) = some config.grpc :=
    readField_skipIf hgrpc hsame (.plain nodup_keys (by simp)) (fun h => congrArg some h.symm)
      (fun w hw => GrpcConfig.reads hw)
  have hlog : t'.readField ["log"] 2 Log.deserialize (some .default) = some config.log :=
    readField_written hsame (.plain nodup_keys (by simp)) (Log.reads hlog)
  have htelemetry : t'.readField ["telemetry"] 3 deserializeTelemetry
      (some ⟨defaultMetricsApiAddr⟩) = some config.telemetry :=
    readField_written hsame (.plain nodup_keys (by simp)) (reads_telemetry config.telemetry)
  have hshutdown : t'.readField ["shutdown"] 4 (deserializeShutdown T)
      (some ⟨defaultRuntimeShutdownTimeout⟩) = some config.shutdown :=
    readField_written hsame (.plain nodup_keys (by simp)) (reads_shutdown hT config.shutdown)
  have hservice : t'.readField ["aggchain-proof-service"] 5
      (AggchainProofServiceConfig.deserialize T env) (AggchainProofServiceConfig.default T env) =
        some config.aggchainProofService :=
    readField_written hsame (.plain nodup_keys (by simp))
      (AggchainProofServiceConfig.reads hT env hservice hrequest hproving)
  have hprimary : t'.readField ["primary-prover"] 6
      (ProverType.deserialize T.toConfigTexts env.sp1ClusterEndpoint)
      (ProverType.default T.toConfigTexts env.sp1ClusterEndpoint) = some config.primaryProver :=
    readField_written hsame (.plain nodup_keys (by simp)) (ProverType.reads hT.texts _ hprimary)
  have hfallback : t'.readField ["fallback-prover"] 7
      (fun t => (ProverType.deserialize T.toConfigTexts env.sp1ClusterEndpoint t).map some)
      (some none) = some config.fallbackProver :=
    ProverConfig.readField_fallback hT.texts _ hfallback hsame nodup_keys (by simp)
  rw [deserialize, hendpoint, hgrpc, hlog, htelemetry, hshutdown, hservice, hprimary, hfallback]
  rfl

end ProverConfig

end Aggkit

end Reads

/-! ## What is read has whole seconds -/

section Whole

open Toml

variable {T : AggkitTexts} {env : ConfigEnv} {t : Toml}

theorem whole_of_readField {names : List String} {position : ℕ} {default d : Duration}
    (hdefault : default.Whole)
    (h : t.readField names position deserializeSeconds (some default) = some d) : d.Whole := by
  rcases readField_cases h with ⟨-, hd⟩ | ⟨v, -, hd⟩
  · obtain rfl := Option.some.inj hd
    exact hdefault
  · obtain ⟨n, -, rfl⟩ := Option.map_eq_some_iff.mp hd
    exact Duration.whole_fromSecs n

namespace Aggkit

/-- The timeouts of the proposer client are whole seconds. -/
def ProposerClientConfig.Whole (config : ProposerClientConfig T) : Prop :=
  config.requestTimeout.Whole ∧ config.provingTimeout.Whole

theorem ProposerClientConfig.whole_default {config : ProposerClientConfig T}
    (h : ProposerClientConfig.default T env = some config) : config.Whole := by
  simp only [ProposerClientConfig.default, bind, Option.bind_eq_some_iff] at h
  obtain ⟨_, -, _, -, h⟩ := h
  obtain rfl := Option.some.inj h
  exact ⟨Duration.whole_fromSecs _, Duration.whole_fromSecs _⟩

theorem ProposerClientConfig.whole_of_deserialize {config : ProposerClientConfig T}
    (h : ProposerClientConfig.deserialize T env t = some config) : config.Whole := by
  simp only [ProposerClientConfig.deserialize, bind, Option.bind_eq_some_iff] at h
  obtain ⟨_, -, _, -, request, hrequest, proving, hproving, h⟩ := h
  obtain rfl := Option.some.inj h
  exact ⟨whole_of_readField (Duration.whole_fromSecs _) hrequest,
    whole_of_readField (Duration.whole_fromSecs _) hproving⟩

theorem ProposerServiceConfig.whole_of_deserialize {config : ProposerServiceConfig T}
    (h : ProposerServiceConfig.deserialize T env t = some config) : config.client.Whole := by
  simp only [ProposerServiceConfig.deserialize, bind, Option.bind_eq_some_iff] at h
  obtain ⟨_, -, client, hclient, _, -, h⟩ := h
  obtain rfl := Option.some.inj h
  rcases readField_cases hclient with ⟨-, hnone⟩ | ⟨v, -, hclient⟩
  · cases hnone
  · exact ProposerClientConfig.whole_of_deserialize hclient

theorem AggchainProofServiceConfig.whole_default {config : AggchainProofServiceConfig T}
    (h : AggchainProofServiceConfig.default T env = some config) :
    config.proposerService.client.Whole := by
  simp only [AggchainProofServiceConfig.default, ProposerServiceConfig.default, bind,
    Option.bind_eq_some_iff] at h
  obtain ⟨_, -, proposer, ⟨client, hclient, _, -, hproposer⟩, h⟩ := h
  obtain rfl := Option.some.inj hproposer
  obtain rfl := Option.some.inj h
  exact ProposerClientConfig.whole_default hclient

theorem AggchainProofServiceConfig.whole_of_deserialize {config : AggchainProofServiceConfig T}
    (h : AggchainProofServiceConfig.deserialize T env t = some config) :
    config.proposerService.client.Whole := by
  simp only [AggchainProofServiceConfig.deserialize, bind, Option.bind_eq_some_iff] at h
  obtain ⟨_, -, proposer, hproposer, h⟩ := h
  obtain rfl := Option.some.inj h
  rcases readField_cases hproposer with ⟨-, hnone⟩ | ⟨v, -, hproposer⟩
  · cases hnone
  · exact ProposerServiceConfig.whole_of_deserialize hproposer

namespace ProverConfig

/-- The fields that matter for the way back. -/
theorem readField_of_deserialize {config : ProverConfig T} (h : deserialize T env t = some config) :
    t.readField ["log"] 2 Log.deserialize (some .default) = some config.log ∧
      t.readField ["aggchain-proof-service"] 5 (AggchainProofServiceConfig.deserialize T env)
        (AggchainProofServiceConfig.default T env) = some config.aggchainProofService := by
  simp only [deserialize, bind, Option.bind_eq_some_iff] at h
  obtain ⟨_, -, _, -, log, hlog, _, -, _, -, service, hservice, _, -, _, -, h⟩ := h
  obtain rfl := Option.some.inj h
  exact ⟨hlog, hservice⟩

theorem whole_of_deserialize {config : ProverConfig T} (h : deserialize T env t = some config) :
    config.aggchainProofService.proposerService.client.Whole := by
  rcases readField_cases (readField_of_deserialize h).2 with ⟨-, hdefault⟩ | ⟨v, -, hservice⟩
  · exact AggchainProofServiceConfig.whole_default hdefault
  · exact AggchainProofServiceConfig.whole_of_deserialize hservice

end ProverConfig

end Aggkit

end Whole

/-! ## What can be printed -/

section Numbers

open Toml

variable {T : AggkitTexts}

/-- The limit of a local prover is a number of TOML. -/
def ProverType.LimitFits {T : ConfigTexts} : ProverType T → Prop
  | .networkProver _ => True
  | .cpuProver config => Fits config.maxConcurrencyLimit
  | .mockProver config => Fits config.maxConcurrencyLimit

theorem exists_map_eq_some {α β : Type} {x : Option α} {f : α → β} :
    (∃ b, x.map f = some b) ↔ ∃ a, x = some a := by
  simp only [Option.map_eq_some_iff]
  constructor
  · rintro ⟨_, a, h, -⟩
    exact ⟨a, h⟩
  · rintro ⟨a, h⟩
    exact ⟨_, a, h, rfl⟩

theorem LocalProverConfig.exists_serialize_iff {T : ConfigTexts} {config : LocalProverConfig} :
    (∃ t, config.serialize T = some t) ↔ Fits config.maxConcurrencyLimit := by
  constructor
  · rintro ⟨t, h⟩
    obtain ⟨limit, hlimit, -⟩ := Option.bind_eq_some_iff.mp h
    exact ⟨limit, hlimit⟩
  · rintro ⟨limit, hlimit⟩
    exact ⟨_, by rw [LocalProverConfig.serialize, hlimit]; rfl⟩

theorem ProverType.exists_serialize_iff {T : ConfigTexts} {prover : ProverType T} :
    (∃ t, prover.serialize = some t) ↔ prover.LimitFits := by
  cases prover with
  | networkProver config => exact ⟨fun _ => trivial, fun _ => ⟨_, rfl⟩⟩
  | cpuProver config =>
    rw [LimitFits, ← LocalProverConfig.exists_serialize_iff (T := T), ProverType.serialize]
    exact exists_map_eq_some
  | mockProver config =>
    rw [LimitFits, ← LocalProverConfig.exists_serialize_iff (T := T), ProverType.serialize]
    exact exists_map_eq_some

theorem exists_serializeFallback_iff {T : ConfigTexts} {prover : Option (ProverType T)} :
    (∃ t, ProverConfig.serializeFallback prover = some t) ↔ ∀ p ∈ prover, p.LimitFits := by
  cases prover with
  | none => exact ⟨fun _ _ h => (Option.not_mem_none _ h).elim, fun _ => ⟨none, rfl⟩⟩
  | some prover =>
    simp only [ProverConfig.serializeFallback, Option.mem_some_iff, forall_eq',
      ← ProverType.exists_serialize_iff]
    exact exists_map_eq_some

/-- A message size that is skipped or is a number of TOML. -/
def SizeFits (size : UInt64) : Prop := size = defaultMaxMessageSize ∨ Fits size

theorem GrpcConfig.exists_serializeSize_iff {size : UInt64} :
    (∃ v, GrpcConfig.serializeSize size = some v) ↔ SizeFits size := by
  unfold GrpcConfig.serializeSize skipIf SizeFits Fits
  by_cases hsize : size = defaultMaxMessageSize
  · simp [hsize]
  · simp [hsize, Option.map_eq_some_iff]

theorem GrpcConfig.exists_serialize_iff {config : GrpcConfig} :
    (∃ v, skipIf (config = .default) config.serialize = some v) ↔
      SizeFits config.maxDecodingMessageSize ∧ SizeFits config.maxEncodingMessageSize := by
  have hserialize : (∃ t, config.serialize = some t) ↔
      SizeFits config.maxDecodingMessageSize ∧ SizeFits config.maxEncodingMessageSize := by
    simp only [← exists_serializeSize_iff, GrpcConfig.serialize, bind, Option.bind_eq_some_iff]
    constructor
    · rintro ⟨t, decoding, hdecoding, encoding, hencoding, -⟩
      exact ⟨⟨decoding, hdecoding⟩, ⟨encoding, hencoding⟩⟩
    · rintro ⟨⟨decoding, hdecoding⟩, ⟨encoding, hencoding⟩⟩
      exact ⟨_, decoding, hdecoding, encoding, hencoding, rfl⟩
  rw [← hserialize]
  by_cases hdefault : config = .default
  · subst hdefault
    refine ⟨fun _ => hserialize.mpr ⟨Or.inl rfl, Or.inl rfl⟩, fun _ => ⟨none, if_pos rfl⟩⟩
  · rw [skipIf, if_neg hdefault]
    exact exists_map_eq_some

namespace Aggkit

theorem exists_serializeSeconds_iff (hT : T.PrintParse) {d : Duration} (hd : d.Whole) :
    (∃ t, serializeSeconds T d = some t) ↔ Fits d.secs := by
  rw [hd.eq, serializeSeconds, hT.seconds]
  exact Iff.rfl

/-- The configuration can be printed and read: what has to hold of its values. -/
structure ProverConfig.Printable (config : ProverConfig T) : Prop where
  outputs : config.log.outputs = []
  whole : config.aggchainProofService.proposerService.client.Whole
  requestTimeout : Fits config.aggchainProofService.proposerService.client.requestTimeout.secs
  provingTimeout : Fits config.aggchainProofService.proposerService.client.provingTimeout.secs
  decodingSize : SizeFits config.grpc.maxDecodingMessageSize
  encodingSize : SizeFits config.grpc.maxEncodingMessageSize
  primaryProver : config.primaryProver.LimitFits
  fallbackProver : ∀ p ∈ config.fallbackProver, p.LimitFits
  builderPrimaryProver : config.aggchainProofService.aggchainProofBuilder.primaryProver.LimitFits
  builderFallbackProver :
    ∀ p ∈ config.aggchainProofService.aggchainProofBuilder.fallbackProver, p.LimitFits

theorem AggchainProofServiceConfig.exists_serialize_iff (hT : T.PrintParse)
    {config : AggchainProofServiceConfig T} (hwhole : config.proposerService.client.Whole) :
    (∃ t, config.serialize = some t) ↔
      (config.aggchainProofBuilder.primaryProver.LimitFits ∧
        ∀ p ∈ config.aggchainProofBuilder.fallbackProver, p.LimitFits) ∧
      Fits config.proposerService.client.requestTimeout.secs ∧
        Fits config.proposerService.client.provingTimeout.secs := by
  rw [← exists_serializeSeconds_iff hT hwhole.1, ← exists_serializeSeconds_iff hT hwhole.2,
    ← ProverType.exists_serialize_iff, ← exists_serializeFallback_iff]
  simp only [AggchainProofServiceConfig.serialize, AggchainProofBuilderConfig.serialize,
    ProposerServiceConfig.serialize, ProposerClientConfig.serialize, bind, Option.bind_eq_some_iff]
  constructor
  · rintro ⟨-, -, ⟨primary, hprimary, fallback, hfallback, -⟩, -, ⟨-, ⟨request, hrequest, proving,
      hproving, -⟩, -⟩, -⟩
    exact ⟨⟨⟨primary, hprimary⟩, ⟨fallback, hfallback⟩⟩, ⟨request, hrequest⟩, ⟨proving, hproving⟩⟩
  · rintro ⟨⟨⟨primary, hprimary⟩, ⟨fallback, hfallback⟩⟩, ⟨request, hrequest⟩, ⟨proving, hproving⟩⟩
    exact ⟨_, _, ⟨primary, hprimary, fallback, hfallback, rfl⟩, _,
      ⟨_, ⟨request, hrequest, proving, hproving, rfl⟩, rfl⟩, rfl⟩

namespace ProverConfig

theorem exists_serialize_iff (hT : T.PrintParse) {config : ProverConfig T}
    (hlog : config.log.outputs = [])
    (hwhole : config.aggchainProofService.proposerService.client.Whole) :
    (∃ t, config.serialize = some t) ↔ config.Printable := by
  constructor
  · rintro ⟨t, h⟩
    obtain ⟨grpc, service, primary, fallback, hgrpc, hservice, hprimary, hfallback, -⟩ :=
      serialize_eq_some h
    obtain ⟨hdecoding, hencoding⟩ := GrpcConfig.exists_serialize_iff.mp ⟨grpc, hgrpc⟩
    obtain ⟨⟨hbuilder, hbuilder'⟩, hrequest, hproving⟩ :=
      (AggchainProofServiceConfig.exists_serialize_iff hT hwhole).mp ⟨service, hservice⟩
    exact ⟨hlog, hwhole, hrequest, hproving, hdecoding, hencoding,
      ProverType.exists_serialize_iff.mp ⟨primary, hprimary⟩,
      exists_serializeFallback_iff.mp ⟨fallback, hfallback⟩, hbuilder, hbuilder'⟩
  · intro h
    obtain ⟨grpc, hgrpc⟩ := GrpcConfig.exists_serialize_iff.mpr ⟨h.decodingSize, h.encodingSize⟩
    obtain ⟨service, hservice⟩ := (AggchainProofServiceConfig.exists_serialize_iff hT hwhole).mpr
      ⟨⟨h.builderPrimaryProver, h.builderFallbackProver⟩, h.requestTimeout, h.provingTimeout⟩
    obtain ⟨primary, hprimary⟩ := ProverType.exists_serialize_iff.mpr h.primaryProver
    obtain ⟨fallback, hfallback⟩ := exists_serializeFallback_iff.mpr h.fallbackProver
    exact ⟨_, by rw [serialize, hgrpc, hservice, hprimary, hfallback]; rfl⟩

/-! ## The round trip -/

/-- The printed configuration, with its keys in any order, loads back as the same one. -/
def LoadsBack (env : ConfigEnv) (config : ProverConfig T) : Prop :=
  ∃ printed, config.serialize = some (.table printed) ∧ ∀ document,
    (Toml.table printed).Same (.table document) → tryLoad T env document = some config

theorem eq_nil_of_loadsBack {env : ConfigEnv} {config : ProverConfig T}
    (h : config.LoadsBack env) : config.log.outputs = [] := by
  obtain ⟨printed, hprinted, hloads⟩ := h
  have hlog := (readField_of_deserialize (hloads printed (.refl _))).1
  obtain ⟨grpc, service, primary, fallback, -, -, -, -, hstruct⟩ := serialize_eq_some hprinted
  rw [hstruct] at hlog
  have hread : ∃ log, config.log.serialize.Same log ∧ Log.deserialize log = some config.log := by
    refine decode_of_readField (.refl _) (.plain ?_ ?_) hlog
    · exact nodup_keys
    · simp
  obtain ⟨log, hsame, hlog⟩ := hread
  exact Log.eq_nil_of_reads hsame hlog

/-- What the `config` command prints. -/
theorem printable_default {env : ConfigEnv} {config : ProverConfig T}
    (h : default T env = some config) : config.Printable := by
  simp only [default, AggchainProofServiceConfig.default, AggchainProofBuilderConfig.default,
    ProposerServiceConfig.default, ProposerClientConfig.default, bind, Option.bind_eq_some_iff] at h
  obtain ⟨service, ⟨builder, ⟨prover, hprover, contracts, -, hbuilder⟩, proposer, ⟨client,
    ⟨uri, -, url, -, hclient⟩, l1, -, hproposer⟩, hservice⟩, primary, hprimary, h⟩ := h
  obtain rfl := Option.some.inj hbuilder
  obtain rfl := Option.some.inj hclient
  obtain rfl := Option.some.inj hproposer
  obtain rfl := Option.some.inj hservice
  obtain rfl := Option.some.inj h
  have hrequest : Fits defaultRequestTimeout.secs := fits_iff.mpr (by decide)
  have hproving : Fits defaultProvingTimeout.secs := fits_iff.mpr (by decide)
  exact {
    outputs := rfl
    whole := ⟨Duration.whole_fromSecs _, Duration.whole_fromSecs _⟩
    requestTimeout := hrequest
    provingTimeout := hproving
    decodingSize := Or.inl rfl
    encodingSize := Or.inl rfl
    primaryProver := ProverType.exists_serialize_iff.mp (ProverType.serialize_default hprimary)
    fallbackProver := fun _ h => (Option.not_mem_none _ h).elim
    builderPrimaryProver :=
      ProverType.exists_serialize_iff.mp (ProverType.serialize_default hprover)
    builderFallbackProver := fun _ h => (Option.not_mem_none _ h).elim }

/-- **Round trip of a configuration.**  Of all configurations, the ones that load back after printing
are exactly the printable ones, whatever the environment is when they are loaded; the default one is
printable. -/
theorem loadsBack_iff_printable (hT : T.PrintParse) (env : ConfigEnv) :
    (∀ config : ProverConfig T, config.LoadsBack env ↔ config.Printable) ∧
    ∀ env' (config : ProverConfig T), default T env' = some config → config.LoadsBack env := by
  have hiff : ∀ config : ProverConfig T, config.LoadsBack env ↔ config.Printable := by
    intro config
    constructor
    · intro h
      have hlog := eq_nil_of_loadsBack h
      obtain ⟨printed, hprinted, hloads⟩ := h
      have hwhole := whole_of_deserialize (hloads printed (.refl _))
      exact (exists_serialize_iff hT hlog hwhole).mp ⟨_, hprinted⟩
    · intro h
      obtain ⟨t, ht⟩ := (exists_serialize_iff hT h.outputs h.whole).mpr h
      obtain ⟨grpc, service, primary, fallback, -, -, -, -, rfl⟩ := serialize_eq_some ht
      exact ⟨_, ht, fun document hsame =>
        reads hT env ht h.outputs h.whole.1 h.whole.2 (.table document) hsame⟩
  refine ⟨hiff, ?_⟩
  intro env' config h
  exact (hiff config).mpr (printable_default h)

end ProverConfig

end Aggkit

end Numbers

namespace Sample

/-- The texts of before, and addresses in hexadecimal. -/
def aggkitTexts : AggkitTexts where
  toConfigTexts := configTexts
  Uri := UrlText
  parseUri := parseUrlText
  uriToString := Subtype.val
  parseAddress text := (Hex.decode (Hex.stripPrefix text.toList)).bind (fun bytes =>
    if h : bytes.length = 20 then some ⟨bytes, h⟩ else none)
  addressToString a := String.ofList ('0' :: 'x' :: Hex.encode a.val)
  toSeconds d := d.secs

theorem printParse_aggkitTexts : aggkitTexts.PrintParse where
  texts := printParse_configTexts
  uri := parseUrlText_val
  address a := by
    simp only [aggkitTexts, String.toList_ofList, Hex.stripPrefix, Hex.decode_encode,
      Option.bind_some]
    exact dif_pos a.2
  seconds _ := rfl

def configEnv : ConfigEnv := ⟨none, none⟩

/-- The default configuration, with log outputs. -/
def loggedConfig (config : Aggkit.ProverConfig aggkitTexts) : Aggkit.ProverConfig aggkitTexts :=
  { config with log := ⟨.info, [.stdout], .pretty⟩ }

end Sample

open Sample

/-- The default configuration loads back, and one with log outputs does not. -/
theorem loadsBack_iff_printable_default : ∃ config : Aggkit.ProverConfig aggkitTexts,
    Aggkit.ProverConfig.default aggkitTexts configEnv = some config ∧
    config.LoadsBack configEnv ∧ ¬ (loggedConfig config).LoadsBack configEnv := by
  have hdefault : ∃ config, Aggkit.ProverConfig.default aggkitTexts configEnv = some config :=
    ⟨_, rfl⟩
  obtain ⟨config, hdefault⟩ := hdefault
  obtain ⟨hiff, hloads⟩ :=
    Aggkit.ProverConfig.loadsBack_iff_printable printParse_aggkitTexts configEnv
  refine ⟨config, hdefault, hloads configEnv config hdefault, ?_⟩
  rw [hiff]
  intro hprintable
  cases hprintable.outputs

end Aggchain
