import Aggchain.Lib.SocketAddr
import Aggchain.Lib.Toml

/-!
# Aggchain.Host.Config — `agglayer-prover-config`: loading and printing a configuration

A configuration is loaded from a TOML document, with a default for everything that is missing, and
printed as a TOML document by the `validate-config` command.  The implementations that serde derives
are written out: `deserialize` and `serialize` of each type stand next to each other.
-/

namespace Aggchain

open Net (SocketAddr)

/-! ## Texts -/

/-- `std::time::Duration` -/
structure Duration where
  secs : UInt64
  nanos : UInt32
  nanos_lt : nanos.toNat < 1000000000
  deriving DecidableEq

/-- `Duration::from_secs` -/
def Duration.fromSecs (secs : UInt64) : Duration := ⟨secs, 0, by decide⟩

/-- The values that are printed and parsed by `url` and `humantime`. -/
structure ConfigTexts where
  Url : Type
  parseUrl : String → Option Url
  urlAsStr : Url → String
  parseDuration : String → Option Duration
  formatDuration : Duration → String

/-- Printing is undone by parsing. -/
structure ConfigTexts.PrintParse (T : ConfigTexts) : Prop where
  url : ∀ u, T.parseUrl (T.urlAsStr u) = some u
  duration : ∀ d, T.parseDuration (T.formatDuration d) = some d

/-! ## Values -/

section Values

variable (T : ConfigTexts)

/-- A `usize`, from an `i64`. -/
def deserializeUsize : Toml → Option UInt64
  | .integer value => if 0 ≤ value.val then some (UInt64.ofNat value.val.toNat) else none
  | _ => none

/-- TOML has no integers beyond `i64`. -/
def serializeUsize (value : UInt64) : Option Toml :=
  if h : value.toNat < 9223372036854775808 then
    some (.integer ⟨value.toNat, by omega, by omega⟩)
  else none

/-- `HumanDuration`: a number of seconds or a text. -/
def deserializeDuration : Toml → Option Duration
  | .integer value =>
    if 0 ≤ value.val then some (Duration.fromSecs (UInt64.ofNat value.val.toNat)) else none
  | .string text => T.parseDuration text
  | _ => none

/-- `HumanDuration` is always printed as a text. -/
def serializeDuration (value : Duration) : Toml := .string (T.formatDuration value)

def deserializeSocketAddr : Toml → Option SocketAddr
  | .string text => SocketAddr.parse text
  | _ => none

def serializeSocketAddr (value : SocketAddr) : Toml := .string value.display

def deserializeUrl : Toml → Option T.Url
  | .string text => T.parseUrl text
  | _ => none

def serializeUrl (value : T.Url) : Toml := .string (T.urlAsStr value)

end Values

/-! ## Log (`prover-logger`) -/

inductive LogLevel where
  | trace
  | debug
  | info
  | warn
  | error
  | fatal
  deriving DecidableEq

inductive LogFormat where
  | pretty
  | json
  deriving DecidableEq

/-- This can be either `stdout`, `stderr`, or a file path. -/
inductive LogOutput where
  | stdout
  | stderr
  | file (path : String)
  deriving DecidableEq

structure Log where
  level : LogLevel
  outputs : List LogOutput
  format : LogFormat
  deriving DecidableEq

/-- `Default` -/
def Log.default : Log := ⟨.info, [], .pretty⟩

namespace LogLevel

/-- The name of the variant, in lower case. -/
def name : LogLevel → String
  | .trace => "trace"
  | .debug => "debug"
  | .info => "info"
  | .warn => "warn"
  | .error => "error"
  | .fatal => "fatal"

def ofName : String → Option LogLevel
  | "trace" => some .trace
  | "debug" => some .debug
  | "info" => some .info
  | "warn" => some .warn
  | "error" => some .error
  | "fatal" => some .fatal
  | _ => none

def deserialize (t : Toml) : Option LogLevel := t.unitVariant.bind ofName

def serialize (self : LogLevel) : Toml := .string self.name

end LogLevel

namespace LogFormat

/-- The name of the variant, in lower case. -/
def name : LogFormat → String
  | .pretty => "pretty"
  | .json => "json"

def ofName : String → Option LogFormat
  | "pretty" => some .pretty
  | "json" => some .json
  | _ => none

def deserialize (t : Toml) : Option LogFormat := t.unitVariant.bind ofName

def serialize (self : LogFormat) : Toml := .string self.name

end LogFormat

namespace LogOutput

/-- Written by hand: a string that is neither `stdout` nor `stderr` is a path. -/
def deserialize : Toml → Option LogOutput
  | .string "stdout" => some .stdout
  | .string "stderr" => some .stderr
  | .string path => some (.file path)
  | _ => none

/-- Derived, without renaming: the variants keep their names and a path is tagged. -/
def serialize : LogOutput → Toml
  | .stdout => .string "Stdout"
  | .stderr => .string "Stderr"
  | .file path => .table [("File", .string path)]

/-- `Vec<LogOutput>` -/
def deserializeAll : Toml → Option (List LogOutput)
  | .array items => items.mapM deserialize
  | _ => none

end LogOutput

namespace Log

def deserialize (t : Toml) : Option Log := do
  let level ← t.readField ["level"] 0 LogLevel.deserialize (some .info)
  let outputs ← t.readField ["outputs"] 1 LogOutput.deserializeAll (some [])
  let format ← t.readField ["format"] 2 LogFormat.deserialize (some .pretty)
  pure { level, outputs, format }

def serialize (self : Log) : Toml :=
  .struct [("level", some self.level.serialize),
    ("outputs", some (.array (self.outputs.map LogOutput.serialize))),
    ("format", some self.format.serialize)]

end Log

/-! ## Provers (`prover-config`) -/

section Provers

variable (T : ConfigTexts)

/-- `CpuProverConfig` and `MockProverConfig` -/
structure LocalProverConfig where
  maxConcurrencyLimit : UInt64
  provingRequestTimeout : Option Duration
  provingTimeout : Duration
  deriving DecidableEq

structure NetworkProverConfig where
  provingRequestTimeout : Option Duration
  provingTimeout : Duration
  /-- The sp1 proving cluster endpoint. -/
  sp1ClusterEndpoint : T.Url

/-- Type of the prover to be used for generation of the pessimistic proof. -/
inductive ProverType where
  | networkProver (config : NetworkProverConfig T)
  | cpuProver (config : LocalProverConfig)
  | mockProver (config : LocalProverConfig)

def defaultMaxConcurrencyLimit : UInt64 := 100

/-- `default_local_proving_timeout` and `default_network_proving_timeout` -/
def defaultProvingTimeout : Duration := .fromSecs (60 * 5)

/-- The variable `SP1_CLUSTER_ENDPOINT` of the environment, if it is set and parses; the `unwrap` of
the built-in one comes first. -/
def defaultSp1ClusterEndpoint (env : Option String) : Option T.Url := do
  let builtin ← T.parseUrl "https://rpc.production.succinct.xyz/"
  pure ((env.bind T.parseUrl).getD builtin)

/-- `Option<HumanDuration>` -/
def deserializeTimeout (t : Toml) : Option (Option Duration) := (deserializeDuration T t).map some

def LocalProverConfig.deserialize (t : Toml) : Option LocalProverConfig := do
  let maxConcurrencyLimit ← t.readField ["max-concurrency-limit"] 0 deserializeUsize
    (some defaultMaxConcurrencyLimit)
  let provingRequestTimeout ← t.readField ["proving-request-timeout"] 1 (deserializeTimeout T)
    (some none)
  let provingTimeout ← t.readField ["proving-timeout"] 2 (deserializeDuration T)
    (some defaultProvingTimeout)
  pure { maxConcurrencyLimit, provingRequestTimeout, provingTimeout }

def LocalProverConfig.serialize (self : LocalProverConfig) : Option Toml := do
  let maxConcurrencyLimit ← serializeUsize self.maxConcurrencyLimit
  pure (.struct [("max-concurrency-limit", some maxConcurrencyLimit),
    -- there is no `None` in TOML
    ("proving-request-timeout", self.provingRequestTimeout.map (serializeDuration T)),
    ("proving-timeout", some (serializeDuration T self.provingTimeout))])

def NetworkProverConfig.default (env : Option String) : Option (NetworkProverConfig T) := do
  let sp1ClusterEndpoint ← defaultSp1ClusterEndpoint T env
  pure { provingRequestTimeout := none, provingTimeout := defaultProvingTimeout,
         sp1ClusterEndpoint }

def NetworkProverConfig.deserialize (env : Option String) (t : Toml) :
    Option (NetworkProverConfig T) := do
  let provingRequestTimeout ← t.readField ["proving-request-timeout"] 0 (deserializeTimeout T)
    (some none)
  let provingTimeout ← t.readField ["proving-timeout"] 1 (deserializeDuration T)
    (some defaultProvingTimeout)
  let sp1ClusterEndpoint ← t.readField ["sp1-cluster-endpoint"] 2 (deserializeUrl T)
    (defaultSp1ClusterEndpoint T env)
  pure { provingRequestTimeout, provingTimeout, sp1ClusterEndpoint }

variable {T}

def NetworkProverConfig.serialize (self : NetworkProverConfig T) : Toml :=
  .struct [("proving-request-timeout", self.provingRequestTimeout.map (serializeDuration T)),
    ("proving-timeout", some (serializeDuration T self.provingTimeout)),
    ("sp1-cluster-endpoint", some (serializeUrl T self.sp1ClusterEndpoint))]

variable (T)

/-- `Default` -/
def ProverType.default (env : Option String) : Option (ProverType T) :=
  (NetworkProverConfig.default T env).map .networkProver

/-- Externally tagged. -/
def ProverType.deserialize (env : Option String) (t : Toml) : Option (ProverType T) :=
  match t.newtypeVariant with
  | some ("network-prover", content) =>
    (NetworkProverConfig.deserialize T env content).map .networkProver
  | some ("cpu-prover", content) => (LocalProverConfig.deserialize T content).map .cpuProver
  | some ("mock-prover", content) => (LocalProverConfig.deserialize T content).map .mockProver
  | _ => none

variable {T}

def ProverType.serialize : ProverType T → Option Toml
  | .networkProver config => some (.table [("network-prover", config.serialize)])
  | .cpuProver config => (config.serialize T).map (fun content => .table [("cpu-prover", content)])
  | .mockProver config => (config.serialize T).map (fun content => .table [("mock-prover", content)])

end Provers

/-! ## The configuration (`agglayer-prover-config`) -/

section Config

variable (T : ConfigTexts)

structure GrpcConfig where
  maxDecodingMessageSize : UInt64
  maxEncodingMessageSize : UInt64
  deriving DecidableEq

structure TelemetryConfig where
  addr : SocketAddr
  deriving DecidableEq

structure ShutdownConfig where
  runtimeTimeout : Duration
  deriving DecidableEq

/-- The Agglayer Prover configuration. -/
structure ProverConfig where
  /-- The gRPC endpoint used by the prover. -/
  grpcEndpoint : SocketAddr
  grpc : GrpcConfig
  log : Log
  telemetry : TelemetryConfig
  /-- The list of configuration options used during shutdown. -/
  shutdown : ShutdownConfig
  /-- The maximum number of concurrent queries the prover can handle. -/
  maxConcurrencyLimit : UInt64
  /-- The maximum duration of a request. -/
  maxRequestDuration : Duration
  /-- The maximum number of buffered queries. -/
  maxBufferedQueries : UInt64
  primaryProver : ProverType T
  fallbackProver : Option (ProverType T)

/-- `default_max_decoding_message_size` and `default_max_encoding_message_size` -/
def defaultMaxMessageSize : UInt64 := 4 * 1024 * 1024

def defaultSocketAddr : SocketAddr := .v4 ⟨127, 0, 0, 1⟩ 8080

def defaultMetricsApiAddr : SocketAddr := .v4 ⟨0, 0, 0, 0⟩ 3000

def defaultShutdownRuntimeTimeout : Duration := .fromSecs 5

def defaultMaxRequestDuration : Duration := .fromSecs (60 * 5)

def defaultMaxBufferedQueries : UInt64 := 100

namespace GrpcConfig

/-- `Default` -/
def default : GrpcConfig := ⟨defaultMaxMessageSize, defaultMaxMessageSize⟩

def deserialize (t : Toml) : Option GrpcConfig := do
  let maxDecodingMessageSize ← t.readField ["max-decoding-message-size"] 0 deserializeUsize
    (some defaultMaxMessageSize)
  let maxEncodingMessageSize ← t.readField ["max-encoding-message-size"] 1 deserializeUsize
    (some defaultMaxMessageSize)
  pure { maxDecodingMessageSize, maxEncodingMessageSize }

/-- `same_as_default_max_decoding_message_size` and its twin. -/
def serializeSize (size : UInt64) : Option (Option Toml) :=
  Toml.skipIf (size = defaultMaxMessageSize) (serializeUsize size)

def serialize (self : GrpcConfig) : Option Toml := do
  let maxDecodingMessageSize ← serializeSize self.maxDecodingMessageSize
  let maxEncodingMessageSize ← serializeSize self.maxEncodingMessageSize
  pure (.struct [("max-decoding-message-size", maxDecodingMessageSize),
    ("max-encoding-message-size", maxEncodingMessageSize)])

end GrpcConfig

def TelemetryConfig.deserialize (t : Toml) : Option (TelemetryConfig) := do
  let addr ← t.readField ["prometheus-addr", "PrometheusAddr"] 0 deserializeSocketAddr
    (some defaultMetricsApiAddr)
  pure { addr }

def TelemetryConfig.serialize (self : TelemetryConfig) : Toml :=
  .struct [("prometheus-addr", some (serializeSocketAddr self.addr))]

def ShutdownConfig.deserialize (t : Toml) : Option ShutdownConfig := do
  let runtimeTimeout ← t.readField ["runtime-timeout"] 0 (deserializeDuration T)
    (some defaultShutdownRuntimeTimeout)
  pure { runtimeTimeout }

def ShutdownConfig.serialize (self : ShutdownConfig) : Toml :=
  .struct [("runtime-timeout", some (serializeDuration T self.runtimeTimeout))]

namespace ProverConfig

def deserialize (env : Option String) (t : Toml) : Option (ProverConfig T) := do
  let grpcEndpoint ← t.readField ["grpc-endpoint"] 0 deserializeSocketAddr
    (some defaultSocketAddr)
  let grpc ← t.readField ["grpc"] 1 GrpcConfig.deserialize (some .default)
  let log ← t.readField ["log", "Log"] 2 Log.deserialize (some .default)
  let telemetry ← t.readField ["telemetry", "Telemetry"] 3 TelemetryConfig.deserialize
    (some ⟨defaultMetricsApiAddr⟩)
  let shutdown ← t.readField ["shutdown"] 4 (ShutdownConfig.deserialize T)
    (some ⟨defaultShutdownRuntimeTimeout⟩)
  let maxConcurrencyLimit ← t.readField ["max-concurrency-limit"] 5 deserializeUsize
    (some defaultMaxConcurrencyLimit)
  let maxRequestDuration ← t.readField ["max-request-duration"] 6 (deserializeDuration T)
    (some defaultMaxRequestDuration)
  let maxBufferedQueries ← t.readField ["max-buffered-queries"] 7 deserializeUsize
    (some defaultMaxBufferedQueries)
  let primaryProver ← t.readField ["primary-prover"] 8 (ProverType.deserialize T env)
    (ProverType.default T env)
  let fallbackProver ← t.readField ["fallback-prover"] 9
    (fun t => (ProverType.deserialize T env t).map some) (some none)
  pure { grpcEndpoint, grpc, log, telemetry, shutdown, maxConcurrencyLimit, maxRequestDuration,
         maxBufferedQueries, primaryProver, fallbackProver }

variable {T}

/-- `Option<ProverType>` -/
def serializeFallback : Option (ProverType T) → Option (Option Toml)
  | none => some none
  | some prover => prover.serialize.map some

def serialize (self : ProverConfig T) : Option Toml := do
  let grpc ← Toml.skipIf (self.grpc = .default) self.grpc.serialize
  let maxConcurrencyLimit ← serializeUsize self.maxConcurrencyLimit
  let maxBufferedQueries ← serializeUsize self.maxBufferedQueries
  let primaryProver ← self.primaryProver.serialize
  let fallbackProver ← serializeFallback self.fallbackProver
  pure (.struct [("grpc-endpoint", some (serializeSocketAddr self.grpcEndpoint)),
    ("grpc", grpc),
    ("log", some self.log.serialize),
    ("telemetry", some (self.telemetry.serialize)),
    ("shutdown", some (self.shutdown.serialize T)),
    ("max-concurrency-limit", some maxConcurrencyLimit),
    ("max-request-duration", some (serializeDuration T self.maxRequestDuration)),
    ("max-buffered-queries", some maxBufferedQueries),
    ("primary-prover", some primaryProver),
    ("fallback-prover", fallbackProver)])

variable (T)

/-- `ProverConfig::try_load`, from the entries of the document in the file; `none` is a
`DeserializationError`. -/
def tryLoad (env : Option String) (document : List (String × Toml)) : Option (ProverConfig T) :=
  deserialize T env (.table document)

end ProverConfig

end Config

end Aggchain
