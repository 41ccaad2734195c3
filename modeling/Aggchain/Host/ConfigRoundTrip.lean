import Aggchain.Host.Config

/-!
# Aggchain.Host.ConfigRoundTrip — a printed configuration is loaded again

`ProverConfig.loadsBack_iff` says for which documents the printed configuration loads back as the
same one: those that name no log output.  The outputs are printed as serde derives it and read by
hand, and the two do not fit; everything else is read back (`ProverConfig.reads`).
-/

namespace Aggchain

open Net (SocketAddr)

/-! ## What is printed can be read -/

section Reads

open Toml

variable {T : ConfigTexts} {t : Toml}

theorem reads_usize {n : UInt64} (h : serializeUsize n = some t) : Reads deserializeUsize t n := by
  unfold serializeUsize at h
  split_ifs at h with hlt
  obtain rfl := Option.some.inj h
  intro t' hsame
  obtain rfl := same_integer hsame
  have hpos : (0 : ℤ) ≤ (n.toNat : ℤ) := Int.natCast_nonneg _
  simp only [deserializeUsize, if_pos hpos, Int.toNat_natCast, UInt64.ofNat_toNat]

theorem reads_duration (hT : T.PrintParse) (d : Duration) :
    Reads (deserializeDuration T) (serializeDuration T d) d := by
  intro t' hsame
  obtain rfl := same_string hsame
  exact hT.duration d

theorem reads_timeout (hT : T.PrintParse) (d : Duration) :
    Reads (deserializeTimeout T) (serializeDuration T d) (some d) := by
  intro t' hsame
  rw [deserializeTimeout, reads_duration hT d t' hsame]
  rfl

theorem reads_socketAddr (a : SocketAddr) :
    Reads deserializeSocketAddr (serializeSocketAddr a) a := by
  intro t' hsame
  obtain rfl := same_string hsame
  exact a.parse_display

theorem reads_url (hT : T.PrintParse) (u : T.Url) :
    Reads (deserializeUrl T) (serializeUrl T u) u := by
  intro t' hsame
  obtain rfl := same_string hsame
  exact hT.url u

theorem LogLevel.reads (level : LogLevel) : Reads LogLevel.deserialize level.serialize level := by
  refine reads_unitVariant ?_
  cases level <;> rfl

theorem LogFormat.reads (format : LogFormat) :
    Reads LogFormat.deserialize format.serialize format := by
  refine reads_unitVariant ?_
  cases format <;> rfl

theorem reads_noOutputs : Reads LogOutput.deserializeAll (.array []) [] := by
  intro t' hsame
  obtain ⟨l', rfl, hl'⟩ := same_array hsame
  obtain rfl := List.forall₂_nil_left_iff.mp hl'
  rfl

theorem Log.reads {log : Log} (h : log.outputs = []) : Reads Log.deserialize log.serialize log := by
  intro t' hsame
  unfold Log.serialize at hsame
  rw [h] at hsame
  have hnodup : ["level", "outputs", "format"].Nodup := by decide
  have hlevel : t'.readField ["level"] 0 LogLevel.deserialize (some .info) = some log.level :=
    readField_written hsame (.plain hnodup (by simp)) log.level.reads
  have houtputs : t'.readField ["outputs"] 1 LogOutput.deserializeAll (some []) = some [] :=
    readField_written hsame (.plain hnodup (by simp)) reads_noOutputs
  have hformat : t'.readField ["format"] 2 LogFormat.deserialize (some .pretty) = some log.format :=
    readField_written hsame (.plain hnodup (by simp)) log.format.reads
  rw [Log.deserialize, hlevel, houtputs, hformat, ← h]
  rfl

/-- An optional timeout, which is skipped if there is none. -/
theorem readField_timeout (hT : T.PrintParse) {fields : List (String × Option Toml)} {name : String}
    {timeout : Option Duration} {position : ℕ} {t' : Toml} (hsame : (struct fields).Same t')
    (hnodup : (fields.map Prod.fst).Nodup)
    (hmem : (name, timeout.map (serializeDuration T)) ∈ fields) :
    t'.readField [name] position (deserializeTimeout T) (some none) = some timeout := by
  refine readField_struct hsame (.plain hnodup hmem) ?_ ?_
  · intro w hw
    obtain ⟨d, rfl, rfl⟩ := Option.map_eq_some_iff.mp hw
    exact reads_timeout hT d
  · intro hnone
    rw [Option.map_eq_none_iff.mp hnone]

theorem LocalProverConfig.reads (hT : T.PrintParse) {config : LocalProverConfig}
    (h : config.serialize T = some t) : Reads (LocalProverConfig.deserialize T) t config := by
  obtain ⟨limit, hlimit, hstruct⟩ := Option.bind_eq_some_iff.mp h
  obtain rfl := Option.some.inj hstruct
  intro t' hsame
  have hnodup : ["max-concurrency-limit", "proving-request-timeout", "proving-timeout"].Nodup := by
    decide
  have hlimit : t'.readField ["max-concurrency-limit"] 0 deserializeUsize
      (some defaultMaxConcurrencyLimit) = some config.maxConcurrencyLimit :=
    readField_written hsame (.plain hnodup (by simp)) (reads_usize hlimit)
  have hrequest : t'.readField ["proving-request-timeout"] 1 (deserializeTimeout T) (some none) =
      some config.provingRequestTimeout :=
    readField_timeout hT hsame hnodup (by simp)
  have htimeout : t'.readField ["proving-timeout"] 2 (deserializeDuration T)
      (some defaultProvingTimeout) = some config.provingTimeout :=
    readField_written hsame (.plain hnodup (by simp)) (reads_duration hT config.provingTimeout)
  rw [LocalProverConfig.deserialize, hlimit, hrequest, htimeout]
  rfl

theorem NetworkProverConfig.reads (hT : T.PrintParse) (env : Option String)
    (config : NetworkProverConfig T) :
    Reads (NetworkProverConfig.deserialize T env) config.serialize config := by
  intro t' hsame
  have hnodup : ["proving-request-timeout", "proving-timeout", "sp1-cluster-endpoint"].Nodup := by
    decide
  have hrequest : t'.readField ["proving-request-timeout"] 0 (deserializeTimeout T) (some none) =
      some config.provingRequestTimeout :=
    readField_timeout hT hsame hnodup (by simp)
  have htimeout : t'.readField ["proving-timeout"] 1 (deserializeDuration T)
      (some defaultProvingTimeout) = some config.provingTimeout :=
    readField_written hsame (.plain hnodup (by simp)) (reads_duration hT config.provingTimeout)
  have hendpoint : t'.readField ["sp1-cluster-endpoint"] 2 (deserializeUrl T)
      (defaultSp1ClusterEndpoint T env) = some config.sp1ClusterEndpoint :=
    readField_written hsame (.plain hnodup (by simp)) (reads_url hT config.sp1ClusterEndpoint)
  rw [NetworkProverConfig.deserialize, hrequest, htimeout, hendpoint]
  rfl

theorem ProverType.reads (hT : T.PrintParse) (env : Option String) {prover : ProverType T}
    (h : prover.serialize = some t) : Reads (ProverType.deserialize T env) t prover := by
  cases prover with
  | networkProver config =>
    obtain rfl := Option.some.inj h
    refine reads_newtypeVariant ?_ (config.reads hT env)
    intro t' content hvariant
    rw [ProverType.deserialize, hvariant]
    rfl
  | cpuProver config =>
    obtain ⟨content, hconfig, rfl⟩ := Option.map_eq_some_iff.mp h
    refine reads_newtypeVariant ?_ (LocalProverConfig.reads hT hconfig)
    intro t' content hvariant
    rw [ProverType.deserialize, hvariant]
    rfl
  | mockProver config =>
    obtain ⟨content, hconfig, rfl⟩ := Option.map_eq_some_iff.mp h
    refine reads_newtypeVariant ?_ (LocalProverConfig.reads hT hconfig)
    intro t' content hvariant
    rw [ProverType.deserialize, hvariant]
    rfl

/-- A message size, which is skipped if it is the default one. -/
theorem GrpcConfig.readField_size {fields : List (String × Option Toml)} {name : String}
    {size : UInt64} {v : Option Toml} {position : ℕ} {t' : Toml} (hv : serializeSize size = some v)
    (hsame : (struct fields).Same t') (hnodup : (fields.map Prod.fst).Nodup)
    (hmem : (name, v) ∈ fields) :
    t'.readField [name] position deserializeUsize (some defaultMaxMessageSize) = some size := by
  refine readField_skipIf hv hsame (.plain hnodup hmem) ?_ (fun w hw => reads_usize hw)
  rintro rfl
  rfl

theorem GrpcConfig.reads {config : GrpcConfig} (h : config.serialize = some t) :
    Reads GrpcConfig.deserialize t config := by
  simp only [GrpcConfig.serialize, bind, Option.bind_eq_some_iff] at h
  obtain ⟨decoding, hdecoding, encoding, hencoding, hstruct⟩ := h
  obtain rfl := Option.some.inj hstruct
  intro t' hsame
  have hnodup : ["max-decoding-message-size", "max-encoding-message-size"].Nodup := by decide
  have hdecoding : t'.readField ["max-decoding-message-size"] 0 deserializeUsize
      (some defaultMaxMessageSize) = some config.maxDecodingMessageSize :=
    readField_size hdecoding hsame hnodup (by simp)
  have hencoding : t'.readField ["max-encoding-message-size"] 1 deserializeUsize
      (some defaultMaxMessageSize) = some config.maxEncodingMessageSize :=
    readField_size hencoding hsame hnodup (by simp)
  rw [GrpcConfig.deserialize, hdecoding, hencoding]
  rfl

theorem TelemetryConfig.reads (config : TelemetryConfig) :
    Reads TelemetryConfig.deserialize config.serialize config := by
  intro t' hsame
  have haddr : t'.readField ["prometheus-addr", "PrometheusAddr"] 0 deserializeSocketAddr
      (some defaultMetricsApiAddr) = some config.addr :=
    readField_written hsame (.aliased (by simp) (by simp) (List.mem_singleton_self _))
      (reads_socketAddr config.addr)
  rw [TelemetryConfig.deserialize, haddr]
  rfl

theorem ShutdownConfig.reads (hT : T.PrintParse) (config : ShutdownConfig) :
    Reads (ShutdownConfig.deserialize T) (config.serialize T) config := by
  intro t' hsame
  have htimeout : t'.readField ["runtime-timeout"] 0 (deserializeDuration T)
      (some defaultShutdownRuntimeTimeout) = some config.runtimeTimeout :=
    readField_written hsame (.plain (by simp) (List.mem_singleton_self _))
      (reads_duration hT config.runtimeTimeout)
  rw [ShutdownConfig.deserialize, htimeout]
  rfl

namespace ProverConfig

/-- Each field of the configuration was read from the value. -/
structure ReadFrom (env : Option String) (t : Toml) (config : ProverConfig T) : Prop where
  grpcEndpoint : t.readField ["grpc-endpoint"] 0 deserializeSocketAddr (some defaultSocketAddr) =
    some config.grpcEndpoint
  grpc : t.readField ["grpc"] 1 GrpcConfig.deserialize (some .default) = some config.grpc
  log : t.readField ["log", "Log"] 2 Log.deserialize (some .default) = some config.log
  telemetry : t.readField ["telemetry", "Telemetry"] 3 TelemetryConfig.deserialize
    (some ⟨defaultMetricsApiAddr⟩) = some config.telemetry
  shutdown : t.readField ["shutdown"] 4 (ShutdownConfig.deserialize T)
    (some ⟨defaultShutdownRuntimeTimeout⟩) = some config.shutdown
  maxConcurrencyLimit : t.readField ["max-concurrency-limit"] 5 deserializeUsize
    (some defaultMaxConcurrencyLimit) = some config.maxConcurrencyLimit
  maxRequestDuration : t.readField ["max-request-duration"] 6 (deserializeDuration T)
    (some defaultMaxRequestDuration) = some config.maxRequestDuration
  maxBufferedQueries : t.readField ["max-buffered-queries"] 7 deserializeUsize
    (some defaultMaxBufferedQueries) = some config.maxBufferedQueries
  primaryProver : t.readField ["primary-prover"] 8 (ProverType.deserialize T env)
    (ProverType.default T env) = some config.primaryProver
  fallbackProver : t.readField ["fallback-prover"] 9
    (fun t => (ProverType.deserialize T env t).map some) (some none) = some config.fallbackProver

theorem deserialize_iff {env : Option String} {config : ProverConfig T} :
    deserialize T env t = some config ↔ ReadFrom env t config := by
  refine ⟨?_, ?_⟩
  · intro h
    obtain ⟨endpoint, hendpoint, h⟩ := Option.bind_eq_some_iff.mp h
    obtain ⟨grpc, hgrpc, h⟩ := Option.bind_eq_some_iff.mp h
    obtain ⟨log, hlog, h⟩ := Option.bind_eq_some_iff.mp h
    obtain ⟨telemetry, htelemetry, h⟩ := Option.bind_eq_some_iff.mp h
    obtain ⟨shutdown, hshutdown, h⟩ := Option.bind_eq_some_iff.mp h
    obtain ⟨limit, hlimit, h⟩ := Option.bind_eq_some_iff.mp h
    obtain ⟨duration, hduration, h⟩ := Option.bind_eq_some_iff.mp h
    obtain ⟨queries, hqueries, h⟩ := Option.bind_eq_some_iff.mp h
    obtain ⟨primary, hprimary, h⟩ := Option.bind_eq_some_iff.mp h
    obtain ⟨fallback, hfallback, h⟩ := Option.bind_eq_some_iff.mp h
    obtain rfl := Option.some.inj h
    exact ⟨hendpoint, hgrpc, hlog, htelemetry, hshutdown, hlimit, hduration, hqueries, hprimary,
      hfallback⟩
  · intro h
    rw [deserialize, h.grpcEndpoint, h.grpc, h.log, h.telemetry, h.shutdown, h.maxConcurrencyLimit,
      h.maxRequestDuration, h.maxBufferedQueries, h.primaryProver, h.fallbackProver]
    rfl

/-- The keys of a printed configuration. -/
def keys : List String :=
  ["grpc-endpoint", "grpc", "log", "telemetry", "shutdown", "max-concurrency-limit",
    "max-request-duration", "max-buffered-queries", "primary-prover", "fallback-prover"]

theorem nodup_keys : keys.Nodup := by decide

theorem not_mem_keys : "Log" ∉ keys ∧ "Telemetry" ∉ keys := by decide

/-- What a printed configuration is made of. -/
theorem serialize_eq_some {config : ProverConfig T} (h : config.serialize = some t) :
    ∃ grpc limit queries primary fallback,
      skipIf (config.grpc = .default) config.grpc.serialize = some grpc ∧
      serializeUsize config.maxConcurrencyLimit = some limit ∧
      serializeUsize config.maxBufferedQueries = some queries ∧
      config.primaryProver.serialize = some primary ∧
      serializeFallback config.fallbackProver = some fallback ∧
      t = .struct [("grpc-endpoint", some (serializeSocketAddr config.grpcEndpoint)),
        ("grpc", grpc), ("log", some config.log.serialize),
        ("telemetry", some (config.telemetry.serialize)),
        ("shutdown", some (config.shutdown.serialize T)), ("max-concurrency-limit", some limit),
        ("max-request-duration", some (serializeDuration T config.maxRequestDuration)),
        ("max-buffered-queries", some queries), ("primary-prover", some primary),
        ("fallback-prover", fallback)] := by
  obtain ⟨grpc, hgrpc, h⟩ := Option.bind_eq_some_iff.mp h
  obtain ⟨limit, hlimit, h⟩ := Option.bind_eq_some_iff.mp h
  obtain ⟨queries, hqueries, h⟩ := Option.bind_eq_some_iff.mp h
  obtain ⟨primary, hprimary, h⟩ := Option.bind_eq_some_iff.mp h
  obtain ⟨fallback, hfallback, h⟩ := Option.bind_eq_some_iff.mp h
  exact ⟨grpc, limit, queries, primary, fallback, hgrpc, hlimit, hqueries, hprimary, hfallback,
    (Option.some.inj h).symm⟩

/-- The fallback prover, which is skipped if there is none. -/
theorem readField_fallback (hT : T.PrintParse) (env : Option String)
    {fields : List (String × Option Toml)} {name : String} {prover : Option (ProverType T)}
    {v : Option Toml} {position : ℕ} {t' : Toml} (hv : serializeFallback prover = some v)
    (hsame : (struct fields).Same t') (hnodup : (fields.map Prod.fst).Nodup)
    (hmem : (name, v) ∈ fields) :
    t'.readField [name] position (fun t => (ProverType.deserialize T env t).map some) (some none) =
      some prover := by
  cases prover with
  | none =>
    obtain rfl := Option.some.inj hv
    refine readField_struct hsame (.plain hnodup hmem) ?_ (fun _ => rfl)
    intro w hw
    cases hw
  | some prover =>
    obtain ⟨w, hw, rfl⟩ := Option.map_eq_some_iff.mp hv
    refine readField_written hsame (.plain hnodup hmem) ?_
    intro t'' hsame'
    show (ProverType.deserialize T env t'').map some = _
    rw [ProverType.reads hT env hw t'' hsame']
    rfl

/-- A printed configuration without log outputs loads back. -/
theorem reads (hT : T.PrintParse) (env : Option String) {config : ProverConfig T}
    (h : config.serialize = some t) (hlog : config.log.outputs = []) :
    Reads (deserialize T env) t config := by
  obtain ⟨grpc, limit, queries, primary, fallback, hgrpc, hlimit, hqueries, hprimary, hfallback,
    rfl⟩ := serialize_eq_some h
  intro t' hsame
  refine deserialize_iff.mpr ⟨?_, ?_, ?_, ?_, ?_, ?_, ?_, ?_, ?_, ?_⟩
  · exact readField_written hsame (.plain nodup_keys (by simp))
      (reads_socketAddr config.grpcEndpoint)
  · exact readField_skipIf hgrpc hsame (.plain nodup_keys (by simp))
      (fun h => congrArg some h.symm) (fun w hw => GrpcConfig.reads hw)
  · exact readField_written hsame (.aliased nodup_keys not_mem_keys.1 (by simp)) (Log.reads hlog)
  · exact readField_written hsame (.aliased nodup_keys not_mem_keys.2 (by simp))
      config.telemetry.reads
  · exact readField_written hsame (.plain nodup_keys (by simp)) (config.shutdown.reads hT)
  · exact readField_written hsame (.plain nodup_keys (by simp)) (reads_usize hlimit)
  · exact readField_written hsame (.plain nodup_keys (by simp))
      (reads_duration hT config.maxRequestDuration)
  · exact readField_written hsame (.plain nodup_keys (by simp)) (reads_usize hqueries)
  · exact readField_written hsame (.plain nodup_keys (by simp)) (ProverType.reads hT env hprimary)
  · exact readField_fallback hT env hfallback hsame nodup_keys (by simp)

end ProverConfig

end Reads

/-! ## What was loaded can be printed -/

section Printed

open Toml

variable {T : ConfigTexts} {env : Option String} {t : Toml}

/-- The number is one of TOML. -/
def Fits (n : UInt64) : Prop := ∃ t, serializeUsize n = some t

theorem fits_iff {n : UInt64} : Fits n ↔ n.toNat < 9223372036854775808 := by
  unfold Fits serializeUsize
  by_cases h : n.toNat < 9223372036854775808
  · simp [h]
  · simp [h]

theorem fits_of_deserialize {n : UInt64} (h : deserializeUsize t = some n) : Fits n := by
  cases t with
  | integer value =>
    simp only [deserializeUsize] at h
    split_ifs at h with hpos
    obtain rfl := Option.some.inj h
    have hlt : value.val < 9223372036854775808 := value.property.2
    rw [fits_iff, UInt64.toNat_ofNat']
    omega
  | _ => cases h

theorem fits_of_readField {names : List String} {position : ℕ} {default n : UInt64}
    (hdefault : Fits default)
    (h : t.readField names position deserializeUsize (some default) = some n) : Fits n := by
  rcases readField_cases h with ⟨-, hn⟩ | ⟨v, -, hn⟩
  · obtain rfl := Option.some.inj hn
    exact hdefault
  · exact fits_of_deserialize hn

theorem LocalProverConfig.serialize_of_deserialize {config : LocalProverConfig}
    (h : LocalProverConfig.deserialize T t = some config) : ∃ t', config.serialize T = some t' := by
  simp only [LocalProverConfig.deserialize, bind, Option.bind_eq_some_iff] at h
  obtain ⟨limit, hlimit, request, -, timeout, -, hconfig⟩ := h
  obtain rfl := Option.some.inj hconfig
  have hfits : Fits limit := fits_of_readField (fits_iff.mpr (by decide)) hlimit
  obtain ⟨w, hw⟩ := hfits
  exact ⟨_, by rw [LocalProverConfig.serialize, hw]; rfl⟩

theorem ProverType.serialize_of_deserialize {prover : ProverType T}
    (h : ProverType.deserialize T env t = some prover) : ∃ t', prover.serialize = some t' := by
  unfold ProverType.deserialize at h
  split at h
  · obtain ⟨config, -, rfl⟩ := Option.map_eq_some_iff.mp h
    exact ⟨_, rfl⟩
  · obtain ⟨config, hconfig, rfl⟩ := Option.map_eq_some_iff.mp h
    obtain ⟨w, hw⟩ := LocalProverConfig.serialize_of_deserialize hconfig
    exact ⟨_, by rw [ProverType.serialize, hw]; rfl⟩
  · obtain ⟨config, hconfig, rfl⟩ := Option.map_eq_some_iff.mp h
    obtain ⟨w, hw⟩ := LocalProverConfig.serialize_of_deserialize hconfig
    exact ⟨_, by rw [ProverType.serialize, hw]; rfl⟩
  · cases h

theorem ProverType.serialize_default {prover : ProverType T}
    (h : ProverType.default T env = some prover) : ∃ t', prover.serialize = some t' := by
  obtain ⟨config, -, rfl⟩ := Option.map_eq_some_iff.mp h
  exact ⟨_, rfl⟩

theorem GrpcConfig.exists_serializeSize {n : UInt64} (h : Fits n) :
    ∃ v, GrpcConfig.serializeSize n = some v := by
  obtain ⟨w, hw⟩ := h
  exact exists_skipIf hw

theorem GrpcConfig.serialize_of_deserialize {config : GrpcConfig}
    (h : GrpcConfig.deserialize t = some config) : ∃ t', config.serialize = some t' := by
  simp only [GrpcConfig.deserialize, bind, Option.bind_eq_some_iff] at h
  obtain ⟨decoding, hdecoding, encoding, hencoding, hconfig⟩ := h
  obtain rfl := Option.some.inj hconfig
  have hdefault : Fits defaultMaxMessageSize := fits_iff.mpr (by decide)
  obtain ⟨v, hv⟩ := exists_serializeSize (fits_of_readField hdefault hdecoding)
  obtain ⟨v', hv'⟩ := exists_serializeSize (fits_of_readField hdefault hencoding)
  exact ⟨_, by rw [GrpcConfig.serialize, hv, hv']; rfl⟩

namespace ProverConfig

theorem serialize_of_deserialize {config : ProverConfig T}
    (h : deserialize T env t = some config) : ∃ t', config.serialize = some t' := by
  have h := deserialize_iff.mp h
  have hgrpc : ∃ v, skipIf (config.grpc = .default) config.grpc.serialize = some v := by
    rcases readField_cases h.grpc with ⟨-, hdefault⟩ | ⟨v, -, hv⟩
    · exact ⟨none, if_pos (Option.some.inj hdefault).symm⟩
    · obtain ⟨w, hw⟩ := GrpcConfig.serialize_of_deserialize hv
      exact exists_skipIf hw
  have hlimit : Fits config.maxConcurrencyLimit :=
    fits_of_readField (fits_iff.mpr (by decide)) h.maxConcurrencyLimit
  have hqueries : Fits config.maxBufferedQueries :=
    fits_of_readField (fits_iff.mpr (by decide)) h.maxBufferedQueries
  have hprimary : ∃ w, config.primaryProver.serialize = some w := by
    rcases readField_cases h.primaryProver with ⟨-, hdefault⟩ | ⟨v, -, hv⟩
    · exact ProverType.serialize_default hdefault
    · exact ProverType.serialize_of_deserialize hv
  have hfallback : ∃ v, serializeFallback config.fallbackProver = some v := by
    rcases readField_cases h.fallbackProver with ⟨-, hnone⟩ | ⟨v, -, hsome⟩
    · exact ⟨none, by rw [← Option.some.inj hnone]; rfl⟩
    · obtain ⟨prover, hprover, hfallback⟩ := Option.map_eq_some_iff.mp hsome
      obtain ⟨w, hw⟩ := ProverType.serialize_of_deserialize hprover
      exact ⟨some w, by rw [← hfallback, serializeFallback, hw]; rfl⟩
  obtain ⟨grpc, hgrpc⟩ := hgrpc
  obtain ⟨limit, hlimit⟩ := hlimit
  obtain ⟨queries, hqueries⟩ := hqueries
  obtain ⟨primary, hprimary⟩ := hprimary
  obtain ⟨fallback, hfallback⟩ := hfallback
  exact ⟨_, by rw [serialize, hgrpc, hlimit, hqueries, hprimary, hfallback]; rfl⟩

end ProverConfig

end Printed

/-! ## The round trip -/

section RoundTrip

open Toml

variable {T : ConfigTexts} {env : Option String}

/-- The printed configuration, with its keys in any order, loads back as the same one. -/
def ProverConfig.LoadsBack (env : Option String) (config : ProverConfig T) : Prop :=
  ∃ printed, config.serialize = some (.table printed) ∧ ∀ document,
    (Toml.table printed).Same (.table document) → ProverConfig.tryLoad T env document = some config

/-- The log of the document, a table or an array, has no outputs or an empty list of them. -/
def NoOutputs (document : List (String × Toml)) : Prop :=
  ∀ log ∈ valuesAt ["log", "Log"] document, ∀ values, log.field ["outputs"] 1 = some values →
    ∀ outputs ∈ values, outputs = .array []

/-! ### Printed outputs do not load back -/

/-- A variant is printed with a capital letter, which makes it a path, and a path as a table, which
is not read at all. -/
theorem LogOutput.deserialize_serialize_ne (output : LogOutput) {t : Toml}
    (h : output.serialize.Same t) : LogOutput.deserialize t ≠ some output := by
  cases output with
  | stdout =>
    obtain rfl := same_string h
    simp [LogOutput.deserialize]
  | stderr =>
    obtain rfl := same_string h
    simp [LogOutput.deserialize]
  | file path =>
    obtain ⟨m, l', rfl, -, -⟩ := same_table h
    simp [LogOutput.deserialize]

theorem LogOutput.eq_nil_of_reads {outputs : List LogOutput} {t : Toml}
    (hsame : (Toml.array (outputs.map LogOutput.serialize)).Same t)
    (h : LogOutput.deserializeAll t = some outputs) : outputs = [] := by
  obtain ⟨items, rfl, hitems⟩ := same_array hsame
  cases outputs with
  | nil => rfl
  | cons output outputs =>
    obtain ⟨item, items, hitem, -, rfl⟩ := List.forall₂_cons_left_iff.mp hitems
    simp only [LogOutput.deserializeAll, List.mapM_cons, bind, Option.bind_eq_some_iff] at h
    obtain ⟨output', houtput, outputs', -, hcons⟩ := h
    obtain ⟨rfl, -⟩ := List.cons.inj (Option.some.inj hcons)
    exact absurd houtput (LogOutput.deserialize_serialize_ne output' hitem)

theorem Log.readField_outputs {log : Log} {t : Toml} (h : Log.deserialize t = some log) :
    t.readField ["outputs"] 1 LogOutput.deserializeAll (some []) = some log.outputs := by
  simp only [Log.deserialize, bind, Option.bind_eq_some_iff] at h
  obtain ⟨level, -, outputs, houtputs, format, -, hlog⟩ := h
  obtain rfl := Option.some.inj hlog
  exact houtputs

/-- The log is not read back unless it has no outputs. -/
theorem Log.eq_nil_of_reads {log : Log} {t : Toml} (hsame : log.serialize.Same t)
    (h : Log.deserialize t = some log) : log.outputs = [] := by
  have hnodup : ["level", "outputs", "format"].Nodup := by decide
  have hread : ∃ outputs, (Toml.array (log.outputs.map LogOutput.serialize)).Same outputs ∧
      LogOutput.deserializeAll outputs = some log.outputs :=
    decode_of_readField hsame (.plain hnodup (by simp)) (readField_outputs h)
  obtain ⟨outputs, hsame, houtputs⟩ := hread
  exact LogOutput.eq_nil_of_reads hsame houtputs

/-- A configuration with outputs does not load back. -/
theorem ProverConfig.eq_nil_of_loadsBack {config : ProverConfig T} (h : config.LoadsBack env) :
    config.log.outputs = [] := by
  obtain ⟨printed, hprinted, hloads⟩ := h
  have hlog := (deserialize_iff.mp (hloads printed (.refl _))).log
  obtain ⟨grpc, limit, queries, primary, fallback, -, -, -, -, -, hstruct⟩ :=
    serialize_eq_some hprinted
  rw [hstruct] at hlog
  have hread : ∃ log, config.log.serialize.Same log ∧ Log.deserialize log = some config.log := by
    refine decode_of_readField (.refl _) (.aliased ?_ not_mem_keys.1 ?_) hlog
    · exact nodup_keys
    · simp
  obtain ⟨log, hsame, hlog⟩ := hread
  exact Log.eq_nil_of_reads hsame hlog

/-! ### The outputs of the document -/

theorem LogOutput.deserializeAll_eq_nil_iff {t : Toml} {outputs : List LogOutput}
    (h : LogOutput.deserializeAll t = some outputs) : outputs = [] ↔ t = .array [] := by
  cases t with
  | array items =>
    cases items with
    | nil =>
      obtain rfl := Option.some.inj h
      exact ⟨fun _ => rfl, fun _ => rfl⟩
    | cons item items =>
      simp only [LogOutput.deserializeAll, List.mapM_cons, bind, Option.bind_eq_some_iff] at h
      obtain ⟨output, -, outputs', -, hcons⟩ := h
      obtain rfl := Option.some.inj hcons
      simp
  | _ => cases h

/-- A log without outputs was read from a value without outputs. -/
theorem Log.outputs_eq_nil_iff {log : Log} {t : Toml} (h : Log.deserialize t = some log) :
    log.outputs = [] ↔
      ∀ values, t.field ["outputs"] 1 = some values → ∀ v ∈ values, v = .array [] := by
  rcases readField_cases (readField_outputs h) with ⟨hnone, hnil⟩ | ⟨v, hv, houtputs⟩
  · rw [hnone]
    refine ⟨fun _ values hvalues => ?_, fun _ => (Option.some.inj hnil).symm⟩
    obtain rfl := Option.some.inj hvalues
    intro v hv
    cases hv
  · rw [hv, LogOutput.deserializeAll_eq_nil_iff houtputs]
    refine ⟨?_, fun hall => hall [v] rfl v List.mem_cons_self⟩
    rintro rfl values hvalues w hw
    obtain rfl := Option.some.inj hvalues
    exact List.mem_singleton.mp hw

/-- A configuration without log outputs was loaded from a document without log outputs. -/
theorem ProverConfig.outputs_eq_nil_iff {config : ProverConfig T} {document : List (String × Toml)}
    (h : ProverConfig.tryLoad T env document = some config) :
    config.log.outputs = [] ↔ NoOutputs document := by
  unfold NoOutputs
  rcases readField_cases (deserialize_iff.mp h).log with ⟨hnone, hdefault⟩ | ⟨v, hv, hlog⟩
  · have hnone : valuesAt ["log", "Log"] document = [] := Option.some.inj hnone
    rw [hnone, ← Option.some.inj hdefault]
    refine ⟨fun _ log hlog => ?_, fun _ => rfl⟩
    cases hlog
  · have hv : valuesAt ["log", "Log"] document = [v] := Option.some.inj hv
    rw [hv, Log.outputs_eq_nil_iff hlog]
    refine ⟨?_, fun hall => hall v List.mem_cons_self⟩
    intro hall log hmem
    rw [List.mem_singleton.mp hmem]
    exact hall

theorem ProverConfig.serialize_table {config : ProverConfig T} {t : Toml}
    (h : config.serialize = some t) : ∃ printed, t = .table printed := by
  obtain ⟨grpc, limit, queries, primary, fallback, -, -, -, -, -, hstruct⟩ := serialize_eq_some h
  exact ⟨_, hstruct⟩

/-- A loaded configuration loads back after printing if and only if the document it was loaded from
has no log outputs. -/
theorem ProverConfig.loadsBack_iff (hT : T.PrintParse) {document : List (String × Toml)}
    {config : ProverConfig T} (h : ProverConfig.tryLoad T env document = some config)
    (env' : Option String) : config.LoadsBack env' ↔ NoOutputs document := by
  rw [← outputs_eq_nil_iff h]
  refine ⟨eq_nil_of_loadsBack, ?_⟩
  intro houtputs
  obtain ⟨t, ht⟩ := serialize_of_deserialize h
  obtain ⟨printed, rfl⟩ := serialize_table ht
  exact ⟨printed, ht, fun document' hsame => reads hT env' ht houtputs (.table document') hsame⟩

end RoundTrip

namespace Sample

open Net (decimal readNumber)

/-- A duration in hours, in minutes, in seconds, or in seconds and nanoseconds: what `humantime`
prints for less than a day of one unit. -/
def formatDuration (d : Duration) : List Char :=
  if d.nanos ≠ 0 then
    decimal d.secs.toNat ++ 's' :: ' ' :: (decimal d.nanos.toNat ++ ['n', 's'])
  else if 0 < d.secs.toNat ∧ d.secs.toNat % 3600 = 0 then decimal (d.secs.toNat / 3600) ++ ['h']
  else if 0 < d.secs.toNat ∧ d.secs.toNat % 60 = 0 then decimal (d.secs.toNat / 60) ++ ['m']
  else decimal d.secs.toNat ++ ['s']

def parseDuration (s : List Char) : Option Duration :=
  match readNumber 10 18446744073709551615 none true s with
  | some (n, ['h']) => some (.fromSecs (UInt64.ofNat (n * 3600)))
  | some (n, ['m']) => some (.fromSecs (UInt64.ofNat (n * 60)))
  | some (n, ['s']) => some (.fromSecs (UInt64.ofNat n))
  | some (n, 's' :: ' ' :: rest) =>
    match readNumber 10 999999999 none true rest with
    | some (k, ['n', 's']) =>
      if h : (UInt32.ofNat k).toNat < 1000000000 then some ⟨UInt64.ofNat n, UInt32.ofNat k, h⟩
      else none
    | _ => none
  | _ => none

theorem readNumber_decimal {max n : ℕ} {rest : List Char} (hn : n ≤ max)
    (hrest : Net.NoDigit 10 rest) : readNumber 10 max none true (decimal n ++ rest) = some (n, rest) :=
  Net.readNumber_toDigits (by omega) (by omega) hn (by simp) hrest true

theorem eq_fromSecs {d : Duration} (h : d.nanos = 0) : d = .fromSecs d.secs := by
  cases d
  subst h
  rfl

theorem parseDuration_formatDuration (d : Duration) :
    parseDuration (formatDuration d) = some d := by
  have hsecs : d.secs.toNat < 18446744073709551616 := d.secs.toNat_lt
  unfold formatDuration
  split_ifs with hnanos hhours hminutes
  · rw [parseDuration, readNumber_decimal (by omega) (Net.noDigit_cons (by decide))]
    have hlt := d.nanos_lt
    have hnumber : readNumber 10 999999999 none true (decimal d.nanos.toNat ++ ['n', 's']) =
        some (d.nanos.toNat, ['n', 's']) :=
      readNumber_decimal (by omega) (Net.noDigit_cons (by decide))
    simp only [hnumber, UInt32.ofNat_toNat, UInt64.ofNat_toNat, dif_pos hlt]
  · have hsecs' : d.secs.toNat / 3600 * 3600 = d.secs.toNat := by omega
    rw [parseDuration, readNumber_decimal (by omega) (Net.noDigit_cons (by decide))]
    simp only [hsecs', UInt64.ofNat_toNat]
    exact congrArg some (eq_fromSecs (not_not.mp hnanos)).symm
  · have hsecs' : d.secs.toNat / 60 * 60 = d.secs.toNat := by omega
    rw [parseDuration, readNumber_decimal (by omega) (Net.noDigit_cons (by decide))]
    simp only [hsecs', UInt64.ofNat_toNat]
    exact congrArg some (eq_fromSecs (not_not.mp hnanos)).symm
  · rw [parseDuration, readNumber_decimal (by omega) (Net.noDigit_cons (by decide))]
    simp only [UInt64.ofNat_toNat]
    exact congrArg some (eq_fromSecs (not_not.mp hnanos)).symm

/-- The text of a URL: behind the authority there is a path. -/
abbrev UrlText := { text : String // text.toList.count '/' ≠ 2 }

theorem count_slash_append {text : String} (h : text.toList.count '/' = 2) :
    (text ++ "/").toList.count '/' ≠ 2 := by
  rw [String.toList_append]
  simp [h]

/-- The empty path is `/`. -/
def parseUrlText (text : String) : Option UrlText :=
  if h : text.toList.count '/' = 2 then some ⟨text ++ "/", count_slash_append h⟩
  else some ⟨text, h⟩

theorem parseUrlText_val (u : UrlText) : parseUrlText u.val = some u := dif_neg u.2

def configTexts : ConfigTexts where
  Url := UrlText
  parseUrl := parseUrlText
  urlAsStr := Subtype.val
  parseDuration text := parseDuration text.toList
  formatDuration d := String.ofList (formatDuration d)

theorem printParse_configTexts : configTexts.PrintParse where
  url := parseUrlText_val
  duration d := by
    simp only [configTexts, String.toList_ofList, parseDuration_formatDuration]

/-- An endpoint, a number of seconds, an empty list of outputs and a prover. -/
def documentNoOutputs : List (String × Toml) :=
  [("grpc-endpoint", .string "[::1]:8080"), ("max-request-duration", .integer ⟨30, by decide⟩),
    ("log", .table [("level", .string "debug"), ("outputs", .array [])]),
    ("primary-prover", .table [("cpu-prover", .table [("proving-timeout", .string "10m")])])]

/-- `log.outputs = ["stdout"]` -/
def documentStdout : List (String × Toml) :=
  [("log", .table [("outputs", .array [.string "stdout"])])]

end Sample

open Sample

theorem loadsBack_iff_sample : ∃ config,
    ProverConfig.tryLoad configTexts none documentNoOutputs = some config ∧
      config.LoadsBack none := by
  have hload : ∃ config,
      ProverConfig.tryLoad configTexts none documentNoOutputs = some config := ⟨_, rfl⟩
  obtain ⟨config, hload⟩ := hload
  refine ⟨config, hload, (ProverConfig.loadsBack_iff printParse_configTexts hload none).mpr ?_⟩
  intro log hlog values hvalues v hv
  obtain rfl := List.mem_singleton.mp hlog
  obtain rfl := Option.some.inj hvalues
  exact List.mem_singleton.mp hv

/-- The standard output is printed as `"Stdout"`, which is loaded as a path. -/
theorem not_loadsBack_stdout : ∃ config,
    ProverConfig.tryLoad configTexts none documentStdout = some config ∧
      config.log.outputs = [.stdout] ∧
      (∃ printed config', config.serialize = some (.table printed) ∧
        ProverConfig.tryLoad configTexts none printed = some config' ∧
        config'.log.outputs = [.file "Stdout"]) ∧
      ¬ config.LoadsBack none := by
  refine ⟨_, rfl, rfl, ⟨_, _, rfl, rfl, rfl⟩, ?_⟩
  intro h
  have hnil := ProverConfig.eq_nil_of_loadsBack h
  cases hnil

end Aggchain
