import Aggchain.Host.Rpc
import Aggchain.Lib.Base64

/-!
# Aggchain.Host.ProverError — how a failure of the prover reaches the client

`prover-executor` reports a failure as an `Error`, `agglayer-prover-types` turns it into a gRPC
status with binary details, and the endpoint of `agglayer-prover` answers with that status.

* `tryIntoStatus_inj`: the status determines the error.
* `prover_statuses`: so failures are told apart, but for a verification error of the SP1 SDK that is
  none of its named variants: on the way it becomes an error of the core machine.
-/

namespace Aggchain

/-! ## Errors (`prover-executor/src/error.rs`) -/

/-- `sp1_sdk::SP1VerificationError`; an inner error is its rendered text. -/
inductive SP1VerificationError where
  | versionMismatch (version : String)
  | core (text : String)
  | recursion (text : String)
  | plonk (error : String)
  | groth16 (error : String)
  | invalidPublicValues
  | other (error : String)
  deriving DecidableEq

inductive ProofVerificationError where
  | versionMismatch (version : String)
  | core (text : String)
  | recursion (text : String)
  | plonk (error : String)
  | groth16 (error : String)
  | invalidPublicValues
  | other (error : String)
  deriving DecidableEq

namespace ProofVerificationError

/-- `Display` -/
def message : ProofVerificationError → String
  | .versionMismatch version => "Version mismatch: " ++ version
  | .core text => "Core machine verification error: " ++ text
  | .recursion text => "Recursion verification error: " ++ text
  | .plonk error => "Plonk verification error: " ++ error
  | .groth16 error => "Groth16 verification error: " ++ error
  | .invalidPublicValues => "Invalid public values"
  | .other error => "Other verification error: " ++ error

/-- `From<SP1VerificationError>`; the last arm does not keep the variant. -/
def ofSP1 : SP1VerificationError → ProofVerificationError
  | .versionMismatch version => .versionMismatch version
  | .core text => .core text
  | .recursion text => .recursion text
  | .plonk error => .plonk error
  | .groth16 error => .groth16 error
  | .invalidPublicValues => .invalidPublicValues
  | .other error => .core error

end ProofVerificationError

/-- `prover_executor::Error` -/
inductive ProverError where
  | unableToExecuteProver
  | proverFailed (text : String)
  | proofVerificationFailed (error : ProofVerificationError)
  | executorFailed (error : List UInt8)
  | unableToInitializePrimaryProver
  | unableToInitializeFallbackProver
  deriving DecidableEq

/-- `Display` -/
def ProverError.message : ProverError → String
  | .unableToExecuteProver => "Unable to execute prover"
  | .proverFailed text => "Prover failed: " ++ text
  | .proofVerificationFailed error => "Prover verification failed: " ++ error.message
  | .executorFailed _ => "Prover executor failed"
  | .unableToInitializePrimaryProver => "Unable to initialize the primary prover"
  | .unableToInitializeFallbackProver => "Unable to initialize the fallback prover"

/-! ## Details of a status (`agglayer.prover.v1`) -/

inductive ErrorKind where
  | unspecified
  | unableToExecuteProver
  | proverFailed
  | proofVerificationFailed
  | executorFailed
  deriving DecidableEq

/-- The name that is serialized. -/
def ErrorKind.name : ErrorKind → String
  | .unspecified => "ERROR_KIND_UNSPECIFIED"
  | .unableToExecuteProver => "ERROR_KIND_UNABLE_TO_EXECUTE_PROVER"
  | .proverFailed => "ERROR_KIND_PROVER_FAILED"
  | .proofVerificationFailed => "ERROR_KIND_PROOF_VERIFICATION_FAILED"
  | .executorFailed => "ERROR_KIND_EXECUTOR_FAILED"

structure GenerateProofError where
  error : List UInt8
  errorType : ErrorKind

/-- `Serialize`: the fields that have not their default value, as strings. -/
def GenerateProofError.fields (self : GenerateProofError) : List String :=
  (if self.error.isEmpty then [] else [String.ofList (Base64.encode self.error)]) ++
    (if self.errorType = .unspecified then [] else [self.errorType.name])

/-- `bincode::default()`, for what the errors are made of.  A struct is its fields. -/
structure Bincode where
  serializeStrings : List String → Except Report (List UInt8)
  serializeBytes : List UInt8 → Except Report (List UInt8)
  serializeVerificationError : ProofVerificationError → Except Report (List UInt8)

/-- What is serialized can be told apart. -/
structure Bincode.Injective (B : Bincode) : Prop where
  strings : ∀ {a b r}, B.serializeStrings a = .ok r → B.serializeStrings b = .ok r → a = b
  bytes : ∀ {a b r}, B.serializeBytes a = .ok r → B.serializeBytes b = .ok r → a = b
  verificationError : ∀ {a b r}, B.serializeVerificationError a = .ok r →
    B.serializeVerificationError b = .ok r → a = b

/-- `tonic::Status` with binary details. -/
structure ProverStatus where
  code : Code
  message : String
  details : List UInt8
  deriving DecidableEq

section Model

variable (B : Bincode)

def GenerateProofError.serialize (self : GenerateProofError) : Except Report (List UInt8) :=
  B.serializeStrings self.fields

/-- `ErrorWrapper::try_into_status` -/
def ProverError.tryIntoStatus (value : ProverError) : Except Report ProverStatus :=
  match value with
  | .unableToExecuteProver => do
    let details ← GenerateProofError.serialize B ⟨[], .unableToExecuteProver⟩
    pure ⟨.internal, "Unable to execute prover", details⟩
  | .proverFailed _ => do
    let details ← GenerateProofError.serialize B ⟨[], .proverFailed⟩
    pure ⟨.internal, value.message, details⟩
  | .proofVerificationFailed proofVerificationError => do
    let error ← B.serializeVerificationError proofVerificationError
    let details ← GenerateProofError.serialize B ⟨error, .proofVerificationFailed⟩
    pure ⟨.invalidArgument, value.message, details⟩
  | .executorFailed proofError => do
    let error ← B.serializeBytes proofError
    let details ← GenerateProofError.serialize B ⟨error, .executorFailed⟩
    pure ⟨.invalidArgument, value.message, details⟩
  | .unableToInitializePrimaryProver => do
    let details ← GenerateProofError.serialize B ⟨[], .executorFailed⟩
    pure ⟨.internal, "Executor failed to initialize the primary prover", details⟩
  | .unableToInitializeFallbackProver => do
    let details ← GenerateProofError.serialize B ⟨[], .executorFailed⟩
    pure ⟨.internal, "Executor failed to initialize the fallback prover", details⟩

/-- The answer of `ProverRPC::generate_proof` to a failed call of the executor; `none` is a failure
that is no `prover_executor::Error`. -/
def ProverRPC.failureStatus (error : Option ProverError) : ProverStatus :=
  match error with
  | some error =>
    match error.tryIntoStatus B with
    | .ok response => response
    | .error _ => ⟨.invalidArgument, error.message, []⟩
  | none => ⟨.internal, "Failed to generate proof", []⟩

end Model

/-! ## The status determines the error -/

section Injective

variable {B : Bincode}

/-- Whether the payload is there shows in the number of fields, because the kind always is. -/
theorem GenerateProofError.fields_inj {a b : GenerateProofError} (ha : a.errorType ≠ .unspecified)
    (hb : b.errorType ≠ .unspecified) (h : a.fields = b.fields) :
    a.error = b.error ∧ a.errorType = b.errorType := by
  have hname : ∀ {k k' : ErrorKind}, k.name = k'.name → k = k' := by
    intro k k' hk
    cases k <;> cases k' <;> first | rfl | simp [ErrorKind.name] at hk
  unfold fields at h
  rw [if_neg ha, if_neg hb] at h
  split_ifs at h with hempty hempty' hempty'
  · rw [List.isEmpty_iff] at hempty hempty'
    exact ⟨hempty.trans hempty'.symm, hname (List.cons.inj h).1⟩
  · simp at h
  · simp at h
  · simp only [List.singleton_append, List.cons.injEq, and_true] at h
    exact ⟨Base64.encode_inj (String.ofList_injective h.1), hname h.2⟩

namespace ProverError

/-- The kind in the details. -/
def kind : ProverError → ErrorKind
  | .unableToExecuteProver => .unableToExecuteProver
  | .proverFailed _ => .proverFailed
  | .proofVerificationFailed _ => .proofVerificationFailed
  | _ => .executorFailed

/-- The bytes in the details. -/
def payload (B : Bincode) : ProverError → Except Report (List UInt8)
  | .proofVerificationFailed error => B.serializeVerificationError error
  | .executorFailed error => B.serializeBytes error
  | _ => .ok []

def statusCode : ProverError → Code
  | .proofVerificationFailed _ => .invalidArgument
  | .executorFailed _ => .invalidArgument
  | _ => .internal

def statusMessage : ProverError → String
  | .unableToInitializePrimaryProver => "Executor failed to initialize the primary prover"
  | .unableToInitializeFallbackProver => "Executor failed to initialize the fallback prover"
  | value => value.message

/-- What a status is made of, for all variants at once. -/
theorem tryIntoStatus_ok {e : ProverError} {s : ProverStatus} (h : e.tryIntoStatus B = .ok s) :
    s.code = e.statusCode ∧ s.message = e.statusMessage ∧
      ∃ error, e.payload B = .ok error ∧
        B.serializeStrings (GenerateProofError.fields ⟨error, e.kind⟩) = .ok s.details := by
  cases e with
  | proofVerificationFailed error =>
    simp only [tryIntoStatus, Except.bind_eq_ok, Except.pure_eq_ok] at h
    obtain ⟨bytes, hbytes, details, hdetails, rfl⟩ := h
    exact ⟨rfl, rfl, bytes, hbytes, hdetails⟩
  | executorFailed error =>
    simp only [tryIntoStatus, Except.bind_eq_ok, Except.pure_eq_ok] at h
    obtain ⟨bytes, hbytes, details, hdetails, rfl⟩ := h
    exact ⟨rfl, rfl, bytes, hbytes, hdetails⟩
  | _ =>
    simp only [tryIntoStatus, Except.bind_eq_ok, Except.pure_eq_ok] at h
    obtain ⟨details, hdetails, rfl⟩ := h
    exact ⟨rfl, rfl, [], rfl, hdetails⟩

theorem kind_ne_unspecified (e : ProverError) : e.kind ≠ .unspecified := by
  cases e <;> simp [kind]

/-- The parts of a status determine the error. -/
theorem eq_of_parts (hB : B.Injective) {e e' : ProverError} {error : List UInt8}
    (hkind : e.kind = e'.kind) (hcode : e.statusCode = e'.statusCode)
    (hmessage : e.statusMessage = e'.statusMessage) (hpayload : e.payload B = .ok error)
    (hpayload' : e'.payload B = .ok error) : e = e' := by
  cases e with
  | unableToExecuteProver =>
    cases e' with
    | unableToExecuteProver => rfl
    | _ => cases hkind
  | proverFailed text =>
    cases e' with
    | proverFailed text' => rw [(String.append_right_inj _).mp hmessage]
    | _ => cases hkind
  | proofVerificationFailed v =>
    cases e' with
    | proofVerificationFailed v' => rw [hB.verificationError hpayload hpayload']
    | _ => cases hkind
  | executorFailed bytes =>
    cases e' with
    | executorFailed bytes' => rw [hB.bytes hpayload hpayload']
    | unableToInitializePrimaryProver => cases hcode
    | unableToInitializeFallbackProver => cases hcode
    | _ => cases hkind
  | unableToInitializePrimaryProver =>
    cases e' with
    | unableToInitializePrimaryProver => rfl
    | unableToInitializeFallbackProver => simp [statusMessage] at hmessage
    | executorFailed bytes => cases hcode
    | _ => cases hkind
  | unableToInitializeFallbackProver =>
    cases e' with
    | unableToInitializeFallbackProver => rfl
    | unableToInitializePrimaryProver => simp [statusMessage] at hmessage
    | executorFailed bytes => cases hcode
    | _ => cases hkind

theorem tryIntoStatus_inj (hB : B.Injective) {e e' : ProverError} {s : ProverStatus}
    (h : e.tryIntoStatus B = .ok s) (h' : e'.tryIntoStatus B = .ok s) : e = e' := by
  obtain ⟨hcode, hmessage, error, hpayload, hdetails⟩ := tryIntoStatus_ok h
  obtain ⟨hcode', hmessage', error', hpayload', hdetails'⟩ := tryIntoStatus_ok h'
  obtain ⟨herror, hkind⟩ := GenerateProofError.fields_inj (kind_ne_unspecified e)
    (kind_ne_unspecified e') (hB.strings hdetails hdetails')
  obtain rfl : error = error' := herror
  exact eq_of_parts hB hkind (hcode.symm.trans hcode') (hmessage.symm.trans hmessage') hpayload
    hpayload'

end ProverError

end Injective

/-! ## Verification errors of the SDK -/

/-- One of the errors is of the core machine, the other one is none of the named variants, and they
have the same text. -/
def SP1VerificationError.Merged (a b : SP1VerificationError) : Prop :=
  ∃ text, (a = .core text ∧ b = .other text) ∨ (a = .other text ∧ b = .core text)

/-- The conversion is injective but for these. -/
theorem ProofVerificationError.ofSP1_eq_iff {a b : SP1VerificationError} (hne : a ≠ b) :
    ofSP1 a = ofSP1 b ↔ a.Merged b := by
  constructor
  · intro h
    cases a <;> cases b <;> simp_all [ofSP1, SP1VerificationError.Merged]
  · rintro ⟨text, ⟨rfl, rfl⟩ | ⟨rfl, rfl⟩⟩
    · rfl
    · rfl

section Statuses

variable {B : Bincode}

/-- The endpoint answers with the status, if there is one. -/
theorem ProverRPC.failureStatus_of_ok {e : ProverError} {s : ProverStatus}
    (h : e.tryIntoStatus B = .ok s) : failureStatus B (some e) = s := by
  simp only [failureStatus, h]

/-- **Failures of the prover at the client.**  Two different verification errors of the SDK have
different statuses exactly when they are not `Merged`; two different errors of the executor always
do, also in the answers of the endpoint. -/
theorem prover_statuses (hB : B.Injective) :
    (∀ (a b : SP1VerificationError) (s s' : ProverStatus), a ≠ b →
      (ProverError.proofVerificationFailed (.ofSP1 a)).tryIntoStatus B = .ok s →
      (ProverError.proofVerificationFailed (.ofSP1 b)).tryIntoStatus B = .ok s' →
      (s ≠ s' ↔ ¬ a.Merged b)) ∧
    (∀ (e e' : ProverError) (s s' : ProverStatus), e ≠ e' → e.tryIntoStatus B = .ok s →
      e'.tryIntoStatus B = .ok s' →
      s ≠ s' ∧ ProverRPC.failureStatus B (some e) ≠ ProverRPC.failureStatus B (some e')) := by
  refine ⟨?_, ?_⟩
  · intro a b s s' hne ha hb
    rw [not_iff_not, ← ProofVerificationError.ofSP1_eq_iff hne]
    constructor
    · rintro rfl
      exact ProverError.proofVerificationFailed.inj (ProverError.tryIntoStatus_inj hB ha hb)
    · intro h
      rw [h] at ha
      exact Except.ok.inj (ha.symm.trans hb)
  · intro e e' s s' hne he he'
    have hs : s ≠ s' := by
      rintro rfl
      exact hne (ProverError.tryIntoStatus_inj hB he he')
    refine ⟨hs, ?_⟩
    rwa [ProverRPC.failureStatus_of_ok he, ProverRPC.failureStatus_of_ok he']

end Statuses

/-! ## A codec

Lengths and variants in fixed width, big-endian. -/

namespace Sample

/-- The bytes behind their length. -/
def sized (bytes : List UInt8) : List UInt8 := Bytes.beBytes 8 bytes.length ++ bytes

def utf8 (text : String) : List UInt8 := text.toByteArray.data.toList

/-- Texts of a length that fits its width. -/
def serializeStrings (texts : List String) : Except Report (List UInt8) :=
  if ∀ text ∈ texts, (utf8 text).length < 256 ^ 8 then .ok (texts.flatMap (fun t => sized (utf8 t)))
  else .error "length"

/-- The index and the text of a variant. -/
def variant : ProofVerificationError → ℕ × Option String
  | .versionMismatch version => (0, some version)
  | .core text => (1, some text)
  | .recursion text => (2, some text)
  | .plonk error => (3, some error)
  | .groth16 error => (4, some error)
  | .invalidPublicValues => (5, none)
  | .other error => (6, some error)

def bincode : Bincode where
  serializeStrings := serializeStrings
  serializeBytes bytes := .ok (sized bytes)
  serializeVerificationError error :=
    .ok (Bytes.beBytes 4 (variant error).1 ++
      (variant error).2.elim [] (fun text => sized (utf8 text)))

theorem utf8_inj {a b : String} (h : utf8 a = utf8 b) : a = b := by
  have harray : a.toByteArray.data = b.toByteArray.data := Array.toList_inj.mp h
  exact String.toByteArray_inj.mp (ByteArray.ext harray)

theorem sized_inj {a b : List UInt8} (h : sized a = sized b) : a = b :=
  (List.append_inj h (by simp)).2

/-- Where the lengths fit, the first text ends where its length says. -/
theorem flatMap_sized_inj : ∀ {a b : List String}, (∀ t ∈ a, (utf8 t).length < 256 ^ 8) →
    (∀ t ∈ b, (utf8 t).length < 256 ^ 8) →
    a.flatMap (fun t => sized (utf8 t)) = b.flatMap (fun t => sized (utf8 t)) → a = b
  | [], [], _, _, _ => rfl
  | [], t :: b, _, _, h => by simp [sized, Bytes.beBytes] at h
  | t :: a, [], _, _, h => by simp [sized, Bytes.beBytes] at h
  | t :: a, t' :: b, ha, hb, h => by
    rw [List.forall_mem_cons] at ha hb
    simp only [List.flatMap_cons, sized, List.append_assoc] at h
    obtain ⟨hlen, hrest⟩ := List.append_inj h (by simp)
    obtain ⟨htext, hrest⟩ := List.append_inj hrest (Bytes.beBytes_inj ha.1 hb.1 hlen)
    rw [utf8_inj htext, flatMap_sized_inj ha.2 hb.2 hrest]

theorem variant_inj {a b : ProofVerificationError} (h : variant a = variant b) : a = b := by
  cases a <;> cases b <;> simp_all [variant]

theorem elim_sized_inj {a b : Option String}
    (h : a.elim [] (fun t => sized (utf8 t)) = b.elim [] (fun t => sized (utf8 t))) : a = b := by
  cases a with
  | none =>
    cases b with
    | none => rfl
    | some t' => simp [sized, Bytes.beBytes] at h
  | some t =>
    cases b with
    | none => simp [sized, Bytes.beBytes] at h
    | some t' => rw [utf8_inj (sized_inj h)]

theorem variant_lt (e : ProofVerificationError) : (variant e).1 < 256 ^ 4 := by
  cases e <;> simp [variant]

theorem bincode_injective : bincode.Injective where
  strings := by
    intro a b r ha hb
    simp only [bincode, serializeStrings] at ha hb
    split_ifs at ha hb with ha' hb'
    exact flatMap_sized_inj ha' hb' (Except.ok.inj (ha.trans hb.symm))
  bytes := by
    intro a b r ha hb
    exact sized_inj (Except.ok.inj (ha.trans hb.symm))
  verificationError := by
    intro a b r ha hb
    obtain ⟨hindex, htext⟩ := List.append_inj (Except.ok.inj (ha.trans hb.symm)) (by simp)
    refine variant_inj (Prod.ext ?_ (elim_sized_inj htext))
    exact Bytes.beBytes_inj (variant_lt a) (variant_lt b) hindex

theorem exists_status {e : ProverError} (h : (e.tryIntoStatus bincode).isOk = true) :
    ∃ s, e.tryIntoStatus bincode = .ok s := by
  cases hs : e.tryIntoStatus bincode with
  | ok s => exact ⟨s, rfl⟩
  | error error => simp [hs, Except.isOk, Except.toBool] at h

end Sample

open Sample

/-- The same text in two variants, and two failures that only their payload tells apart. -/
theorem prover_statuses_sample : bincode.Injective ∧
    (∃ s s', (ProverError.proofVerificationFailed (.ofSP1 (.core "x"))).tryIntoStatus bincode =
        .ok s ∧
      (ProverError.proofVerificationFailed (.ofSP1 (.plonk "x"))).tryIntoStatus bincode = .ok s' ∧
      s ≠ s') ∧
    ∃ s s', (ProverError.executorFailed []).tryIntoStatus bincode = .ok s ∧
      (ProverError.executorFailed [0]).tryIntoStatus bincode = .ok s' ∧ s ≠ s' := by
  obtain ⟨hsp1, hexecutor⟩ := prover_statuses bincode_injective
  refine ⟨bincode_injective, ?_, ?_⟩
  · obtain ⟨s, hs⟩ := exists_status (e := .proofVerificationFailed (.ofSP1 (.core "x")))
      (by decide +kernel)
    obtain ⟨s', hs'⟩ := exists_status (e := .proofVerificationFailed (.ofSP1 (.plonk "x")))
      (by decide +kernel)
    refine ⟨s, s', hs, hs', (hsp1 _ _ s s' (by decide) hs hs').mpr ?_⟩
    rintro ⟨text, ⟨-, h⟩ | ⟨h, -⟩⟩ <;> cases h
  · obtain ⟨s, hs⟩ := exists_status (e := .executorFailed []) (by decide +kernel)
    obtain ⟨s', hs'⟩ := exists_status (e := .executorFailed [0]) (by decide +kernel)
    exact ⟨s, s', hs, hs', (hexecutor _ _ s s' (by decide) hs hs').1⟩

/-- An error of the core machine and an unnamed one with the same text have one status. -/
theorem sp1_statuses_merged :
    SP1VerificationError.core "Empty proof" ≠ .other "Empty proof" ∧ ∃ s,
      (ProverError.proofVerificationFailed (.ofSP1 (.core "Empty proof"))).tryIntoStatus bincode =
        .ok s ∧
      (ProverError.proofVerificationFailed (.ofSP1 (.other "Empty proof"))).tryIntoStatus bincode =
        .ok s := by
  refine ⟨by decide, ?_⟩
  obtain ⟨s, hs⟩ := exists_status (e := .proofVerificationFailed (.ofSP1 (.core "Empty proof")))
    (by decide +kernel)
  exact ⟨s, hs, hs⟩

end Aggchain
