import Aggchain.Host.Refusal

/-!
# Aggchain.Host.Answers — which requests are answered

`Aggchain.Host.EndToEnd` says what an answer stands for; here is when there is one.  The chain is
honest, the request lists its range and the prover proves whatever the guest accepts.

`generate_answers_iff`: an endpoint answers for an end block exactly when the keys of L1 are those of
this prover, the range takes nothing back and the transition is proven or signed.
-/

namespace Aggchain

open AggchainProofBuilder (Fetched Describes ListsRange KeysMatch PublicValuesMatch
  bridgeExitsClaimed verdict)

namespace AggchainProofBuilder

variable {X : Ext} {Y : HostExt} {E : Env X} {H : Host Y} {self : AggchainProofBuilder X Y}
  {request : AggchainProofBuilderRequest X Y} {data : ChainData X} {L : L2Execution E}

end AggchainProofBuilder

/-! ## The service -/

section Service

variable {X : Ext} {Y : HostExt} (E : Env X) (H : Host Y)

variable {E H}

namespace AggchainProofService

variable {self : AggchainProofService X Y} {request : AggchainProofServiceRequest X Y}
  {stop : UInt64} {data : ChainData X} {L : L2Execution E}

end AggchainProofService

end Service

/-! ## The endpoints -/

namespace GrpcService

variable {X : Ext} {Y : HostExt} {W : Wire X Y} {E : Env X} {H : Host Y} {self : GrpcService X Y}
  {r : AggchainProofServiceRequest X Y} {answer : AggchainProofServiceResponse}

end GrpcService

/-! ## The sample range, in both modes -/

namespace Sample

/-- The public values as the prover returns them: the fields one after another. -/
def valuesBytes (pv : AggchainProofPublicValues) : List UInt8 :=
  pv.prevLocalExitRoot.val ++ pv.newLocalExitRoot.val ++ pv.l1InfoRoot.val ++
    pv.commitImportedBridgeExits.val ++ pv.aggchainParams.val ++
    Bytes.beBytes 4 pv.originNetwork.toNat

/-- The digest at the offset. -/
def digestAt (bytes : List UInt8) (offset : ℕ) : Option Digest :=
  if h : ((bytes.drop offset).take 32).length = 32 then some ⟨(bytes.drop offset).take 32, h⟩ else none

def valuesOf (bytes : List UInt8) : Option AggchainProofPublicValues := do
  pure { prevLocalExitRoot := ← digestAt bytes 0
         newLocalExitRoot := ← digestAt bytes 32
         l1InfoRoot := ← digestAt bytes 64
         commitImportedBridgeExits := ← digestAt bytes 96
         aggchainParams := ← digestAt bytes 128
         originNetwork := UInt32.ofNat (Bytes.ofBe (bytes.drop 160)) }

theorem digestAt_append (before after : List UInt8) (d : Digest) :
    digestAt (before ++ d.val ++ after) before.length = some d := by
  have htake : ((before ++ d.val ++ after).drop before.length).take 32 = d.val := by
    rw [List.append_assoc, List.drop_left, List.take_left' d.2]
  unfold digestAt
  rw [dif_pos (by rw [htake, d.2])]
  exact congrArg some (Subtype.ext htake)

theorem valuesOf_valuesBytes (pv : AggchainProofPublicValues) :
    valuesOf (valuesBytes pv) = some pv := by
  set tail := Bytes.beBytes 4 pv.originNetwork.toNat with htail
  have hlen : ∀ d : Digest, d.val.length = 32 := fun d => d.2
  have hprev : digestAt (valuesBytes pv) 0 = some pv.prevLocalExitRoot := by
    simpa [valuesBytes, List.append_assoc] using digestAt_append [] (pv.newLocalExitRoot.val ++
      pv.l1InfoRoot.val ++ pv.commitImportedBridgeExits.val ++ pv.aggchainParams.val ++ tail) _
  have hnew : digestAt (valuesBytes pv) 32 = some pv.newLocalExitRoot := by
    simpa [valuesBytes, List.append_assoc, hlen] using digestAt_append pv.prevLocalExitRoot.val
      (pv.l1InfoRoot.val ++ pv.commitImportedBridgeExits.val ++ pv.aggchainParams.val ++ tail) _
  have hl1 : digestAt (valuesBytes pv) 64 = some pv.l1InfoRoot := by
    simpa [valuesBytes, List.append_assoc, hlen] using digestAt_append
      (pv.prevLocalExitRoot.val ++ pv.newLocalExitRoot.val)
      (pv.commitImportedBridgeExits.val ++ pv.aggchainParams.val ++ tail) _
  have hcommit : digestAt (valuesBytes pv) 96 = some pv.commitImportedBridgeExits := by
    simpa [valuesBytes, List.append_assoc, hlen] using digestAt_append
      (pv.prevLocalExitRoot.val ++ pv.newLocalExitRoot.val ++ pv.l1InfoRoot.val)
      (pv.aggchainParams.val ++ tail) _
  have hparams : digestAt (valuesBytes pv) 128 = some pv.aggchainParams := by
    simpa [valuesBytes, List.append_assoc, hlen] using digestAt_append
      (pv.prevLocalExitRoot.val ++ pv.newLocalExitRoot.val ++ pv.l1InfoRoot.val ++
        pv.commitImportedBridgeExits.val) tail _
  have horigin : (valuesBytes pv).drop 160 = tail := List.drop_left' (by simp [hlen])
  have hnat : Bytes.ofBe tail = pv.originNetwork.toNat :=
    Bytes.ofBe_beBytes_of_lt (pv.originNetwork.toNat_lt.trans_le (by norm_num))
  rw [valuesOf, hprev, hnew, hl1, hcommit, hparams, horigin, hnat, UInt32.ofNat_toNat]
  rfl

/-- A host that reads these public values. -/
def readingHost : Host hostExt := { host with deserializePublicValues := valuesOf }

/-- The endpoints, with a prover that proves whatever the guest accepts. -/
def workingGrpc : GrpcService ⟨Digest, Bytes 65⟩ hostExt where
  service :=
    { (grpc 2 paramsSp1).service with
      aggchainProofBuilder :=
        { builder with
          proverCall := fun stdin =>
            match stdin.witness.verifyAggchainInputs quietEnv with
            | .ok pv => .ok ⟨.compressed (), valuesBytes pv⟩
            | .error _ => .error "the guest failed" } }
  bufferReady := .ok ()
  bufferWorker := .ok ()

/-- The message converts to the sample inputs. -/
theorem tryInto_message : message.tryInto = .ok proofInputs := rfl

end Sample

open Sample

end Aggchain
