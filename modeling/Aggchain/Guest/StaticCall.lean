import Aggchain.External
import Aggchain.Lib.Fallible

/-!
# Aggchain.Guest.StaticCall — `bridge/static_call.rs` and the bridge errors

A static call runs one view function of a contract on a state sketch and checks that the sketch is
anchored at the expected block.  `execute` logs the sketch and the call it is run on; the log is
what the host has to have prepared (`Aggchain.Host.Erigon`).
-/

namespace Aggchain

/-- Context giver about the stage of the error. -/
inductive HashChainType where
  | InsertedGER
  | ClaimedGlobalIndex
  | RemovedGER
  | UnsetGlobalIndex
  deriving DecidableEq

/-- Context giver about the stage of the error. -/
inductive StaticCallStage where
  | prevHashChain (type : HashChainType)
  | newHashChain (type : HashChainType)
  | bridgeAddress
  | newLer
  deriving DecidableEq

inductive StaticCallError where
  | clientInitialization (source : Report)
  | clientExecution (source : Report)
  | decodeContractOutput (source : Report)
  deriving DecidableEq

inductive BridgeConstraintsError where
  | invalidMerklePathGERToL1Root (insertedGer : Digest) (l1InfoLeafIndex : UInt32)
      (l1InfoRoot : Digest)
  | mismatchBlockHash (retrieved input : Digest) (stage : StaticCallStage)
  | mismatchHashChain (prevHashChain computed input : Digest) (hashChainType : HashChainType)
  | mismatchNewLocalExitRoot (retrieved input : Digest)
  | mismatchConstrainedBridgeExits (computed input : Digest)
  | mismatchConstrainedInsertedGers (computed input : List Digest)
  | staticCallError (source : StaticCallError) (stage : StaticCallStage)
  | hashChainOverflow
  deriving DecidableEq

/-- One executed static call: the sketch it ran on and its input. -/
structure StaticCall (X : Ext) where
  sketch : X.Sketch
  input : ContractInput

structure StaticCallWithContext where
  address : Address
  stage : StaticCallStage
  blockHash : Digest

/-- The bridge checks: they fail with a `BridgeConstraintsError` and log their static calls. -/
abbrev Bridge (X : Ext) := Traced BridgeConstraintsError (StaticCall X)

namespace StaticCallWithContext

variable {X : Ext} {R : Type} (E : Env X) (self : StaticCallWithContext)

/-- The decoded output values and the block hash of a static call. -/
def executeHelper (stateSketch : X.Sketch) (calldata : SolCall R) (callerAddress : Address) :
    Except StaticCallError (R × Digest) := do
  (E.clientExecutorEth stateSketch).mapError .clientInitialization
  let ccPublicValues ← (E.clientExecutorExecute stateSketch
    ⟨self.address, callerAddress, calldata.function⟩).mapError .clientExecution
  let decodedContractOutput ← (calldata.abiDecodeReturnsValidate
    ccPublicValues.contractOutput).mapError .decodeContractOutput
  pure (decodedContractOutput, ccPublicValues.anchorHash)

/-- The decoded output values of a static call. -/
def execute (callerAddress : Address) (stateSketch : X.Sketch) (calldata : SolCall R) :
    Bridge X R :=
  Traced.call ⟨stateSketch, ⟨self.address, callerAddress, calldata.function⟩⟩ do
    let (decodedReturn, retrievedBlockHash) ←
      (self.executeHelper E stateSketch calldata callerAddress).mapError
        (fun e => .staticCallError e self.stage)
    -- check on block hash
    if retrievedBlockHash ≠ self.blockHash then
      .error (.mismatchBlockHash retrievedBlockHash self.blockHash self.stage)
    else pure decodedReturn

/-- On `sketch`, the call `c` to `address` answers `v`, at the block `anchor`. -/
def Answers (sketch : X.Sketch) (address caller : Address) (c : SolCall R) (v : R)
    (anchor : Digest) : Prop :=
  E.clientExecutorEth sketch = .ok () ∧
    ∃ out, E.clientExecutorExecute sketch ⟨address, caller, c.function⟩ = .ok ⟨out, anchor⟩ ∧
      c.abiDecodeReturnsValidate out = .ok v

variable {E self} {caller : Address} {sketch : X.Sketch} {c : SolCall R} {v : R}

theorem executeHelper_ok_iff {anchor : Digest} :
    self.executeHelper E sketch c caller = .ok (v, anchor) ↔
      Answers E sketch self.address caller c v anchor := by
  simp only [executeHelper, Answers, Except.bind_eq_ok, Except.mapError_eq_ok, Except.pure_eq_ok,
    Prod.mk.injEq]
  constructor
  · rintro ⟨u, heth, ⟨out, a⟩, hex, w, hdec, rfl, rfl⟩
    exact ⟨heth, out, hex, hdec⟩
  · rintro ⟨heth, out, hex, hdec⟩
    exact ⟨(), heth, ⟨out, anchor⟩, hex, v, hdec, rfl, rfl⟩

/-- A static call succeeds exactly when it answers at the expected block. -/
theorem execute_ok_iff : (self.execute E caller sketch c).result = .ok v ↔
    Answers E sketch self.address caller c v self.blockHash := by
  simp only [execute, Traced.result_call, Except.bind_eq_ok, Except.mapError_eq_ok]
  constructor
  · rintro ⟨⟨w, a⟩, hhelp, hrest⟩
    obtain ⟨ha, hw⟩ := Except.ite_error_eq_ok.mp hrest
    obtain rfl : a = self.blockHash := not_not.mp ha
    obtain rfl := Except.pure_eq_ok.mp hw
    exact executeHelper_ok_iff.mp hhelp
  · intro h
    exact ⟨(v, self.blockHash), executeHelper_ok_iff.mpr h, by simp⟩

@[simp] theorem calls_execute : (self.execute E caller sketch c).calls =
    [⟨sketch, ⟨self.address, caller, c.function⟩⟩] := rfl

theorem calls_execute_subset {S : Set (StaticCall X)}
    (h : ⟨sketch, ⟨self.address, caller, c.function⟩⟩ ∈ S) :
    ∀ call ∈ (self.execute E caller sketch c).calls, call ∈ S := by
  intro call hcall
  rw [calls_execute, List.mem_singleton] at hcall
  exact hcall ▸ h

end StaticCallWithContext

end Aggchain
