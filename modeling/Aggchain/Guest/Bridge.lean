import Aggchain.Guest.FilterValues
import Aggchain.Lib.HashChain

/-!
# Aggchain.Guest.Bridge — the bridge constraints (`bridge/mod.rs`, `bridge/inserted_ger.rs`)

`BridgeConstraintsInput::verify` reads four hash chains at two L2 blocks through static calls,
rebuilds them from the witness lists, compares the new local exit root and the commitment to the
imported bridge exits, and checks the L1 inclusion of every inserted GER that was not removed.

`verify_ok_iff` is its specification: it succeeds exactly when `Accepted` holds for the bridge
address the GER manager names at the new block.
-/

namespace Aggchain

/-- Address of the `GlobalExitRootManagerL2SovereignChain` contract. -/
def L2_GER_ADDR : Address :=
  ⟨[0xa4, 0x0d, 0x5f, 0x56, 0x74, 0x5a, 0x11, 0x8d, 0x09, 0x06, 0xa3, 0x4e, 0x69, 0xae, 0xc8, 0xc0,
    0xdb, 0x1c, 0xb8, 0xfa], rfl⟩

/-- Data to verify the legitimacy of one inserted GER. -/
structure InsertedGER where
  proof : MerkleProof
  l1InfoTreeLeaf : L1InfoTreeLeaf
  blockNumber : UInt64
  blockIndex : UInt64
  deriving DecidableEq

namespace InsertedGER

variable {X : Ext} (E : Env X) (self : InsertedGER)

/-- Verify the inclusion proof against one L1 info root. -/
def verify (l1InfoRoot : Digest) : Bool :=
  if l1InfoRoot ≠ self.proof.root then false
  else E.merkleProofVerify self.proof (E.l1InfoTreeLeafHash self.l1InfoTreeLeaf)
    self.l1InfoTreeLeaf.l1InfoTreeIndex

/-- The inserted GER. -/
def ger : Digest := E.l1InfoTreeLeafGer self.l1InfoTreeLeaf

theorem verify_eq_true_iff {E : Env X} {self : InsertedGER} {root : Digest} :
    self.verify E root = true ↔ self.proof.root = root ∧
      E.merkleProofVerify self.proof (E.l1InfoTreeLeafHash self.l1InfoTreeLeaf)
        self.l1InfoTreeLeaf.l1InfoTreeIndex = true := by
  unfold verify
  by_cases h : root = self.proof.root
  · simp [h]
  · rw [if_pos h]
    simp [Ne.symm h]

end InsertedGER

/-- Bridge data required to verify the `BridgeConstraintsInput` integrity. -/
structure BridgeWitness (X : Ext) where
  insertedGers : List InsertedGER
  /-- the inserted GERs, the removed ones included -/
  rawInsertedGers : List Digest
  removedGers : List Digest
  bridgeExitsClaimed : List GlobalIndexWithLeafHash
  globalIndicesUnset : List U256
  prevL2BlockSketch : X.Sketch
  newL2BlockSketch : X.Sketch
  callerAddress : Address

structure BridgeConstraintsInput (X : Ext) where
  gerAddr : Address
  prevL2BlockHash : Digest
  newL2BlockHash : Digest
  newLocalExitRoot : Digest
  l1InfoRoot : Digest
  commitImportedBridgeExits : Digest
  bridgeWitness : BridgeWitness X

namespace BridgeConstraintsInput

section Model

variable {X : Ext} (E : Env X) (self : BridgeConstraintsInput X)

def fetchHashChains {R : Type} (hashChain : HashChainType) (address : Address)
    (calldata : SolCall R) : Bridge X (R × R) := do
  let prevHashChain ← StaticCallWithContext.execute E
    ⟨address, .prevHashChain hashChain, self.prevL2BlockHash⟩
    self.bridgeWitness.callerAddress self.bridgeWitness.prevL2BlockSketch calldata
  let newHashChain ← StaticCallWithContext.execute E
    ⟨address, .newHashChain hashChain, self.newL2BlockHash⟩
    self.bridgeWitness.callerAddress self.bridgeWitness.newL2BlockSketch calldata
  pure (prevHashChain, newHashChain)

/-- Validate that the rebuilt hash chain is equal to the new hash chain. -/
def validateHashChain (hashes : List Digest) (prevHashChain newHashChain : Digest)
    (hashChainType : HashChainType) : Bridge X Unit :=
  let rebuiltHashChain := HashChain.fold E.chainStep prevHashChain hashes
  if rebuiltHashChain ≠ newHashChain then
    .fail (.mismatchHashChain prevHashChain rebuiltHashChain newHashChain hashChainType)
  else pure ()

/-- The hash chains on inserted and on removed GERs. -/
def verifyGerHashChains : Bridge X Unit := do
  let inserted ← self.fetchHashChains E .InsertedGER self.gerAddr E.insertedGERHashChainCall
  validateHashChain E self.bridgeWitness.rawInsertedGers inserted.1 inserted.2 .InsertedGER
  let removed ← self.fetchHashChains E .RemovedGER self.gerAddr E.removedGERHashChainCall
  validateHashChain E self.bridgeWitness.removedGers removed.1 removed.2 .RemovedGER

/-- The hash chains on claimed and on unset global indices. -/
def verifyClaimsHashChains (bridgeAddress : Address) : Bridge X Unit := do
  let claimed ← self.fetchHashChains E .ClaimedGlobalIndex bridgeAddress
    E.claimedGlobalIndexHashChainCall
  let claims := self.bridgeWitness.bridgeExitsClaimed.map E.claimCommitment
  validateHashChain E claims claimed.1 claimed.2 .ClaimedGlobalIndex
  let unset ← self.fetchHashChains E .UnsetGlobalIndex bridgeAddress
    E.unsetGlobalIndexHashChainCall
  let unsetClaims := self.bridgeWitness.globalIndicesUnset.map U256.toBeBytes
  validateHashChain E unsetClaims unset.1 unset.2 .UnsetGlobalIndex

/-- Verify the new local exit root. -/
def verifyNewLer (bridgeAddress : Address) : Bridge X Unit := do
  let newLer ← StaticCallWithContext.execute E ⟨bridgeAddress, .newLer, self.newL2BlockHash⟩
    self.bridgeWitness.callerAddress self.bridgeWitness.newL2BlockSketch E.getRootCall
  if newLer ≠ self.newLocalExitRoot then
    .fail (.mismatchNewLocalExitRoot newLer self.newLocalExitRoot)
  else pure ()

/-- Fetch the bridge address through a static call. -/
def fetchBridgeAddress : Bridge X Address :=
  StaticCallWithContext.execute E ⟨self.gerAddr, .bridgeAddress, self.newL2BlockHash⟩
    self.bridgeWitness.callerAddress self.bridgeWitness.newL2BlockSketch E.bridgeAddressCall

/-- The claimed global indices minus the unset ones are the constrained global indices. -/
def verifyConstrainedGlobalIndices : Bridge X Unit := do
  let claims ← .ofExcept (filterValues self.bridgeWitness.globalIndicesUnset
    self.bridgeWitness.bridgeExitsClaimed GlobalIndexWithLeafHash.globalIndex)
  let computedCommitment := E.importedBridgeExitsCommitmentV3 claims
  if computedCommitment ≠ self.commitImportedBridgeExits then
    .fail (.mismatchConstrainedBridgeExits computedCommitment self.commitImportedBridgeExits)
  else pure ()

/-- Verify the inclusion proofs of the inserted GERs up to the L1 info root. -/
def verifyInsertedGers : Bridge X Unit := do
  let filteredHashChainGers ← .ofExcept (filterValues self.bridgeWitness.removedGers
    self.bridgeWitness.rawInsertedGers id)
  let insertedGersCompare := self.bridgeWitness.insertedGers.map (InsertedGER.ger E)
  if filteredHashChainGers ≠ insertedGersCompare then
    .fail (.mismatchConstrainedInsertedGers filteredHashChainGers insertedGersCompare)
  else
    match self.bridgeWitness.insertedGers.find? (fun ger => !ger.verify E self.l1InfoRoot) with
    | some wrongGer => .fail (.invalidMerklePathGERToL1Root (wrongGer.ger E)
        wrongGer.l1InfoTreeLeaf.l1InfoTreeIndex self.l1InfoRoot)
    | none => pure ()

/-- Verify the bridge state. -/
def verify : Bridge X Unit := do
  self.verifyGerHashChains E
  let bridgeAddress ← self.fetchBridgeAddress E
  self.verifyClaimsHashChains E bridgeAddress
  self.verifyNewLer E bridgeAddress
  self.verifyConstrainedGlobalIndices E
  self.verifyInsertedGers E

end Model

/-! ## Specification -/

section Spec

variable {X : Ext} (E : Env X) (inp : BridgeConstraintsInput X)

open StaticCallWithContext (Answers)

/-- The elements `hashes` lead from the chain value on the previous sketch to the one on the new
sketch, each sketch being anchored at its block. -/
def ChainChecked (c : SolCall Digest) (address : Address) (hashes : List Digest) : Prop :=
  ∃ prev new,
    Answers E inp.bridgeWitness.prevL2BlockSketch address inp.bridgeWitness.callerAddress c
      prev inp.prevL2BlockHash ∧
    Answers E inp.bridgeWitness.newL2BlockSketch address inp.bridgeWitness.callerAddress c
      new inp.newL2BlockHash ∧
    HashChain.fold E.chainStep prev hashes = new

/-- Everything a successful `verify` has checked. -/
structure Accepted (bridge : Address) : Prop where
  insertedGers : ChainChecked E inp E.insertedGERHashChainCall inp.gerAddr
    inp.bridgeWitness.rawInsertedGers
  removedGers : ChainChecked E inp E.removedGERHashChainCall inp.gerAddr
    inp.bridgeWitness.removedGers
  bridgeAddress : Answers E inp.bridgeWitness.newL2BlockSketch inp.gerAddr
    inp.bridgeWitness.callerAddress E.bridgeAddressCall bridge inp.newL2BlockHash
  claimed : ChainChecked E inp E.claimedGlobalIndexHashChainCall bridge
    (inp.bridgeWitness.bridgeExitsClaimed.map E.claimCommitment)
  unset : ChainChecked E inp E.unsetGlobalIndexHashChainCall bridge
    (inp.bridgeWitness.globalIndicesUnset.map U256.toBeBytes)
  newLer : Answers E inp.bridgeWitness.newL2BlockSketch bridge inp.bridgeWitness.callerAddress
    E.getRootCall inp.newLocalExitRoot inp.newL2BlockHash
  exits : ∃ claims, filterValues inp.bridgeWitness.globalIndicesUnset
      inp.bridgeWitness.bridgeExitsClaimed GlobalIndexWithLeafHash.globalIndex = .ok claims ∧
    E.importedBridgeExitsCommitmentV3 claims = inp.commitImportedBridgeExits
  gers : filterValues inp.bridgeWitness.removedGers inp.bridgeWitness.rawInsertedGers id =
    .ok (inp.bridgeWitness.insertedGers.map (InsertedGER.ger E))
  proofs : ∀ ger ∈ inp.bridgeWitness.insertedGers, ger.verify E inp.l1InfoRoot = true

variable {E inp}

theorem fetchHashChains_ok_iff {R : Type} {t : HashChainType} {address : Address} {c : SolCall R}
    {p : R × R} : (inp.fetchHashChains E t address c).result = .ok p ↔
      Answers E inp.bridgeWitness.prevL2BlockSketch address inp.bridgeWitness.callerAddress c p.1
        inp.prevL2BlockHash ∧
      Answers E inp.bridgeWitness.newL2BlockSketch address inp.bridgeWitness.callerAddress c p.2
        inp.newL2BlockHash := by
  simp only [fetchHashChains, Traced.bind_ok_iff, StaticCallWithContext.execute_ok_iff,
    Traced.result_pure, Except.ok.injEq]
  constructor
  · rintro ⟨a, ha, b, hb, rfl⟩
    exact ⟨ha, hb⟩
  · rintro ⟨ha, hb⟩
    exact ⟨p.1, ha, p.2, hb, rfl⟩

theorem validateHashChain_ok_iff {hashes : List Digest} {prev new : Digest} {t : HashChainType}
    {u : Unit} :
    (validateHashChain E hashes prev new t : Bridge X Unit).result = .ok u ↔
      HashChain.fold E.chainStep prev hashes = new := by
  unfold validateHashChain
  by_cases h : HashChain.fold E.chainStep prev hashes = new
  · simp [h]
  · simp [h]

theorem verifyGerHashChains_ok_iff {u : Unit} : (inp.verifyGerHashChains E).result = .ok u ↔
    ChainChecked E inp E.insertedGERHashChainCall inp.gerAddr
      inp.bridgeWitness.rawInsertedGers ∧
    ChainChecked E inp E.removedGERHashChainCall inp.gerAddr inp.bridgeWitness.removedGers := by
  simp only [verifyGerHashChains, Traced.bind_ok_iff, fetchHashChains_ok_iff,
    validateHashChain_ok_iff, ChainChecked, Prod.exists]
  constructor
  · rintro ⟨p, n, ⟨hp, hn⟩, -, hfold, p', n', ⟨hp', hn'⟩, hfold'⟩
    exact ⟨⟨p, n, hp, hn, hfold⟩, p', n', hp', hn', hfold'⟩
  · rintro ⟨⟨p, n, hp, hn, hfold⟩, p', n', hp', hn', hfold'⟩
    exact ⟨p, n, ⟨hp, hn⟩, (), hfold, p', n', ⟨hp', hn'⟩, hfold'⟩

theorem verifyClaimsHashChains_ok_iff {bridge : Address} {u : Unit} :
    (inp.verifyClaimsHashChains E bridge).result = .ok u ↔
      ChainChecked E inp E.claimedGlobalIndexHashChainCall bridge
        (inp.bridgeWitness.bridgeExitsClaimed.map E.claimCommitment) ∧
      ChainChecked E inp E.unsetGlobalIndexHashChainCall bridge
        (inp.bridgeWitness.globalIndicesUnset.map U256.toBeBytes) := by
  simp only [verifyClaimsHashChains, Traced.bind_ok_iff, fetchHashChains_ok_iff,
    validateHashChain_ok_iff, ChainChecked, Prod.exists]
  constructor
  · rintro ⟨p, n, ⟨hp, hn⟩, -, hfold, p', n', ⟨hp', hn'⟩, hfold'⟩
    exact ⟨⟨p, n, hp, hn, hfold⟩, p', n', hp', hn', hfold'⟩
  · rintro ⟨⟨p, n, hp, hn, hfold⟩, p', n', hp', hn', hfold'⟩
    exact ⟨p, n, ⟨hp, hn⟩, (), hfold, p', n', ⟨hp', hn'⟩, hfold'⟩

theorem verifyNewLer_ok_iff {bridge : Address} {u : Unit} : (inp.verifyNewLer E bridge).result = .ok u ↔
    Answers E inp.bridgeWitness.newL2BlockSketch bridge inp.bridgeWitness.callerAddress
      E.getRootCall inp.newLocalExitRoot inp.newL2BlockHash := by
  simp only [verifyNewLer, Traced.bind_ok_iff, StaticCallWithContext.execute_ok_iff]
  constructor
  · rintro ⟨v, hv, hrest⟩
    by_cases h : v = inp.newLocalExitRoot
    · exact h ▸ hv
    · rw [if_pos h] at hrest
      cases hrest
  · exact fun h => ⟨_, h, by simp⟩

theorem verifyConstrainedGlobalIndices_ok_iff {u : Unit} :
    (inp.verifyConstrainedGlobalIndices E).result = .ok u ↔
      ∃ claims, filterValues inp.bridgeWitness.globalIndicesUnset
          inp.bridgeWitness.bridgeExitsClaimed GlobalIndexWithLeafHash.globalIndex = .ok claims ∧
        E.importedBridgeExitsCommitmentV3 claims = inp.commitImportedBridgeExits := by
  simp only [verifyConstrainedGlobalIndices, Traced.bind_ok_iff, Traced.result_ofExcept]
  refine exists_congr fun claims => and_congr_right fun _ => ?_
  by_cases h : E.importedBridgeExitsCommitmentV3 claims = inp.commitImportedBridgeExits
  · simp [h]
  · simp [h]

theorem verifyInsertedGers_ok_iff {u : Unit} : (inp.verifyInsertedGers E).result = .ok u ↔
    filterValues inp.bridgeWitness.removedGers inp.bridgeWitness.rawInsertedGers id =
      .ok (inp.bridgeWitness.insertedGers.map (InsertedGER.ger E)) ∧
    ∀ ger ∈ inp.bridgeWitness.insertedGers, ger.verify E inp.l1InfoRoot = true := by
  simp only [verifyInsertedGers, Traced.bind_ok_iff, Traced.result_ofExcept]
  constructor
  · rintro ⟨filtered, hfilter, hrest⟩
    by_cases h : filtered = inp.bridgeWitness.insertedGers.map (InsertedGER.ger E)
    · subst h
      rw [if_neg (by simp)] at hrest
      refine ⟨hfilter, ?_⟩
      -- no inserted GER was found to be wrong
      cases hfind : inp.bridgeWitness.insertedGers.find? (fun g => !g.verify E inp.l1InfoRoot) with
      | some g => rw [hfind] at hrest; cases hrest
      | none => simpa using List.find?_eq_none.mp hfind
    · rw [if_pos h] at hrest
      cases hrest
  · rintro ⟨hfilter, hproofs⟩
    refine ⟨_, hfilter, ?_⟩
    rw [if_neg (by simp), List.find?_eq_none.mpr (by simpa using hproofs)]
    rfl

/-- **Specification of `verify`.** -/
theorem verify_ok_iff : (inp.verify E).result = .ok () ↔ ∃ bridge, Accepted E inp bridge := by
  simp only [verify, Traced.bind_ok_iff, verifyGerHashChains_ok_iff, fetchBridgeAddress,
    StaticCallWithContext.execute_ok_iff, verifyClaimsHashChains_ok_iff, verifyNewLer_ok_iff,
    verifyConstrainedGlobalIndices_ok_iff, verifyInsertedGers_ok_iff]
  constructor
  · rintro ⟨-, ⟨hins, hrem⟩, bridge, hbridge, -, ⟨hcl, hun⟩, -, hler, -, hexits, hgers, hproofs⟩
    exact ⟨bridge, hins, hrem, hbridge, hcl, hun, hler, hexits, hgers, hproofs⟩
  · rintro ⟨bridge, h⟩
    exact ⟨(), ⟨h.insertedGers, h.removedGers⟩, bridge, h.bridgeAddress, (), ⟨h.claimed, h.unset⟩,
      (), h.newLer, (), h.exits, h.gers, h.proofs⟩

end Spec

/-! ## The static calls it makes -/

section Calls

variable {X : Ext} {E : Env X} {inp : BridgeConstraintsInput X} {S : Set (StaticCall X)}

/-- The two static calls of one hash chain are in `S`. -/
def ChainCallsIn (inp : BridgeConstraintsInput X) (S : Set (StaticCall X)) (address : Address)
    (f : SolFunction) : Prop :=
  ⟨inp.bridgeWitness.prevL2BlockSketch, ⟨address, inp.bridgeWitness.callerAddress, f⟩⟩ ∈ S ∧
    ⟨inp.bridgeWitness.newL2BlockSketch, ⟨address, inp.bridgeWitness.callerAddress, f⟩⟩ ∈ S

theorem calls_fetchHashChains {R : Type} {t : HashChainType} {address : Address} {c : SolCall R}
    (h : ChainCallsIn inp S address c.function) :
    ∀ call ∈ (inp.fetchHashChains E t address c).calls, call ∈ S := by
  refine Traced.calls_bind_subset (StaticCallWithContext.calls_execute_subset h.1) fun _ _ => ?_
  exact Traced.calls_bind_subset (StaticCallWithContext.calls_execute_subset h.2) fun _ _ => by simp

@[simp] theorem calls_validateHashChain {hashes : List Digest} {prev new : Digest}
    {t : HashChainType} : (validateHashChain E hashes prev new t : Bridge X Unit).calls = [] := by
  unfold validateHashChain
  dsimp only
  split_ifs <;> rfl

theorem calls_verifyGerHashChains (hins : ChainCallsIn inp S inp.gerAddr .insertedGERHashChain)
    (hrem : ChainCallsIn inp S inp.gerAddr .removedGERHashChain) :
    ∀ call ∈ (inp.verifyGerHashChains E).calls, call ∈ S := by
  refine Traced.calls_bind_subset (calls_fetchHashChains hins) fun _ _ => ?_
  refine Traced.calls_bind_subset (by simp) fun _ _ => ?_
  exact Traced.calls_bind_subset (calls_fetchHashChains hrem) fun _ _ => by simp

theorem calls_verifyClaimsHashChains {bridge : Address}
    (hcl : ChainCallsIn inp S bridge .claimedGlobalIndexHashChain)
    (hun : ChainCallsIn inp S bridge .unsetGlobalIndexHashChain) :
    ∀ call ∈ (inp.verifyClaimsHashChains E bridge).calls, call ∈ S := by
  refine Traced.calls_bind_subset (calls_fetchHashChains hcl) fun _ _ => ?_
  refine Traced.calls_bind_subset (by simp) fun _ _ => ?_
  exact Traced.calls_bind_subset (calls_fetchHashChains hun) fun _ _ => by simp

theorem calls_verifyNewLer {bridge : Address}
    (hroot : ⟨inp.bridgeWitness.newL2BlockSketch,
      ⟨bridge, inp.bridgeWitness.callerAddress, .getRoot⟩⟩ ∈ S) :
    ∀ call ∈ (inp.verifyNewLer E bridge).calls, call ∈ S := by
  refine Traced.calls_bind_subset (StaticCallWithContext.calls_execute_subset hroot) fun _ _ => ?_
  split_ifs <;> simp

@[simp] theorem calls_verifyConstrainedGlobalIndices :
    (inp.verifyConstrainedGlobalIndices E).calls = [] := by
  refine List.eq_nil_iff_forall_not_mem.mpr ?_
  refine Traced.calls_bind_subset (S := fun _ => False) (by simp) fun _ _ => ?_
  dsimp only
  split_ifs <;> simp

@[simp] theorem calls_verifyInsertedGers : (inp.verifyInsertedGers E).calls = [] := by
  refine List.eq_nil_iff_forall_not_mem.mpr ?_
  refine Traced.calls_bind_subset (S := fun _ => False) (by simp) fun _ _ => ?_
  dsimp only
  split_ifs with h
  · simp
  · split <;> simp

/-- **The static calls of `verify`**: the GER chains and the bridge address on the GER manager, then
the claim chains and the root on the bridge that was named. -/
theorem calls_verify (hins : ChainCallsIn inp S inp.gerAddr .insertedGERHashChain)
    (hrem : ChainCallsIn inp S inp.gerAddr .removedGERHashChain)
    (haddr : ⟨inp.bridgeWitness.newL2BlockSketch,
      ⟨inp.gerAddr, inp.bridgeWitness.callerAddress, .bridgeAddress⟩⟩ ∈ S)
    (hbridge : ∀ bridge, (inp.fetchBridgeAddress E).result = .ok bridge →
      ChainCallsIn inp S bridge .claimedGlobalIndexHashChain ∧
      ChainCallsIn inp S bridge .unsetGlobalIndexHashChain ∧
      ⟨inp.bridgeWitness.newL2BlockSketch,
        ⟨bridge, inp.bridgeWitness.callerAddress, .getRoot⟩⟩ ∈ S) :
    ∀ call ∈ (inp.verify E).calls, call ∈ S := by
  refine Traced.calls_bind_subset (calls_verifyGerHashChains hins hrem) fun _ _ => ?_
  refine Traced.calls_bind_subset (StaticCallWithContext.calls_execute_subset haddr)
    fun bridge hok => ?_
  obtain ⟨hcl, hun, hroot⟩ := hbridge bridge hok
  refine Traced.calls_bind_subset (calls_verifyClaimsHashChains hcl hun) fun _ _ => ?_
  refine Traced.calls_bind_subset (calls_verifyNewLer hroot) fun _ _ => ?_
  exact Traced.calls_bind_subset (by simp) fun _ _ => by simp

/-- The first static call is always made. -/
theorem first_call_mem : ⟨inp.bridgeWitness.prevL2BlockSketch,
    ⟨inp.gerAddr, inp.bridgeWitness.callerAddress, .insertedGERHashChain⟩⟩ ∈
      (inp.verify E).calls := by
  refine Traced.calls_subset_bind _ _ ?_
  refine Traced.calls_subset_bind _ _ ?_
  refine Traced.calls_subset_bind _ _ ?_
  exact List.mem_singleton.mpr rfl

end Calls

end BridgeConstraintsInput

end Aggchain
