import Aggchain.Guest.BridgeSound

/-!
# Aggchain.Guest.BridgeErrors — what a rejection of the bridge check says

`verify` stops at its first failing check and reports what it compared.  `Justified` says what each
error stands for, in terms of the values that the guest reads through the two sketches;
`verify_error_justified` says that no error is reported without its reason.
-/

namespace Aggchain

/-! ## Stages -/

/-- The view function behind a hash chain. -/
def HashChainType.function : HashChainType → SolFunction
  | .InsertedGER => .insertedGERHashChain
  | .ClaimedGlobalIndex => .claimedGlobalIndexHashChain
  | .RemovedGER => .removedGERHashChain
  | .UnsetGlobalIndex => .unsetGlobalIndexHashChain

theorem HashChainType.function_ne (type : HashChainType) : type.function ≠ .bridgeAddress := by
  cases type <;> simp [HashChainType.function]

namespace StaticCallStage

/-- The view function that is called at the stage. -/
def function : StaticCallStage → SolFunction
  | .prevHashChain type => type.function
  | .newHashChain type => type.function
  | .bridgeAddress => .bridgeAddress
  | .newLer => .getRoot

variable {X : Ext} (inp : BridgeConstraintsInput X)

/-- The sketch the stage runs on. -/
def sketch : StaticCallStage → X.Sketch
  | .prevHashChain _ => inp.bridgeWitness.prevL2BlockSketch
  | _ => inp.bridgeWitness.newL2BlockSketch

/-- The block the stage expects. -/
def blockHash : StaticCallStage → Digest
  | .prevHashChain _ => inp.prevL2BlockHash
  | _ => inp.newL2BlockHash

end StaticCallStage

/-- The output of the view function does not decode. -/
def SolFunction.DecodeFails {X : Ext} (E : Env X) (out : List UInt8) (source : Report) :
    SolFunction → Prop
  | .bridgeAddress => E.abiDecodeAddress out = .error source
  | _ => E.abiDecodeBytes32 out = .error source

/-- The static call on the sketch fails for the reported reason. -/
def StaticCallError.Justified {X : Ext} (E : Env X) (sketch : X.Sketch) (call : ContractInput) :
    StaticCallError → Prop
  | .clientInitialization source => E.clientExecutorEth sketch = .error source
  | .clientExecution source => E.clientExecutorEth sketch = .ok () ∧
    E.clientExecutorExecute sketch call = .error source
  | .decodeContractOutput source => E.clientExecutorEth sketch = .ok () ∧
    ∃ pv, E.clientExecutorExecute sketch call = .ok pv ∧
      call.calldata.DecodeFails E pv.contractOutput source

/-! ## One static call -/

namespace StaticCallWithContext

variable {X : Ext} {R : Type} {E : Env X} {self : StaticCallWithContext} {caller : Address}
  {sketch : X.Sketch} {c : SolCall R}

/-- A static call has one answer. -/
theorem Answers.unique {address : Address} {v v' : R} {anchor anchor' : Digest}
    (h : Answers E sketch address caller c v anchor)
    (h' : Answers E sketch address caller c v' anchor') : v = v' ∧ anchor = anchor' := by
  obtain ⟨-, out, hex, hdec⟩ := h
  obtain ⟨-, out', hex', hdec'⟩ := h'
  obtain ⟨rfl, rfl⟩ := ContractPublicValues.mk.inj (Except.ok.inj (hex.symm.trans hex'))
  exact ⟨Except.ok.inj (hdec.symm.trans hdec'), rfl⟩

/-- A static call fails in the executor, or answers at another block. -/
theorem execute_error {e : BridgeConstraintsError}
    (hdecode : ∀ out source, c.abiDecodeReturnsValidate out = .error source →
      c.function.DecodeFails E out source)
    (h : (self.execute E caller sketch c).result = .error e) :
    (∃ source, e = .staticCallError source self.stage ∧
      source.Justified E sketch ⟨self.address, caller, c.function⟩) ∨
    ∃ v retrieved, e = .mismatchBlockHash retrieved self.blockHash self.stage ∧
      Answers E sketch self.address caller c v retrieved ∧ retrieved ≠ self.blockHash := by
  simp only [execute, Traced.result_call, Except.bind_eq_error, Except.mapError_eq_error] at h
  rcases h with ⟨source, hsource, rfl⟩ | ⟨⟨v, retrieved⟩, hok, hrest⟩
  · refine Or.inl ⟨source, rfl, ?_⟩
    simp only [executeHelper, Except.bind_eq_error, Except.mapError_eq_error,
      Except.mapError_eq_ok, Except.pure_ne_error, and_false, exists_false, or_false] at hsource
    rcases hsource with ⟨r, hr, rfl⟩ | ⟨⟨⟩, heth, ⟨r, hr, rfl⟩ | ⟨pv, hpv, r, hr, rfl⟩⟩
    · exact hr
    · exact ⟨heth, hr⟩
    · exact ⟨heth, pv, hpv, hdecode _ _ hr⟩
  · have hanswer := executeHelper_ok_iff.mp (Except.mapError_eq_ok.mp hok)
    dsimp only at hrest
    split_ifs at hrest with hne
    · obtain rfl := Except.error.inj hrest
      exact Or.inr ⟨v, retrieved, rfl, hanswer, hne⟩
    · cases hrest

end StaticCallWithContext

/-! ## Counting removals -/

section Overflow

variable {K V : Type} [DecidableEq K]

/-- Some key is removed more often than a `usize` counts. -/
def Overflows (removed : List K) : Prop := ∃ k, usizeMax < removed.count k

/-- Counting goes through as long as no count passes `usize::MAX`. -/
theorem countRemovals_bounded {removed : List K} : ∀ {m m' : K → Option ℕ},
    countRemovals m removed = .ok m' → ∀ k ∈ removed, pending m k + removed.count k ≤ usizeMax := by
  induction removed with
  | nil =>
    intro m m' _ k hk
    cases hk
  | cons x rest ih =>
    intro m m' h k hk
    rw [countRemovals] at h
    split_ifs at h with hle
    have hx : pending m x + 1 ≤ usizeMax := Nat.not_lt.mp hle
    have hrest := ih h k
    by_cases hkx : k = x
    · subst hkx
      rw [List.count_cons_self]
      by_cases hmem : k ∈ rest
      · have := hrest hmem
        rw [pending_update_self] at this
        simp only [pending] at this ⊢
        omega
      · rw [List.count_eq_zero_of_not_mem hmem]
        exact hx
    · have hmem : k ∈ rest := (List.mem_cons.mp hk).resolve_left hkx
      have := hrest hmem
      rw [pending_update_of_ne m hkx] at this
      rwa [List.count_cons_of_ne (Ne.symm hkx)]

theorem countRemovals_error {removed : List K} {e : BridgeConstraintsError} :
    ∀ {m : K → Option ℕ}, countRemovals m removed = .error e → e = .hashChainOverflow := by
  induction removed with
  | nil =>
    intro m h
    cases h
  | cons x rest ih =>
    intro m h
    rw [countRemovals] at h
    split_ifs at h
    · exact (Except.error.inj h).symm
    · exact ih h

/-- **`filter_values` fails exactly on an overflow.** -/
theorem filterValues_error_iff {removed : List K} {values : List V} {keyFn : V → K}
    {e : BridgeConstraintsError} :
    filterValues removed values keyFn = .error e ↔ e = .hashChainOverflow ∧ Overflows removed := by
  simp only [filterValues, Except.bind_eq_error, reduceCtorEq, and_false, exists_false, or_false]
  constructor
  · intro h
    refine ⟨countRemovals_error h, ?_⟩
    by_contra hno
    have hfit : ∀ k, pending (fun _ : K => none) k + removed.count k ≤ usizeMax := by
      intro k
      rw [pending, Option.getD_none, Nat.zero_add]
      exact Nat.not_lt.mp fun hlt => hno ⟨k, hlt⟩
    obtain ⟨m', hok, -⟩ := countRemovals_ok hfit
    rw [hok] at h
    cases h
  · rintro ⟨rfl, k, hk⟩
    cases hcount : countRemovals (fun _ => none) removed with
    | error e => rw [countRemovals_error hcount]
    | ok m' =>
      have hmem : k ∈ removed := List.count_pos_iff.mp (by omega)
      have hle := countRemovals_bounded hcount k hmem
      omega

end Overflow

/-! ## What an error stands for -/

namespace BridgeConstraintsInput

open StaticCallWithContext (Answers)

section Meaning

variable {X : Ext} (E : Env X) (inp : BridgeConstraintsInput X)

/-- The GER manager names `bridge` at the new block. -/
def NamesBridge (bridge : Address) : Prop :=
  Answers E inp.bridgeWitness.newL2BlockSketch inp.gerAddr inp.bridgeWitness.callerAddress
    E.bridgeAddressCall bridge inp.newL2BlockHash

/-- The contract that keeps a hash chain. -/
def Keeps (address : Address) : HashChainType → Prop
  | .InsertedGER => address = inp.gerAddr
  | .RemovedGER => address = inp.gerAddr
  | .ClaimedGlobalIndex => NamesBridge E inp address
  | .UnsetGlobalIndex => NamesBridge E inp address

/-- The contract that is called at a stage. -/
def Calls (address : Address) : StaticCallStage → Prop
  | .prevHashChain type => Keeps E inp address type
  | .newHashChain type => Keeps E inp address type
  | .bridgeAddress => address = inp.gerAddr
  | .newLer => NamesBridge E inp address

/-- What the witness lists for a hash chain. -/
def listed : HashChainType → List Digest
  | .InsertedGER => inp.bridgeWitness.rawInsertedGers
  | .RemovedGER => inp.bridgeWitness.removedGers
  | .ClaimedGlobalIndex => inp.bridgeWitness.bridgeExitsClaimed.map E.claimCommitment
  | .UnsetGlobalIndex => inp.bridgeWitness.globalIndicesUnset.map U256.toBeBytes

/-- On the sketch of the stage, the contract of the stage answers `v` at the expected block. -/
def Reads (stage : StaticCallStage) (address : Address) (v : Digest) : Prop :=
  Answers E (stage.sketch inp) address inp.bridgeWitness.callerAddress
    ⟨stage.function, E.abiDecodeBytes32⟩ v (stage.blockHash inp)

/-- The reason for each error. -/
def Justified : BridgeConstraintsError → Prop
  | .staticCallError source stage => ∃ address, Calls E inp address stage ∧
    source.Justified E (stage.sketch inp)
      ⟨address, inp.bridgeWitness.callerAddress, stage.function⟩
  | .mismatchBlockHash retrieved input stage => input = stage.blockHash inp ∧ retrieved ≠ input ∧
    ∃ address, Calls E inp address stage ∧ E.clientExecutorEth (stage.sketch inp) = .ok () ∧
      ∃ out, E.clientExecutorExecute (stage.sketch inp)
        ⟨address, inp.bridgeWitness.callerAddress, stage.function⟩ = .ok ⟨out, retrieved⟩
  | .mismatchHashChain prev computed input type => ∃ address, Keeps E inp address type ∧
    Reads E inp (.prevHashChain type) address prev ∧
    Reads E inp (.newHashChain type) address input ∧
    computed = HashChain.fold E.chainStep prev (inp.listed E type) ∧ computed ≠ input
  | .mismatchNewLocalExitRoot retrieved input => input = inp.newLocalExitRoot ∧ retrieved ≠ input ∧
    ∃ bridge, NamesBridge E inp bridge ∧ Reads E inp .newLer bridge retrieved
  | .mismatchConstrainedBridgeExits computed input =>
    input = inp.commitImportedBridgeExits ∧ computed ≠ input ∧
    ∃ claims, filterValues inp.bridgeWitness.globalIndicesUnset
        inp.bridgeWitness.bridgeExitsClaimed GlobalIndexWithLeafHash.globalIndex = .ok claims ∧
      computed = E.importedBridgeExitsCommitmentV3 claims
  | .mismatchConstrainedInsertedGers computed input =>
    filterValues inp.bridgeWitness.removedGers inp.bridgeWitness.rawInsertedGers id =
      .ok computed ∧
    input = inp.bridgeWitness.insertedGers.map (InsertedGER.ger E) ∧ computed ≠ input
  -- the first inclusion proof that is wrong
  | .invalidMerklePathGERToL1Root insertedGer l1InfoLeafIndex l1InfoRoot =>
    l1InfoRoot = inp.l1InfoRoot ∧
    ∃ before wrong after, inp.bridgeWitness.insertedGers = before ++ wrong :: after ∧
      (∀ ger ∈ before, ger.verify E inp.l1InfoRoot = true) ∧
      wrong.verify E inp.l1InfoRoot = false ∧ insertedGer = wrong.ger E ∧
      l1InfoLeafIndex = wrong.l1InfoTreeLeaf.l1InfoTreeIndex
  | .hashChainOverflow => Overflows inp.bridgeWitness.removedGers ∨
    Overflows inp.bridgeWitness.globalIndicesUnset

end Meaning

section Proof

variable {X : Ext} {E : Env X} {inp : BridgeConstraintsInput X} {e : BridgeConstraintsError}

/-- A static call of the bridge check that fails. -/
theorem justified_of_execute {R : Type} (stage : StaticCallStage) {address : Address} {c : SolCall R}
    (hcalls : Calls E inp address stage) (hfunction : c.function = stage.function)
    (hdecode : ∀ out source, c.abiDecodeReturnsValidate out = .error source →
      c.function.DecodeFails E out source)
    (h : (StaticCallWithContext.execute E ⟨address, stage, stage.blockHash inp⟩
      inp.bridgeWitness.callerAddress (stage.sketch inp) c).result = .error e) :
    Justified E inp e := by
  rcases StaticCallWithContext.execute_error hdecode h with
    ⟨source, rfl, hsource⟩ | ⟨v, retrieved, rfl, ⟨heth, out, hex, -⟩, hne⟩
  · exact ⟨address, hcalls, hfunction ▸ hsource⟩
  · exact ⟨rfl, hne, address, hcalls, heth, out, hfunction ▸ hex⟩

theorem decodeFails_bytes32 {f : SolFunction} (hf : f ≠ .bridgeAddress) {out : List UInt8}
    {source : Report} (h : E.abiDecodeBytes32 out = .error source) : f.DecodeFails E out source := by
  cases f with
  | bridgeAddress => exact absurd rfl hf
  | _ => exact h

/-- The two calls of a hash chain. -/
theorem justified_of_fetch {type : HashChainType} {address : Address}
    (hkeeps : Keeps E inp address type)
    (h : (inp.fetchHashChains E type address ⟨type.function, E.abiDecodeBytes32⟩).result =
      .error e) : Justified E inp e := by
  simp only [fetchHashChains, Traced.bind_error_iff, Traced.result_pure, reduceCtorEq, and_false,
    exists_false, or_false] at h
  have hdecode : ∀ out source, E.abiDecodeBytes32 out = .error source →
      type.function.DecodeFails E out source :=
    fun out source => decodeFails_bytes32 type.function_ne
  rcases h with hprev | ⟨prev, -, hnew⟩
  · exact justified_of_execute (.prevHashChain type) hkeeps rfl hdecode hprev
  · exact justified_of_execute (.newHashChain type) hkeeps rfl hdecode hnew

/-- The comparison of a rebuilt hash chain. -/
theorem justified_of_validate {type : HashChainType} {address : Address} {p : Digest × Digest}
    (hkeeps : Keeps E inp address type)
    (hfetch : (inp.fetchHashChains E type address ⟨type.function, E.abiDecodeBytes32⟩).result =
      .ok p)
    (h : (validateHashChain E (inp.listed E type) p.1 p.2 type : Bridge X Unit).result =
      .error e) : Justified E inp e := by
  obtain ⟨hprev, hnew⟩ := fetchHashChains_ok_iff.mp hfetch
  unfold validateHashChain at h
  dsimp only at h
  split_ifs at h with hne
  obtain rfl := Except.error.inj h
  exact ⟨address, hkeeps, hprev, hnew, rfl, hne⟩

theorem justified_of_verifyGerHashChains (h : (inp.verifyGerHashChains E).result = .error e) :
    Justified E inp e := by
  have hins : Keeps E inp inp.gerAddr .InsertedGER := rfl
  have hrem : Keeps E inp inp.gerAddr .RemovedGER := rfl
  simp only [verifyGerHashChains, Traced.bind_error_iff] at h
  rcases h with h | ⟨p, hp, h | ⟨-, -, h | ⟨q, hq, h⟩⟩⟩
  · exact justified_of_fetch hins h
  · exact justified_of_validate hins hp h
  · exact justified_of_fetch hrem h
  · exact justified_of_validate hrem hq h

theorem justified_of_verifyClaimsHashChains {bridge : Address} (hbridge : NamesBridge E inp bridge)
    (h : (inp.verifyClaimsHashChains E bridge).result = .error e) : Justified E inp e := by
  have hcl : Keeps E inp bridge .ClaimedGlobalIndex := hbridge
  have hun : Keeps E inp bridge .UnsetGlobalIndex := hbridge
  simp only [verifyClaimsHashChains, Traced.bind_error_iff] at h
  rcases h with h | ⟨p, hp, h | ⟨-, -, h | ⟨q, hq, h⟩⟩⟩
  · exact justified_of_fetch hcl h
  · exact justified_of_validate hcl hp h
  · exact justified_of_fetch hun h
  · exact justified_of_validate hun hq h

theorem justified_of_verifyNewLer {bridge : Address} (hbridge : NamesBridge E inp bridge)
    (h : (inp.verifyNewLer E bridge).result = .error e) : Justified E inp e := by
  simp only [verifyNewLer, Traced.bind_error_iff] at h
  rcases h with h | ⟨newLer, hler, h⟩
  · exact justified_of_execute .newLer hbridge rfl
      (fun _ _ => decodeFails_bytes32 (f := .getRoot) (by decide)) h
  · split_ifs at h with hne
    obtain rfl := Except.error.inj h
    exact ⟨rfl, hne, bridge, hbridge, StaticCallWithContext.execute_ok_iff.mp hler⟩

theorem justified_of_verifyConstrainedGlobalIndices
    (h : (inp.verifyConstrainedGlobalIndices E).result = .error e) : Justified E inp e := by
  simp only [verifyConstrainedGlobalIndices, Traced.bind_error_iff, Traced.result_ofExcept] at h
  rcases h with h | ⟨claims, hclaims, h⟩
  · obtain ⟨rfl, hlarge⟩ := filterValues_error_iff.mp h
    exact Or.inr hlarge
  · split_ifs at h with hne
    obtain rfl := Except.error.inj h
    exact ⟨rfl, hne, claims, hclaims, rfl⟩

theorem justified_of_verifyInsertedGers (h : (inp.verifyInsertedGers E).result = .error e) :
    Justified E inp e := by
  simp only [verifyInsertedGers, Traced.bind_error_iff, Traced.result_ofExcept] at h
  rcases h with h | ⟨filtered, hfilter, h⟩
  · obtain ⟨rfl, hlarge⟩ := filterValues_error_iff.mp h
    exact Or.inl hlarge
  · split_ifs at h with hne
    · obtain rfl := Except.error.inj h
      exact ⟨hfilter, rfl, hne⟩
    · split at h
      · next wrong hwrong =>
        obtain rfl := Except.error.inj h
        obtain ⟨hbad, before, after, hsplit, hbefore⟩ := List.find?_eq_some_iff_append.mp hwrong
        refine ⟨rfl, before, wrong, after, hsplit, ?_, by simpa using hbad, rfl, rfl⟩
        intro ger hger
        simpa using hbefore ger hger
      · cases h

/-- Whatever error the bridge check stops with, its reason is there. -/
theorem justified_of_verify (h : (inp.verify E).result = .error e) : Justified E inp e := by
  simp only [verify, Traced.bind_error_iff] at h
  rcases h with h | ⟨-, -, h | ⟨bridge, hbridge, h | ⟨-, -, h | ⟨-, -, h | ⟨-, -, h⟩⟩⟩⟩⟩
  · exact justified_of_verifyGerHashChains h
  · exact justified_of_execute .bridgeAddress (c := E.bridgeAddressCall) rfl rfl
      (fun _ _ hdec => hdec) h
  · exact justified_of_verifyClaimsHashChains (StaticCallWithContext.execute_ok_iff.mp hbridge) h
  · exact justified_of_verifyNewLer (StaticCallWithContext.execute_ok_iff.mp hbridge) h
  · exact justified_of_verifyConstrainedGlobalIndices h
  · exact justified_of_verifyInsertedGers h

/-! ### No reason is left behind -/

/-- Each hash chain of an accepted input. -/
theorem Accepted.chain {bridge address : Address} {type : HashChainType}
    (h : Accepted E inp bridge) (hkeeps : Keeps E inp address type) :
    ChainChecked E inp ⟨type.function, E.abiDecodeBytes32⟩ address (inp.listed E type) := by
  cases type with
  | InsertedGER => exact hkeeps ▸ h.insertedGers
  | RemovedGER => exact hkeeps ▸ h.removedGers
  | ClaimedGlobalIndex => exact (h.bridgeAddress.unique hkeeps).1 ▸ h.claimed
  | UnsetGlobalIndex => exact (h.bridgeAddress.unique hkeeps).1 ▸ h.unset

/-- The static call of a stage goes through, at the expected block. -/
structure StageOk (E : Env X) (inp : BridgeConstraintsInput X) (stage : StaticCallStage)
    (address : Address) : Prop where
  eth : E.clientExecutorEth (stage.sketch inp) = .ok ()
  executes : ∃ out, E.clientExecutorExecute (stage.sketch inp)
      ⟨address, inp.bridgeWitness.callerAddress, stage.function⟩ = .ok ⟨out, stage.blockHash inp⟩ ∧
    ∀ source, ¬ stage.function.DecodeFails E out source

theorem stageOk_of_reads {stage : StaticCallStage} {address : Address} {v : Digest}
    (hf : stage.function ≠ .bridgeAddress) (h : Reads E inp stage address v) :
    StageOk E inp stage address := by
  obtain ⟨heth, out, hex, hdec⟩ := h
  refine ⟨heth, out, hex, fun source hfail => ?_⟩
  have hdec' : E.abiDecodeBytes32 out = .ok v := hdec
  have hfail' : E.abiDecodeBytes32 out = .error source := by
    cases hs : stage.function with
    | bridgeAddress => exact absurd hs hf
    | _ => rw [hs] at hfail; exact hfail
  rw [hdec'] at hfail'
  cases hfail'

theorem Accepted.stageOk {bridge address : Address} {stage : StaticCallStage}
    (h : Accepted E inp bridge) (hcalls : Calls E inp address stage) :
    StageOk E inp stage address := by
  cases stage with
  | prevHashChain type =>
    obtain ⟨prev, -, hprev, -, -⟩ := h.chain hcalls
    exact stageOk_of_reads type.function_ne hprev
  | newHashChain type =>
    obtain ⟨-, new, -, hnew, -⟩ := h.chain hcalls
    exact stageOk_of_reads type.function_ne hnew
  | bridgeAddress =>
    obtain rfl : address = inp.gerAddr := hcalls
    obtain ⟨heth, out, hex, hdec⟩ := h.bridgeAddress
    refine ⟨heth, out, hex, fun source hfail => ?_⟩
    have hok : E.abiDecodeAddress out = .ok bridge := hdec
    have herr : E.abiDecodeAddress out = .error source := hfail
    rw [hok] at herr
    cases herr
  | newLer =>
    obtain rfl := (h.bridgeAddress.unique hcalls).1
    exact stageOk_of_reads (by decide) h.newLer

/-- An accepted input gives no reason for an error. -/
theorem Accepted.not_justified {bridge : Address} (h : Accepted E inp bridge) :
    ¬ Justified E inp e := by
  intro hreason
  cases e with
  | staticCallError source stage =>
    obtain ⟨address, hcalls, hsource⟩ := hreason
    obtain ⟨heth, out, hex, hdec⟩ := h.stageOk hcalls
    cases source with
    | clientInitialization r =>
      have herr : E.clientExecutorEth (stage.sketch inp) = .error r := hsource
      rw [heth] at herr
      cases herr
    | clientExecution r =>
      have herr := hsource.2
      rw [hex] at herr
      cases herr
    | decodeContractOutput r =>
      obtain ⟨-, pv, hpv, hfail⟩ := hsource
      obtain rfl := Except.ok.inj (hex.symm.trans hpv)
      exact hdec r hfail
  | mismatchBlockHash retrieved input stage =>
    obtain ⟨rfl, hne, address, hcalls, -, out', hex'⟩ := hreason
    obtain ⟨-, out, hex, -⟩ := h.stageOk hcalls
    have heq := Except.ok.inj (hex'.symm.trans hex)
    exact hne (ContractPublicValues.mk.inj heq).2
  | mismatchHashChain prev computed input type =>
    obtain ⟨address, hkeeps, hprev, hnew, rfl, hne⟩ := hreason
    obtain ⟨prev', new', hprev', hnew', hfold⟩ := h.chain hkeeps
    obtain rfl := (hprev.unique hprev').1
    obtain rfl := (hnew.unique hnew').1
    exact hne hfold
  | mismatchNewLocalExitRoot retrieved input =>
    obtain ⟨rfl, hne, address, hnames, hler⟩ := hreason
    obtain rfl := (h.bridgeAddress.unique hnames).1
    exact hne (hler.unique h.newLer).1
  | mismatchConstrainedBridgeExits computed input =>
    obtain ⟨rfl, hne, claims, hclaims, rfl⟩ := hreason
    obtain ⟨claims', hclaims', hcommit⟩ := h.exits
    obtain rfl := Except.ok.inj (hclaims.symm.trans hclaims')
    exact hne hcommit
  | mismatchConstrainedInsertedGers computed input =>
    obtain ⟨hfilter, rfl, hne⟩ := hreason
    exact hne (Except.ok.inj (hfilter.symm.trans h.gers))
  | invalidMerklePathGERToL1Root ger index root =>
    obtain ⟨-, before, wrong, after, hsplit, -, hwrong, -, -⟩ := hreason
    have hmem : wrong ∈ inp.bridgeWitness.insertedGers := by
      rw [hsplit]
      simp
    rw [h.proofs wrong hmem] at hwrong
    cases hwrong
  | hashChainOverflow =>
    rcases hreason with hlarge | hlarge
    · have herr : filterValues inp.bridgeWitness.removedGers inp.bridgeWitness.rawInsertedGers id =
          .error .hashChainOverflow := filterValues_error_iff.mpr ⟨rfl, hlarge⟩
      rw [h.gers] at herr
      cases herr
    · obtain ⟨claims, hclaims, -⟩ := h.exits
      have herr : filterValues inp.bridgeWitness.globalIndicesUnset
          inp.bridgeWitness.bridgeExitsClaimed GlobalIndexWithLeafHash.globalIndex =
          .error .hashChainOverflow := filterValues_error_iff.mpr ⟨rfl, hlarge⟩
      rw [hclaims] at herr
      cases herr

/-- **Rejections are justified, and reasons are not passed over.**  An error of the bridge check
comes with its reason: the values it reports were read at the expected blocks, or computed from the
witness, and differ.  And where there is a reason for any error, the check fails. -/
theorem verify_error_justified (E : Env X) (inp : BridgeConstraintsInput X) :
    (∀ e, (inp.verify E).result = .error e → Justified E inp e) ∧
    ((∃ e, (inp.verify E).result = .error e) ↔ ∃ e, Justified E inp e) := by
  refine ⟨fun e => justified_of_verify, ?_, ?_⟩
  · rintro ⟨e, he⟩
    exact ⟨e, justified_of_verify he⟩
  · rintro ⟨e, hreason⟩
    cases hresult : (inp.verify E).result with
    | error e' => exact ⟨e', rfl⟩
    | ok u =>
      obtain ⟨bridge, hacc⟩ := verify_ok_iff.mp hresult
      exact absurd hreason hacc.not_justified

end Proof

end BridgeConstraintsInput

open Sample

/-- The sample range with another local exit root: the root of the bridge is reported. -/
theorem verify_error_justified_ler :
    let tampered := { input with newLocalExitRoot := Bytes.ofNat 32 0 }
    (tampered.verify env).result =
      .error (.mismatchNewLocalExitRoot (Bytes.ofNat 32 0x1e7) (Bytes.ofNat 32 0)) ∧
    ∃ bridge, BridgeConstraintsInput.NamesBridge env tampered bridge ∧
      BridgeConstraintsInput.Reads env tampered .newLer bridge (Bytes.ofNat 32 0x1e7) := by
  intro tampered
  have herror : (tampered.verify env).result =
      .error (.mismatchNewLocalExitRoot (Bytes.ofNat 32 0x1e7) (Bytes.ofNat 32 0)) := by
    decide +kernel
  obtain ⟨-, -, hreads⟩ :=
    (BridgeConstraintsInput.verify_error_justified env tampered).1 _ herror
  exact ⟨herror, hreads⟩

end Aggchain
