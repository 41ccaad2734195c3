import Aggchain.Guest.BridgeSound
import Aggchain.Guest.FullExecutionProof

/-!
# Aggchain.Guest.Proof — the aggchain program (`proof.rs`)

The guest checks the full execution proof (or the sequencer's signature) and the bridge
constraints, and commits to public values.  Two questions about what these values bind:

* the chain parameters determine the inputs they are built from, and with them whether the witness
  was accepted by signature or by proof;
* the block hashes the bridge was checked at are in none of the public values: they are determined
  exactly when the static calls answer for the same root and commitment at no other pair of blocks,
  which is never the case without net claims.
-/

namespace Aggchain

structure AggchainProofWitness (X : Ext) where
  prevLocalExitRoot : Digest
  newLocalExitRoot : Digest
  /-- L1 info root used to import bridge exits -/
  l1InfoRoot : Digest
  originNetwork : UInt32
  fep : FepInputs X
  /-- commitment on the imported bridge exits minus the unset ones -/
  commitImportedBridgeExits : Digest
  bridgeWitness : BridgeWitness X

namespace AggchainProofWitness

section Model

variable {X : Ext} (E : Env X) (self : AggchainProofWitness X)

/-- `none` where `to_hash_bn254` panics. -/
def publicValues : Option AggchainProofPublicValues := do
  let aggchainParams ← self.fep.aggchainParams E
  some
    { prevLocalExitRoot := self.prevLocalExitRoot
      newLocalExitRoot := self.newLocalExitRoot
      l1InfoRoot := self.l1InfoRoot
      originNetwork := self.originNetwork
      commitImportedBridgeExits := self.commitImportedBridgeExits
      aggchainParams }

def bridgeConstraintsInput : BridgeConstraintsInput X where
  gerAddr := L2_GER_ADDR
  prevL2BlockHash := self.fep.prevBlockHash
  newL2BlockHash := self.fep.newBlockHash
  newLocalExitRoot := self.newLocalExitRoot
  l1InfoRoot := self.l1InfoRoot
  commitImportedBridgeExits := self.commitImportedBridgeExits
  bridgeWitness := self.bridgeWitness

def verifyAggchainInputs : Except GuestStop AggchainProofPublicValues := do
  -- Verify the FEP proof or ECDSA signature.
  self.fep.verify E self.l1InfoRoot self.newLocalExitRoot self.commitImportedBridgeExits
  -- Verify the bridge constraints
  (self.bridgeConstraintsInput.verify E).result.mapError
    (fun e => .error (.bridgeConstraintsError e))
  match self.publicValues E with
  | some publicValues => .ok publicValues
  | none => .error .abort

end Model

/-! ## Specification -/

section Spec

variable {X : Ext} {E : Env X} {w w' : AggchainProofWitness X} {pv : AggchainProofPublicValues}

theorem publicValues_eq_some : w.publicValues E = some pv ↔
    ∃ e, w.fep.encodedAggchainParams = some e ∧
      pv = { prevLocalExitRoot := w.prevLocalExitRoot
             newLocalExitRoot := w.newLocalExitRoot
             l1InfoRoot := w.l1InfoRoot
             originNetwork := w.originNetwork
             commitImportedBridgeExits := w.commitImportedBridgeExits
             aggchainParams := E.keccak256 e } := by
  simp only [publicValues, FepInputs.aggchainParams, Option.bind_eq_bind, Option.bind_eq_some_iff,
    Option.map_eq_some_iff, Option.some.injEq]
  constructor
  · rintro ⟨-, ⟨e, he, rfl⟩, rfl⟩
    exact ⟨e, he, rfl⟩
  · rintro ⟨e, he, rfl⟩
    exact ⟨_, ⟨e, he, rfl⟩, rfl⟩

/-- The guest accepts exactly when both checks pass and the public values can be computed. -/
theorem verifyAggchainInputs_ok_iff : w.verifyAggchainInputs E = .ok pv ↔
    w.fep.verify E w.l1InfoRoot w.newLocalExitRoot w.commitImportedBridgeExits = .ok () ∧
    (w.bridgeConstraintsInput.verify E).result = .ok () ∧ w.publicValues E = some pv := by
  simp only [verifyAggchainInputs, Except.bind_eq_ok, Except.mapError_eq_ok]
  constructor
  · rintro ⟨⟨⟩, hfep, ⟨⟩, hbridge, hpv⟩
    refine ⟨hfep, hbridge, ?_⟩
    cases h : w.publicValues E with
    | none => rw [h] at hpv; cases hpv
    | some v => rw [h] at hpv; rw [Except.ok.inj hpv]
  · rintro ⟨hfep, hbridge, hpv⟩
    exact ⟨(), hfep, (), hbridge, by rw [hpv]⟩

end Spec

end AggchainProofWitness

/-! ## One witness in both modes

The range of `Aggchain.Guest.BridgeSound`, with a signature of the sequencer or an accepted proof.
The hashes and the signature are real ones. -/

namespace Sample

def trustedSequencer : Address := Bytes.ofNat 20 0xb2dc18906aae38fc9a6f58fccc22d2707c56f708

def signature : Bytes 65 := Bytes.ofNat 65
  0xd47644539acec3da5e3ecf5fe8863c628a9c97e8b71e9ea9167a6f4f83c03c32758af030e3fed2a752e6644f0d9dd217ca469e1d9a89aff55656270818fd10651c

/-- The signature for the range without the unset claim. -/
def quietSignature : Bytes 65 := Bytes.ofNat 65
  0xd47644539acec3da5e3ecf5fe8863c628a9c97e8b71e9ea9167a6f4f83c03c3222110c630c32544ccb28ee3a7a4c8b2f3ffdf6372d0499465c17e4b32d344a1b1b

def fepDigest : Digest := Bytes.ofNat 32 0x751210b5a3e02a9aee7df490d6a1b08748e4d14903309ddfaaed7a7421495e6c

def signedCommitment : Digest := Bytes.ofNat 32 0xe895fa8fbf44b03509702de306611e965f1b389ce889d1d3a646d782cdb44b31

def signedQuiet : Digest := Bytes.ofNat 32 0x0f9681b1ea0953f2152ef442e96cac5367620d13d864b48d5f268f476fbbaf86

def paramsEcdsa : Digest := Bytes.ofNat 32 0x9c5c1c2e4ecff5f67a56a8e96e6b5025cd0bec63a1b21fb4c71c97cf29232feb
def paramsSp1 : Digest := Bytes.ofNat 32 0x43a134054f74e0dab7026dfb3c6445a0093c5d02c84bb29eba93978b370a8779

/-- The key digest is eight times `2^24`. -/
def vkeyHash : BabyBearDigest := List.Vector.replicate 8 ⟨2 ^ 24, by decide⟩

/-- The FEP inputs for the range that ends at `newBlock`. -/
def fepInputs (newBlock : Digest) (signature : Option (Bytes 65)) :
    FepInputs ⟨Digest, Bytes 65⟩ where
  l1Head := leaf.inner.blockHash
  claimBlockNum := 2
  rollupConfigHash := Bytes.ofNat 32 0xcf
  prevStateRoot := Bytes.ofNat 32 0x51
  prevWithdrawalStorageRoot := Bytes.ofNat 32 0x61
  prevBlockHash := Bytes.ofNat 32 1
  newStateRoot := Bytes.ofNat 32 0x52
  newWithdrawalStorageRoot := Bytes.ofNat 32 0x62
  newBlockHash := newBlock
  aggregationVkeyHash := vkeyHash
  rangeVkeyCommitment := Bytes.ofNat 32 0x7a
  trustedSequencer := trustedSequencer
  signatureOptimisticMode := signature
  l1InfoTreeLeaf := leaf
  l1HeadInclusionProof := path

def proofWitness (newBlock : Digest) (signature : Option (Bytes 65)) :
    AggchainProofWitness ⟨Digest, Bytes 65⟩ where
  prevLocalExitRoot := Bytes.ofNat 32 0
  newLocalExitRoot := input.newLocalExitRoot
  l1InfoRoot := path.root
  originNetwork := 1
  fep := fepInputs newBlock signature
  commitImportedBridgeExits := emptyHash
  bridgeWitness := { input.bridgeWitness with newL2BlockSketch := newBlock }

/-- The functions of `env`, on the data of this witness too. -/
def proofEnv : Env ⟨Digest, Bytes 65⟩ :=
  { env with
    keccak256 := fun data =>
      if (fepInputs (Bytes.ofNat 32 2) (some signature)).encodedAggchainParams = some data then
        paramsEcdsa
      else if (fepInputs (Bytes.ofNat 32 2) none).encodedAggchainParams = some data then paramsSp1
      else if data = fepDigest.val ++ input.newLocalExitRoot.val ++ emptyHash.val then
        signedCommitment
      else if data = fepDigest.val ++ input.newLocalExitRoot.val ++ exitsCommitment.val then
        signedQuiet
      else env.keccak256 data
    sha256 := fun _ => fepDigest
    recoverAddressFromPrehash := fun s h =>
      if s = signature ∧ h = signedCommitment ∨ s = quietSignature ∧ h = signedQuiet then
        .ok trustedSequencer
      else .error "invalid signature"
    verifySp1Proof := fun _ h => h = fepDigest }

def committed (commitImportedBridgeExits aggchainParams : Digest) : AggchainProofPublicValues where
  prevLocalExitRoot := Bytes.ofNat 32 0
  newLocalExitRoot := input.newLocalExitRoot
  l1InfoRoot := path.root
  originNetwork := 1
  commitImportedBridgeExits := commitImportedBridgeExits
  aggchainParams := aggchainParams

/-- The guest accepts the range up to block `2`, in both modes. -/
theorem proofWitness_ecdsa : (proofWitness (Bytes.ofNat 32 2) (some signature)).verifyAggchainInputs
    proofEnv = .ok (committed emptyHash paramsEcdsa) := by decide +kernel

theorem proofWitness_sp1 : (proofWitness (Bytes.ofNat 32 2) none).verifyAggchainInputs proofEnv =
    .ok (committed emptyHash paramsSp1) := by decide +kernel

end Sample

namespace AggchainProofWitness

/-! ## The chain parameters bind their inputs -/

section Params

variable {X : Ext} {E : Env X}

/-- The packed chain parameters of the two inputs collide under keccak256. -/
def ParamsCollision (E : Env X) (f g : FepInputs X) : Prop :=
  ∃ e e', f.encodedAggchainParams = some e ∧ g.encodedAggchainParams = some e' ∧ e ≠ e' ∧
    E.keccak256 e = E.keccak256 e'

/-- Equal public values come from inputs with the same parameters, up to a collision. -/
theorem sameParams_or_collision {w w' : AggchainProofWitness X} {pv : AggchainProofPublicValues}
    (hw : w.publicValues E = some pv) (hw' : w'.publicValues E = some pv) :
    FepInputs.SameParams w.fep w'.fep ∨ ParamsCollision E w.fep w'.fep := by
  obtain ⟨e, he, rfl⟩ := publicValues_eq_some.mp hw
  obtain ⟨e', he', heq⟩ := publicValues_eq_some.mp hw'
  have hhash : E.keccak256 e = E.keccak256 e' := congrArg (·.aggchainParams) heq
  by_cases h : e = e'
  · subst h
    exact Or.inl (FepInputs.encodedAggchainParams_inj he he')
  · exact Or.inr ⟨e, e', he, he', h, hhash⟩

/-- **The chain parameters are a binding commitment and separate the two modes.** -/
theorem aggchain_params_binding (E : Env X) :
    (∀ (f g : FepInputs X) (e : List UInt8), f.encodedAggchainParams = some e →
      g.encodedAggchainParams = some e → FepInputs.SameParams f g) ∧
    ∀ (w w' : AggchainProofWitness X) (pv pv' : AggchainProofPublicValues),
      w.verifyAggchainInputs E = .ok pv → w.fep.signatureOptimisticMode.isSome = true →
      w'.verifyAggchainInputs E = .ok pv' → w'.fep.signatureOptimisticMode.isSome = false →
      ¬ ParamsCollision E w.fep w'.fep → pv ≠ pv' := by
  refine ⟨fun f g e hf hg => FepInputs.encodedAggchainParams_inj hf hg, ?_⟩
  rintro w w' pv pv' hw hsome hw' hnone hcol rfl
  obtain ⟨-, -, hpv⟩ := verifyAggchainInputs_ok_iff.mp hw
  obtain ⟨-, -, hpv'⟩ := verifyAggchainInputs_ok_iff.mp hw'
  rcases sameParams_or_collision hpv hpv' with hsame | h
  · have hmode := hsame.signaturePresent
    rw [hsome, hnone] at hmode
    cases hmode
  · exact hcol h

open Sample

/-- The two modes of the sample witness do not collide. -/
theorem not_paramsCollision_sample : ¬ ParamsCollision proofEnv
    (fepInputs (Bytes.ofNat 32 2) (some signature)) (fepInputs (Bytes.ofNat 32 2) none) := by
  rintro ⟨e, e', he, he', -, hhash⟩
  have hparams : (fepInputs (Bytes.ofNat 32 2) (some signature)).aggchainParams proofEnv =
      some paramsEcdsa := by decide +kernel
  have hparams' : (fepInputs (Bytes.ofNat 32 2) none).aggchainParams proofEnv = some paramsSp1 := by
    decide +kernel
  rw [FepInputs.aggchainParams, he] at hparams
  rw [FepInputs.aggchainParams, he'] at hparams'
  have heq : paramsEcdsa = paramsSp1 :=
    (Option.some.inj hparams).symm.trans (hhash.trans (Option.some.inj hparams'))
  exact absurd heq (by decide +kernel)

/-- Inputs that differ in their block hash have the same parameters, and the two modes of the sample
witness have different public values. -/
theorem aggchain_params_binding_sample :
    FepInputs.SameParams (fepInputs (Bytes.ofNat 32 2) (some signature))
      (fepInputs (Bytes.ofNat 32 3) (some signature)) ∧
    committed emptyHash paramsEcdsa ≠ committed emptyHash paramsSp1 := by
  have hsome : (fepInputs (Bytes.ofNat 32 2) (some signature)).encodedAggchainParams.isSome := by
    decide +kernel
  obtain ⟨e, he⟩ := Option.isSome_iff_exists.mp hsome
  refine ⟨(aggchain_params_binding proofEnv).1 _ _ e he he, ?_⟩
  exact (aggchain_params_binding proofEnv).2 _ _ _ _ proofWitness_ecdsa rfl proofWitness_sp1 rfl
    not_paramsCollision_sample

end Params

/-! ## The signature covers what is settled -/

section Signed

variable {X : Ext}

/-- **The optimistic signature covers what is settled.**  The signer of an accepted commitment is the
sequencer in the chain parameters, and one commitment stands for one transition. -/
theorem optimistic_signature_binding (E : Env X) :
    (∀ (f : FepInputs X) (signature : X.Signature) (l1InfoRoot ler commit : Digest),
      f.signatureOptimisticMode = some signature → f.verify E l1InfoRoot ler commit = .ok () →
      E.recoverAddressFromPrehash signature (f.signatureCommitment E ler commit) =
        .ok f.trustedSequencer ∧
      ∀ v, f.aggchainParamsValues = some v → v.trustedSequencer = f.trustedSequencer) ∧
    ∀ (f g : FepInputs X) (ler ler' commit commit' : Digest),
      f.signatureCommitment E ler commit = g.signatureCommitment E ler' commit' →
      ¬ FepInputs.SignedCollision E f g ler ler' commit commit' →
      FepInputs.SameSigned f g ∧ ler = ler' ∧ commit = commit' := by
  refine ⟨?_, ?_⟩
  · intro f signature l1InfoRoot ler commit hmode hok
    refine ⟨(FepInputs.verify_signed_ok_iff hmode).mp hok, ?_⟩
    intro v hv
    obtain ⟨-, -, rfl⟩ := FepInputs.aggchainParamsValues_eq_some.mp hv
    rfl
  · intro f g ler ler' commit commit' heq hcol
    rcases FepInputs.sameSigned_or_collision heq with hsame | h
    · exact hsame
    · exact absurd h hcol

open Sample

/-- The signature of the sample witness is the sequencer's, and covers the same fields at block `2`
and at block `3`, whose hashes are not signed. -/
theorem optimistic_signature_binding_sample :
    proofEnv.recoverAddressFromPrehash signature signedCommitment = .ok trustedSequencer ∧
    FepInputs.SameSigned (fepInputs (Bytes.ofNat 32 2) (some signature))
      (fepInputs (Bytes.ofNat 32 3) (some signature)) := by
  have hcommit : (fepInputs (Bytes.ofNat 32 2) (some signature)).signatureCommitment proofEnv
      input.newLocalExitRoot emptyHash = signedCommitment := by decide +kernel
  obtain ⟨hverify, -, -⟩ := verifyAggchainInputs_ok_iff.mp proofWitness_ecdsa
  have hsigner := ((optimistic_signature_binding proofEnv).1 _ signature _ _ _ rfl hverify).1
  have hcover := (optimistic_signature_binding proofEnv).2
    (fepInputs (Bytes.ofNat 32 2) (some signature)) (fepInputs (Bytes.ofNat 32 3) (some signature))
    input.newLocalExitRoot input.newLocalExitRoot emptyHash emptyHash rfl ?_
  · refine ⟨?_, hcover.1⟩
    rw [← hcommit]
    exact hsigner
  · rintro (⟨hne, -⟩ | ⟨hne, -⟩)
    · exact hne rfl
    · exact hne rfl

end Signed

/-! ## The block hashes of the bridge check

The public values carry no block hash.  Which blocks a witness can be checked at is decided by what
the executor answers on the sketches that there are: `AnsweredAt` collects these answers. -/

section BlockHashes

open StaticCallWithContext (Answers)

variable {X : Ext} {E : Env X}

/-- The values of the four hash chains. -/
structure ChainValues where
  insertedGers : Digest
  removedGers : Digest
  claimed : Digest
  unset : Digest

/-- The static calls on `sketch` answer the chain values `v`, at the block `anchor`. -/
structure ChainsAt (E : Env X) (caller bridge : Address) (sketch : X.Sketch) (anchor : Digest)
    (v : ChainValues) : Prop where
  insertedGers : Answers E sketch L2_GER_ADDR caller E.insertedGERHashChainCall v.insertedGers anchor
  removedGers : Answers E sketch L2_GER_ADDR caller E.removedGERHashChainCall v.removedGers anchor
  claimed : Answers E sketch bridge caller E.claimedGlobalIndexHashChainCall v.claimed anchor
  unset : Answers E sketch bridge caller E.unsetGlobalIndexHashChainCall v.unset anchor

/-- The GER manager names `bridge`, and `root` is the local exit root there. -/
structure RootAt (E : Env X) (caller bridge : Address) (sketch : X.Sketch) (anchor root : Digest) :
    Prop where
  bridgeAddress : Answers E sketch L2_GER_ADDR caller E.bridgeAddressCall bridge anchor
  root : Answers E sketch bridge caller E.getRootCall root anchor

/-- There are events that lead from the chain values `p` to `n`: net of what they take back, their
claims are the committed ones and their GERs are included in the L1 info root. -/
def Linked (E : Env X) (l1InfoRoot commit : Digest) (p n : ChainValues) : Prop :=
  ∃ (inserted : List InsertedGER) (raw removed : List Digest)
    (claimed claims : List GlobalIndexWithLeafHash) (unset : List U256),
    HashChain.fold E.chainStep p.insertedGers raw = n.insertedGers ∧
    HashChain.fold E.chainStep p.removedGers removed = n.removedGers ∧
    HashChain.fold E.chainStep p.claimed (claimed.map E.claimCommitment) = n.claimed ∧
    HashChain.fold E.chainStep p.unset (unset.map U256.toBeBytes) = n.unset ∧
    filterValues unset claimed GlobalIndexWithLeafHash.globalIndex = .ok claims ∧
    E.importedBridgeExitsCommitmentV3 claims = commit ∧
    filterValues removed raw id = .ok (inserted.map (InsertedGER.ger E)) ∧
    ∀ ger ∈ inserted, ger.verify E l1InfoRoot = true

/-- The executor's answers at the two blocks go with the local exit root `ler` and the commitment:
there are sketches of `prev` and of `new` with linked chain values, and `ler` is the root at
`new`. -/
def AnsweredAt (E : Env X) (ler l1InfoRoot commit prev new : Digest) : Prop :=
  ∃ caller bridge prevSketch newSketch p n, ChainsAt E caller bridge prevSketch prev p ∧
    ChainsAt E caller bridge newSketch new n ∧ RootAt E caller bridge newSketch new ler ∧
    Linked E l1InfoRoot commit p n

/-- The public values determine the block hashes of the witness. -/
def BlockHashesBound (E : Env X) (w : AggchainProofWitness X) (pv : AggchainProofPublicValues) :
    Prop :=
  ∀ w' : AggchainProofWitness X, w'.verifyAggchainInputs E = .ok pv →
    w'.fep.prevBlockHash = w.fep.prevBlockHash ∧ w'.fep.newBlockHash = w.fep.newBlockHash

variable {w : AggchainProofWitness X} {pv : AggchainProofPublicValues}
  {ler l1InfoRoot commit prev new : Digest}

/-- What the calls answer on `sketch'`, at `anchor'`, is what they answer on `sketch`, at `anchor`. -/
structure ReadsLike (E : Env X) (caller : Address) (sketch : X.Sketch) (anchor : Digest)
    (sketch' : X.Sketch) (anchor' : Digest) : Prop where
  chains : ∀ bridge v, ChainsAt E caller bridge sketch anchor v →
    ChainsAt E caller bridge sketch' anchor' v
  root : ∀ bridge root, RootAt E caller bridge sketch anchor root →
    RootAt E caller bridge sketch' anchor' root

/-- An accepted bridge input shows what was answered at its blocks. -/
theorem answers_of_accepted {inp : BridgeConstraintsInput X} {bridge : Address}
    (h : inp.Accepted E bridge) (hger : inp.gerAddr = L2_GER_ADDR) : ∃ p n,
      ChainsAt E inp.bridgeWitness.callerAddress bridge inp.bridgeWitness.prevL2BlockSketch
        inp.prevL2BlockHash p ∧
      ChainsAt E inp.bridgeWitness.callerAddress bridge inp.bridgeWitness.newL2BlockSketch
        inp.newL2BlockHash n ∧
      RootAt E inp.bridgeWitness.callerAddress bridge inp.bridgeWitness.newL2BlockSketch
        inp.newL2BlockHash inp.newLocalExitRoot ∧
      Linked E inp.l1InfoRoot inp.commitImportedBridgeExits p n := by
  obtain ⟨⟨pi, ni, hpi, hni, hfi⟩, ⟨pr, nr, hpr, hnr, hfr⟩, haddr, ⟨pc, nc, hpc, hnc, hfc⟩,
    ⟨pu, nu, hpu, hnu, hfu⟩, hler, ⟨claims, hclaims, hcommit⟩, hgers, hproofs⟩ := h
  rw [hger] at hpi hni hpr hnr haddr
  exact ⟨⟨pi, pr, pc, pu⟩, ⟨ni, nr, nc, nu⟩, ⟨hpi, hpr, hpc, hpu⟩, ⟨hni, hnr, hnc, hnu⟩,
    ⟨haddr, hler⟩, _, _, _, _, claims, _, hfi, hfr, hfc, hfu, hclaims, hcommit, hgers, hproofs⟩

/-- And what is answered at two blocks makes an accepted bridge input. -/
theorem exists_accepted_of_answeredAt (h : AnsweredAt E ler l1InfoRoot commit prev new) :
    ∃ (bridgeWitness : BridgeWitness X) (bridge : Address), BridgeConstraintsInput.Accepted E
      ⟨L2_GER_ADDR, prev, new, ler, l1InfoRoot, commit, bridgeWitness⟩ bridge := by
  obtain ⟨caller, bridge, prevSketch, newSketch, p, n, hprev, hnew, hroot, inserted, raw, removed,
    claimed, claims, unset, hfi, hfr, hfc, hfu, hclaims, hcommit, hgers, hproofs⟩ := h
  refine ⟨⟨inserted, raw, removed, claimed, unset, prevSketch, newSketch, caller⟩, bridge, ?_⟩
  exact
    { insertedGers := ⟨_, _, hprev.insertedGers, hnew.insertedGers, hfi⟩
      removedGers := ⟨_, _, hprev.removedGers, hnew.removedGers, hfr⟩
      bridgeAddress := hroot.bridgeAddress
      claimed := ⟨_, _, hprev.claimed, hnew.claimed, hfc⟩
      unset := ⟨_, _, hprev.unset, hnew.unset, hfu⟩
      newLer := hroot.root
      exits := ⟨claims, hclaims, hcommit⟩
      gers := hgers
      proofs := hproofs }

/-- No events lead from any chain values to the same ones, and leave nothing claimed. -/
theorem linked_refl (v : ChainValues) :
    Linked E l1InfoRoot (E.importedBridgeExitsCommitmentV3 []) v v :=
  ⟨[], [], [], [], [], [], rfl, rfl, rfl, rfl, filterValues_nil _, rfl, filterValues_nil _,
    fun _ h => absurd h List.not_mem_nil⟩

/-- `w` with another bridge witness, at other block hashes. -/
def moveTo (w : AggchainProofWitness X) (prev new : Digest) (bridgeWitness : BridgeWitness X) :
    AggchainProofWitness X :=
  { w with
    fep := { w.fep with prevBlockHash := prev, newBlockHash := new }
    bridgeWitness }

/-- Neither the FEP check nor the public values read a block hash: an accepted witness can be moved
to any blocks at which the same local exit root and commitment are answered for. -/
theorem exists_moved (hw : w.verifyAggchainInputs E = .ok pv)
    (h : AnsweredAt E w.newLocalExitRoot w.l1InfoRoot w.commitImportedBridgeExits prev new) :
    ∃ w' : AggchainProofWitness X, w'.verifyAggchainInputs E = .ok pv ∧
      w'.fep.prevBlockHash = prev ∧ w'.fep.newBlockHash = new := by
  obtain ⟨hfep, -, hpv⟩ := verifyAggchainInputs_ok_iff.mp hw
  obtain ⟨bridgeWitness, bridge, haccepted⟩ := exists_accepted_of_answeredAt h
  refine ⟨w.moveTo prev new bridgeWitness, ?_, rfl, rfl⟩
  exact verifyAggchainInputs_ok_iff.mpr
    ⟨hfep, BridgeConstraintsInput.verify_ok_iff.mpr ⟨bridge, haccepted⟩, hpv⟩

/-- Witnesses with equal public values agree on what the bridge check is given besides the block
hashes and the bridge witness. -/
theorem answeredAt_of_publicValues {w' : AggchainProofWitness X}
    (hw : w.verifyAggchainInputs E = .ok pv) (hw' : w'.verifyAggchainInputs E = .ok pv) :
    AnsweredAt E w.newLocalExitRoot w.l1InfoRoot w.commitImportedBridgeExits w'.fep.prevBlockHash
      w'.fep.newBlockHash := by
  obtain ⟨-, -, hpv⟩ := verifyAggchainInputs_ok_iff.mp hw
  obtain ⟨-, hbridge', hpv'⟩ := verifyAggchainInputs_ok_iff.mp hw'
  obtain ⟨e, -, rfl⟩ := publicValues_eq_some.mp hpv
  obtain ⟨e', -, heq⟩ := publicValues_eq_some.mp hpv'
  simp only [AggchainProofPublicValues.mk.injEq] at heq
  obtain ⟨-, hler, hl1, -, hcommit, -⟩ := heq
  obtain ⟨bridge, haccepted⟩ := BridgeConstraintsInput.verify_ok_iff.mp hbridge'
  rw [hler, hl1, hcommit]
  obtain ⟨p, n, hprev, hnew, hroot, hlinked⟩ := answers_of_accepted haccepted rfl
  exact ⟨_, bridge, _, _, p, n, hprev, hnew, hroot, hlinked⟩

/-- The exact condition. -/
theorem blockHashesBound_iff (hw : w.verifyAggchainInputs E = .ok pv) :
    BlockHashesBound E w pv ↔
      ∀ prev new, AnsweredAt E w.newLocalExitRoot w.l1InfoRoot w.commitImportedBridgeExits prev new →
        prev = w.fep.prevBlockHash ∧ new = w.fep.newBlockHash := by
  constructor
  · intro hbound prev new h
    obtain ⟨w', hw', rfl, rfl⟩ := exists_moved hw h
    exact hbound w' hw'
  · intro honly w' hw'
    exact honly _ _ (answeredAt_of_publicValues hw hw')

/-- **Block hashes.**  The public values of an accepted witness determine the block hashes it was
checked at exactly when the executor answers for the same local exit root and commitment at no other
pair of blocks.  They never do if the witness has no net claims and two different blocks, nor if
another block reads like its new or its previous one. -/
theorem block_hashes_bound_iff (hw : w.verifyAggchainInputs E = .ok pv) :
    (BlockHashesBound E w pv ↔
      ∀ prev new, AnsweredAt E w.newLocalExitRoot w.l1InfoRoot w.commitImportedBridgeExits prev new →
        prev = w.fep.prevBlockHash ∧ new = w.fep.newBlockHash) ∧
    (w.commitImportedBridgeExits = E.importedBridgeExitsCommitmentV3 [] →
      w.fep.prevBlockHash ≠ w.fep.newBlockHash → ¬ BlockHashesBound E w pv) ∧
    (∀ sketch block, ReadsLike E w.bridgeWitness.callerAddress w.bridgeWitness.newL2BlockSketch
      w.fep.newBlockHash sketch block → block ≠ w.fep.newBlockHash → ¬ BlockHashesBound E w pv) ∧
    ∀ sketch block, ReadsLike E w.bridgeWitness.callerAddress w.bridgeWitness.prevL2BlockSketch
      w.fep.prevBlockHash sketch block → block ≠ w.fep.prevBlockHash →
      ¬ BlockHashesBound E w pv := by
  have hiff := blockHashesBound_iff hw
  obtain ⟨-, hbridge, -⟩ := verifyAggchainInputs_ok_iff.mp hw
  obtain ⟨bridge, haccepted⟩ := BridgeConstraintsInput.verify_ok_iff.mp hbridge
  obtain ⟨p, n, hprev, hnew, hroot, hlinked⟩ := answers_of_accepted haccepted rfl
  refine ⟨hiff, ?_, ?_, ?_⟩
  · intro hempty hne hbound
    -- nothing happens from the new block to itself
    have hmoved : AnsweredAt E w.newLocalExitRoot w.l1InfoRoot w.commitImportedBridgeExits
        w.fep.newBlockHash w.fep.newBlockHash :=
      ⟨_, bridge, _, _, n, n, hnew, hnew, hroot, hempty ▸ linked_refl n⟩
    exact hne (hiff.mp hbound _ _ hmoved).1.symm
  · intro sketch block hlike hne hbound
    have hmoved : AnsweredAt E w.newLocalExitRoot w.l1InfoRoot w.commitImportedBridgeExits
        w.fep.prevBlockHash block :=
      ⟨_, bridge, _, sketch, p, n, hprev, hlike.chains _ _ hnew, hlike.root _ _ hroot, hlinked⟩
    exact hne (hiff.mp hbound _ _ hmoved).2
  · intro sketch block hlike hne hbound
    have hmoved : AnsweredAt E w.newLocalExitRoot w.l1InfoRoot w.commitImportedBridgeExits block
        w.fep.newBlockHash :=
      ⟨_, bridge, sketch, _, p, n, hlike.chains _ _ hprev, hnew, hroot, hlinked⟩
    exact hne (hiff.mp hbound _ _ hmoved).1

end BlockHashes

end AggchainProofWitness

/-! ### A witness with a net claim

In the quiet range the claim is not unset, and block `2` is the last one that there is a sketch of:
its two blocks are the only ones for its public values. -/

namespace Sample

open AggchainProofWitness
open StaticCallWithContext (Answers)

def twoBlocksEnv : Env ⟨Digest, Bytes 65⟩ :=
  { proofEnv.onChain quietView with
    clientExecutorEth := fun sketch =>
      if sketch = Bytes.ofNat 32 1 ∨ sketch = Bytes.ofNat 32 2 then .ok ()
      else .error "missing state" }

def quietWitness : AggchainProofWitness ⟨Digest, Bytes 65⟩ :=
  { proofWitness (Bytes.ofNat 32 2) none with
    commitImportedBridgeExits := exitsCommitment
    bridgeWitness := { input.bridgeWitness with globalIndicesUnset := [] } }

theorem quietWitness_sp1 : quietWitness.verifyAggchainInputs twoBlocksEnv =
    .ok (committed exitsCommitment paramsSp1) := by decide +kernel

theorem executorSound_twoBlocksEnv : ExecutorSound twoBlocksEnv quietView where
  bytes32 _ := (executorSound_onChain proofEnv quietView).bytes32 rfl
  address _ := (executorSound_onChain proofEnv quietView).address rfl

/-- Only the two blocks answer. -/
theorem anchor_twoBlocksEnv {R : Type} {sketch anchor : Digest} {address caller : Address}
    {c : SolCall R} {v : R} (h : Answers twoBlocksEnv sketch address caller c v anchor) :
    anchor = Bytes.ofNat 32 1 ∨ anchor = Bytes.ofNat 32 2 := by
  obtain ⟨heth, out, hex, -⟩ := h
  obtain ⟨-, rfl⟩ := ContractPublicValues.mk.inj (Except.ok.inj hex)
  by_contra hne
  have hfail : twoBlocksEnv.clientExecutorEth sketch = .error "missing state" := if_neg hne
  rw [hfail] at heth
  cases heth

/-- From a chain value that is not the initial one, the next values are not those of the range. -/
theorem chainStep_twoBlocksEnv {acc : Digest} (hacc : acc ≠ Bytes.ofNat 32 0) (hash : Digest) :
    twoBlocksEnv.chainStep acc hash = emptyHash := by
  have hlen : (acc.val ++ hash.val).length = 64 := by
    rw [List.length_append, acc.2, hash.2]
  have hzero : ∀ d : Digest, acc.val ++ hash.val ≠ List.replicate 32 0 ++ d.val := by
    intro d heq
    have hval := (List.append_inj heq (by rw [acc.2, List.length_replicate])).1
    exact hacc (Subtype.ext (hval.trans (by decide)))
  have hparams : ∀ s, (fepInputs (Bytes.ofNat 32 2) s).encodedAggchainParams ≠
      some (acc.val ++ hash.val) := by
    intro s heq
    obtain ⟨v, -, hv⟩ := Option.map_eq_some_iff.mp heq
    have hlen' := congrArg List.length hv
    rw [hlen, AggchainParamsValues.length_abiEncodePacked] at hlen'
    omega
  have hsigned : ∀ d : Digest, acc.val ++ hash.val ≠
      fepDigest.val ++ input.newLocalExitRoot.val ++ d.val := by
    intro d heq
    have hlen' := congrArg List.length heq
    rw [hlen, List.length_append, List.length_append, fepDigest.2, input.newLocalExitRoot.2, d.2]
      at hlen'
    omega
  have hcombine : twoBlocksEnv.chainStep acc hash = proofEnv.keccak256 (acc.val ++ hash.val) := by
    show proofEnv.keccak256 (acc.val ++ (hash.val ++ [])) = _
    rw [List.append_nil]
  rw [hcombine]
  show (if _ then _ else _) = _
  rw [if_neg (hparams _), if_neg (hparams _), if_neg (hsigned _), if_neg (hsigned _)]
  show keccak256 _ = _
  rw [keccak256, if_neg (hzero _), if_neg (hzero _), if_neg (hzero _)]

theorem fold_twoBlocksEnv {acc : Digest} (hacc : acc ≠ Bytes.ofNat 32 0) {hashes : List Digest}
    (hne : hashes ≠ []) : HashChain.fold twoBlocksEnv.chainStep acc hashes = emptyHash := by
  induction hashes using List.reverseRecOn with
  | nil => exact absurd rfl hne
  | append_singleton hashes hash ih =>
    rw [HashChain.fold_concat]
    by_cases hnil : hashes = []
    · subst hnil
      exact chainStep_twoBlocksEnv hacc hash
    · rw [ih hnil]
      exact chainStep_twoBlocksEnv (by decide +kernel) hash

/-- Blocks `1` and `2` are the only pair with the root and the net claim of the witness. -/
theorem only_quietWitness (prev new : Digest)
    (h : AnsweredAt twoBlocksEnv quietWitness.newLocalExitRoot quietWitness.l1InfoRoot
      quietWitness.commitImportedBridgeExits prev new) :
    prev = quietWitness.fep.prevBlockHash ∧ new = quietWitness.fep.newBlockHash := by
  obtain ⟨caller, bridge, prevSketch, newSketch, p, n, hprev, hnew, hroot, inserted, raw, removed,
    claimed, claims, unset, -, -, hclaimed, -, hclaims, hcommit, -⟩ := h
  have hsound := executorSound_twoBlocksEnv
  -- the local exit root is the one of block `2`
  obtain rfl : new = Bytes.ofNat 32 2 := by
    rcases anchor_twoBlocksEnv hroot.root with rfl | rfl
    · have hler : (Bytes.ofNat 32 0x1e7 : Digest) = Bytes.ofNat 32 0 :=
        hsound.answers_bytes32 (by simp) hroot.root
      exact absurd hler (by decide +kernel)
    · rfl
  refine ⟨?_, rfl⟩
  rcases anchor_twoBlocksEnv hprev.claimed with rfl | rfl
  · rfl
  · -- from block `2` to itself, the claims would have to lead around a cycle
    have hp : p.claimed = claimedChain := hsound.answers_bytes32 (by simp) hprev.claimed
    have hn : n.claimed = claimedChain := hsound.answers_bytes32 (by simp) hnew.claimed
    rw [hp, hn] at hclaimed
    have hnone : claimed = [] := by
      by_contra hne
      rw [fold_twoBlocksEnv (by decide +kernel) (by simpa using hne)] at hclaimed
      exact absurd hclaimed (by decide +kernel)
    subst hnone
    rw [filterValues_empty hclaims] at hcommit
    exact absurd hcommit (by decide +kernel)

end Sample

namespace AggchainProofWitness

open Sample

/-- With a net claim the blocks can be bound; without one, those of the signed witness are not. -/
theorem block_hashes_bound_iff_quiet :
    quietWitness.verifyAggchainInputs twoBlocksEnv = .ok (committed exitsCommitment paramsSp1) ∧
    BlockHashesBound twoBlocksEnv quietWitness (committed exitsCommitment paramsSp1) ∧
    ¬ BlockHashesBound proofEnv (proofWitness (Bytes.ofNat 32 2) (some signature))
      (committed emptyHash paramsEcdsa) := by
  refine ⟨quietWitness_sp1, (block_hashes_bound_iff quietWitness_sp1).1.mpr only_quietWitness, ?_⟩
  exact (block_hashes_bound_iff proofWitness_ecdsa).2.1 rfl (by decide +kernel)

/-- The bridge state of block `3` is the one of block `2`: the signed witness for the range up to
block `3` has the public values of the one for the range up to block `2`. -/
theorem block_hashes_not_bound : ¬ ∀ (w w' : AggchainProofWitness ⟨Digest, Bytes 65⟩)
    (pv : AggchainProofPublicValues), w.verifyAggchainInputs proofEnv = .ok pv →
    w'.verifyAggchainInputs proofEnv = .ok pv →
    w.fep.prevBlockHash = w'.fep.prevBlockHash ∧ w.fep.newBlockHash = w'.fep.newBlockHash := by
  intro h
  have hmoved : (proofWitness (Bytes.ofNat 32 3) (some signature)).verifyAggchainInputs proofEnv =
      .ok (committed emptyHash paramsEcdsa) := by decide +kernel
  obtain ⟨-, hnew⟩ := h (proofWitness (Bytes.ofNat 32 2) (some signature))
    (proofWitness (Bytes.ofNat 32 3) (some signature)) _ proofWitness_ecdsa hmoved
  have hne : (Bytes.ofNat 32 2 : Digest) ≠ Bytes.ofNat 32 3 := by decide +kernel
  exact hne hnew

end AggchainProofWitness

end Aggchain
