import Aggchain.External
import Aggchain.Guest.StaticCall
import Aggchain.Lib.Radix

/-!
# Aggchain.Guest.FullExecutionProof — `full_execution_proof.rs`, `vkey_hash.rs`, `error.rs`

The FEP inputs of the aggchain program, the two encodings of them (`abi_encode` for the inner proof,
`abi_encode_packed` for the chain parameters) and `FepInputs::verify`.

`encodedAggchainParams_inj`: the packed chain parameters determine every field they are built from.
-/

namespace Aggchain

/-! ## Errors -/

/-- All the aggchain proof errors. -/
inductive ProofError where
  | bridgeConstraintsError (source : BridgeConstraintsError)
  | mismatchL1Head (fromL1InfoTreeLeaf fromFepPublicValues : Digest)
  | invalidInclusionProofL1Head (index : UInt32) (l1LeafHash l1InfoRoot : Digest)
  | invalidSignature
  | invalidSigner (declared recovered : Address)
  deriving DecidableEq

/-- How the guest program stops without committing public values. -/
inductive GuestStop where
  | error (source : ProofError)
  /-- a panic, or the zkVM aborting in `verify_sp1_proof` -/
  | abort
  deriving DecidableEq

/-! ## Verification key hashes -/

section VkeyHash

/-- The BabyBear prime. -/
def babyBearOrder : ℕ := 2013265921

/-- The order of the scalar field of BN254. -/
def bn254Order : ℕ :=
  21888242871839275222246405745257275088548364400416034343698204186575808495617

instance : NeZero bn254Order := ⟨by decide⟩

/-- `BabyBear`, by its canonical value. -/
abbrev BabyBear := Fin babyBearOrder

/-- `BabyBearDigest` -/
abbrev BabyBearDigest := List.Vector BabyBear 8

namespace BabyBearDigest

variable (self : BabyBearDigest)

/-- The canonical values of the words. -/
def words : List ℕ := self.val.map Fin.val

def toHashU32 : List UInt32 := (words self).map UInt32.ofNat

/-- The base `2^31` packing of the words in the BN254 scalar field, behind one zero byte.
`copy_from_slice` panics (`none`) unless the packing takes 31 bytes. -/
def toHashBn254 : Option Digest :=
  let vkeyDigestBn254 := Radix.hornerMod bn254Order (2 ^ 31) (words self)
  let vkeyBytes := Bytes.natBe vkeyDigestBn254.val
  if h : vkeyBytes.length = 31 then some ⟨0 :: vkeyBytes, by simp [h]⟩ else none

variable {self}

theorem words_lt : ∀ w ∈ words self, w < 2 ^ 31 := by
  intro w hw
  obtain ⟨x, -, rfl⟩ := List.mem_map.mp hw
  have hx : x.val < babyBearOrder := x.isLt
  unfold babyBearOrder at hx
  omega

theorem length_words : (words self).length = 8 := by
  rw [words, List.length_map, self.2]

/-- The packed words. -/
def packed (d : BabyBearDigest) : ℕ := Radix.horner (2 ^ 31) (words d)

theorem packed_lt : packed self < 2 ^ 248 := by
  have h := Radix.horner_lt (by norm_num) (@words_lt self)
  rw [length_words, ← pow_mul] at h
  exact h

theorem packed_inj {d d' : BabyBearDigest} (h : packed d = packed d') : d = d' := by
  have hwords := Radix.horner_inj (by norm_num) (length_words.trans length_words.symm) words_lt
    words_lt h
  apply Subtype.ext
  exact List.map_injective_iff.mpr Fin.val_injective hwords

/-- Every value that the loop accumulates is the packing of the words so far: the field never
reduces it. -/
theorem hornerMod_take (d : BabyBearDigest) (n : ℕ) :
    (Radix.hornerMod bn254Order (2 ^ 31) ((words d).take n)).val =
      Radix.horner (2 ^ 31) ((words d).take n) := by
  refine Radix.hornerMod_val (by norm_num) (fun w hw => words_lt w (List.mem_of_mem_take hw)) ?_
  have hlen : ((words d).take n).length ≤ 8 := by
    rw [List.length_take, length_words]
    omega
  calc (2 ^ 31) ^ ((words d).take n).length ≤ (2 ^ 31) ^ 8 := Nat.pow_le_pow_right (by norm_num) hlen
    _ ≤ bn254Order := by unfold bn254Order; norm_num

theorem hornerMod_words (d : BabyBearDigest) :
    (Radix.hornerMod bn254Order (2 ^ 31) (words d)).val = packed d := by
  have h := hornerMod_take d (words d).length
  rwa [List.take_length] at h

/-- What `to_hash_bn254` returns, if it returns: the packed words as 32 big-endian bytes. -/
theorem toHashBn254_eq {h : Digest} (hd : toHashBn254 self = some h) :
    h = Bytes.ofNat 32 (packed self) := by
  unfold toHashBn254 at hd
  simp only [hornerMod_words] at hd
  split_ifs at hd with hlen
  obtain rfl := Option.some.inj hd
  apply Subtype.ext
  -- a list is the big-endian form of its number, and the leading zero does not change that number
  have hbe := Bytes.beBytes_ofBe (0 :: Bytes.natBe (packed self))
  rw [Bytes.ofBe_zero_cons, Bytes.ofBe_natBe, List.length_cons, hlen] at hbe
  exact hbe.symm

theorem toHashBn254_inj {d d' : BabyBearDigest} {h : Digest} (hd : toHashBn254 d = some h)
    (hd' : toHashBn254 d' = some h) : d = d' := by
  have heq := (toHashBn254_eq hd).symm.trans (toHashBn254_eq hd')
  refine packed_inj (Bytes.beBytes_inj ?_ ?_ (congrArg Subtype.val heq))
  · exact packed_lt.trans (by norm_num)
  · exact packed_lt.trans (by norm_num)

theorem words_eq_ofFn (d : BabyBearDigest) : words d = List.ofFn (fun i => (d.get i).val) := by
  have hget : d.val = List.ofFn d.get := by
    rw [← List.Vector.toList_ofFn, List.Vector.ofFn_get]
    rfl
  rw [words, hget, List.map_ofFn]
  rfl

/-- The packing as a sum over the words. -/
theorem packed_eq_sum (d : BabyBearDigest) :
    packed d = ∑ i : Fin 8, (d.get i).val * 2 ^ (31 * (7 - i.val)) := by
  rw [packed, words_eq_ofFn, Radix.horner_ofFn]
  simp only [← pow_mul]

/-- The leading word decides how large the packing is. -/
theorem le_packed_iff (d : BabyBearDigest) : 256 ^ 30 ≤ packed d ↔ 2 ^ 23 ≤ (d.get 0).val := by
  have hrest : packed d = (d.get 0).val * 2 ^ 217 +
      Radix.horner (2 ^ 31) (List.ofFn fun i : Fin 7 => (d.get i.succ).val) := by
    rw [packed, words_eq_ofFn, List.ofFn_succ, Radix.horner_cons, List.length_ofFn, ← pow_mul]
  have hwords : ∀ w ∈ List.ofFn (fun i : Fin 7 => (d.get i.succ).val), w < 2 ^ 31 := by
    intro w hw
    obtain ⟨i, rfl⟩ := List.mem_ofFn.mp hw
    refine @words_lt d _ ?_
    rw [words_eq_ofFn]
    exact List.mem_ofFn.mpr ⟨i.succ, rfl⟩
  have hlt := Radix.horner_lt (by norm_num) hwords
  rw [List.length_ofFn, ← pow_mul] at hlt
  rw [hrest]
  norm_num at hlt ⊢
  omega

/-- `to_hash_bn254` returns exactly for leading words of at least 24 bits. -/
theorem toHashBn254_isSome_iff (d : BabyBearDigest) :
    (toHashBn254 d).isSome = true ↔ 2 ^ 23 ≤ (d.get 0).val := by
  have hsome : (toHashBn254 d).isSome = true ↔ (Bytes.natBe (packed d)).length = 31 := by
    unfold toHashBn254
    simp only [hornerMod_words]
    split_ifs with h
    · exact iff_of_true rfl h
    · exact iff_of_false Bool.false_ne_true h
  rw [hsome, ← le_packed_iff]
  by_cases hzero : packed d = 0
  · -- one zero byte
    rw [hzero]
    simp [Bytes.natBe]
  · rw [Bytes.length_natBe_iff hzero]
    have hlt : packed d < 2 ^ 248 := packed_lt
    constructor
    · exact And.left
    · intro hle
      refine ⟨hle, hlt.trans_le ?_⟩
      norm_num

/-- What the packing is meant to be: no step of the loop reduces, and the 32 bytes are the big-endian
form of the sum of the shifted words. -/
structure Packs (d : BabyBearDigest) : Prop where
  notReduced : ∀ n ≤ 8, (Radix.hornerMod bn254Order (2 ^ 31) ((words d).take n)).val =
    Radix.horner (2 ^ 31) ((words d).take n)
  returned : toHashBn254 d =
    some (Bytes.ofNat 32 (∑ i : Fin 8, (d.get i).val * 2 ^ (31 * (7 - i.val))))

/-- **Packing of a key digest**: right, and without a panic, exactly when the first word has at least
24 bits. -/
theorem packs_iff (d : BabyBearDigest) : Packs d ↔ 2 ^ 23 ≤ (d.get 0).val := by
  rw [← toHashBn254_isSome_iff]
  constructor
  · intro h
    rw [h.returned]
    rfl
  · intro h
    obtain ⟨hash, hhash⟩ := Option.isSome_iff_exists.mp h
    refine ⟨fun n _ => hornerMod_take d n, ?_⟩
    rw [hhash, toHashBn254_eq hhash, packed_eq_sum]

/-- A first word of 23 bits: 30 bytes are copied to a slice of 31. -/
theorem not_packs_small_word :
    ¬ Packs (⟨8388607, by decide⟩ ::ᵥ List.Vector.replicate 7 ⟨1, by decide⟩) := by
  intro h
  have hsome : (toHashBn254 (⟨8388607, by decide⟩ ::ᵥ
      List.Vector.replicate 7 ⟨1, by decide⟩)).isSome = true := by
    rw [h.returned]
    rfl
  exact absurd ((toHashBn254_isSome_iff _).mp hsome) (by decide)

end BabyBearDigest

end VkeyHash

/-! ## The inputs and their encodings -/

/-- Public values to verify the FEP. -/
structure FepInputs (X : Ext) where
  l1Head : Digest
  claimBlockNum : UInt32
  rollupConfigHash : Digest
  prevStateRoot : Digest
  prevWithdrawalStorageRoot : Digest
  prevBlockHash : Digest
  newStateRoot : Digest
  newWithdrawalStorageRoot : Digest
  newBlockHash : Digest
  aggregationVkeyHash : BabyBearDigest
  rangeVkeyCommitment : Digest
  trustedSequencer : Address
  signatureOptimisticMode : Option X.Signature
  /-- L1 info tree leaf containing the `l1Head` as block hash -/
  l1InfoTreeLeaf : L1InfoTreeLeaf
  l1HeadInclusionProof : MerkleProof

/-- The public values of the inner (FEP) proof. -/
structure AggregationProofPublicValues where
  l1Head : Digest
  l2PreRoot : Digest
  l2PostRoot : Digest
  l2BlockNumber : UInt64
  rollupConfigHash : Digest
  multiBlockVkey : Digest
  proverAddress : Address
  deriving DecidableEq

/-- `abi_encode`: one 32-byte word per field. -/
def AggregationProofPublicValues.abiEncode (self : AggregationProofPublicValues) : List UInt8 :=
  [self.l1Head.val, self.l2PreRoot.val, self.l2PostRoot.val,
    Bytes.beBytes 32 self.l2BlockNumber.toNat, self.rollupConfigHash.val, self.multiBlockVkey.val,
    List.replicate 12 0 ++ self.proverAddress.val].flatten

/-- One word per field: the encoding determines the fields. -/
theorem AggregationProofPublicValues.abiEncode_inj {a b : AggregationProofPublicValues}
    (h : a.abiEncode = b.abiEncode) : a = b := by
  have hwords := Bytes.packed_inj (by simp) h
  obtain ⟨head, pre, post, num, config, vkey, prover⟩ := a
  obtain ⟨head', pre', post', num', config', vkey', prover'⟩ := b
  simp only [List.cons.injEq, and_true, List.append_cancel_left_eq] at hwords
  obtain ⟨hhead, hpre, hpost, hnum, hconfig, hvkey, hprover⟩ := hwords
  have hlt : ∀ n : UInt64, n.toNat < 256 ^ 32 := fun n => n.toNat_lt.trans (by norm_num)
  obtain rfl : head = head' := Subtype.ext hhead
  obtain rfl : pre = pre' := Subtype.ext hpre
  obtain rfl : post = post' := Subtype.ext hpost
  obtain rfl : num = num' := UInt64.toNat_inj.mp (Bytes.beBytes_inj (hlt _) (hlt _) hnum)
  obtain rfl : config = config' := Subtype.ext hconfig
  obtain rfl : vkey = vkey' := Subtype.ext hvkey
  obtain rfl : prover = prover' := Subtype.ext hprover
  rfl

structure AggchainParamsValues where
  l2PreRoot : Digest
  claimRoot : Digest
  claimBlockNum : U256
  rollupConfigHash : Digest
  optimisticMode : Bool
  trustedSequencer : Address
  rangeVkeyCommitment : Digest
  aggregationVkeyHash : Digest
  deriving DecidableEq

/-- The fields at their Solidity widths. -/
def AggchainParamsValues.packedFields (self : AggchainParamsValues) : List (List UInt8) :=
  [self.l2PreRoot.val, self.claimRoot.val, (U256.toBeBytes self.claimBlockNum).val,
    self.rollupConfigHash.val, [if self.optimisticMode then 1 else 0], self.trustedSequencer.val,
    self.rangeVkeyCommitment.val, self.aggregationVkeyHash.val]

/-- `abi_encode_packed` -/
def AggchainParamsValues.abiEncodePacked (self : AggchainParamsValues) : List UInt8 :=
  self.packedFields.flatten

theorem AggchainParamsValues.length_abiEncodePacked (self : AggchainParamsValues) :
    self.abiEncodePacked.length = 213 := by
  simp [abiEncodePacked, packedFields]

theorem U256.toBeBytes_inj {x y : U256} (h : U256.toBeBytes x = U256.toBeBytes y) : x = y := by
  have hnat := Bytes.beBytes_inj (x.isLt.trans_le (by norm_num)) (y.isLt.trans_le (by norm_num))
    (congrArg Subtype.val h)
  exact BitVec.eq_of_toNat_eq hnat

/-- The packed form determines the fields: each of them has a fixed width. -/
theorem AggchainParamsValues.abiEncodePacked_inj {a b : AggchainParamsValues}
    (h : a.abiEncodePacked = b.abiEncodePacked) : a = b := by
  have hfields : a.packedFields = b.packedFields := by
    refine Bytes.packed_inj ?_ h
    simp only [packedFields, List.forall₂_cons, List.Forall₂.nil, Bytes.length_val,
      List.length_singleton, and_self]
  obtain ⟨pre, claim, num, config, mode, sequencer, range, vkey⟩ := a
  obtain ⟨pre', claim', num', config', mode', sequencer', range', vkey'⟩ := b
  simp only [packedFields, List.cons.injEq, and_true] at hfields
  obtain ⟨hpre, hclaim, hnum, hconfig, hmode, hsequencer, hrange, hvkey⟩ := hfields
  obtain rfl : pre = pre' := Subtype.ext hpre
  obtain rfl : claim = claim' := Subtype.ext hclaim
  obtain rfl := U256.toBeBytes_inj (Subtype.ext hnum)
  obtain rfl : config = config' := Subtype.ext hconfig
  obtain rfl : mode = mode' := by
    cases mode <;> cases mode' <;> simp_all
  obtain rfl : sequencer = sequencer' := Subtype.ext hsequencer
  obtain rfl : range = range' := Subtype.ext hrange
  obtain rfl : vkey = vkey' := Subtype.ext hvkey
  rfl

/-- `OptimisticMode` -/
inductive OptimisticMode where
  | Sp1
  | Ecdsa
  deriving DecidableEq

/-- The output root: the state root alone, as the code has it. -/
def computeOutputRoot (stateRoot _withdrawalStorageRoot _blockHash : Digest) : Digest := stateRoot

namespace FepInputs

section Model

variable {X : Ext} (E : Env X) (self : FepInputs X)

/-- `AggregationProofPublicValues::from` -/
def aggregationProofPublicValues : AggregationProofPublicValues where
  l1Head := self.l1Head
  l2PreRoot := self.prevStateRoot
  l2PostRoot := self.newStateRoot
  l2BlockNumber := self.claimBlockNum.toUInt64
  rollupConfigHash := self.rollupConfigHash
  multiBlockVkey := self.rangeVkeyCommitment
  proverAddress := self.trustedSequencer

def optimisticMode : OptimisticMode :=
  if self.signatureOptimisticMode.isSome then .Ecdsa else .Sp1

/-- `AggchainParamsValues::from`; `none` where `to_hash_bn254` panics. -/
def aggchainParamsValues : Option AggchainParamsValues := do
  let aggregationVkeyHash ← self.aggregationVkeyHash.toHashBn254
  some
    { l2PreRoot := self.prevStateRoot
      claimRoot := self.newStateRoot
      claimBlockNum := BitVec.ofNat 256 self.claimBlockNum.toNat
      rollupConfigHash := self.rollupConfigHash
      optimisticMode := self.optimisticMode == .Ecdsa
      trustedSequencer := self.trustedSequencer
      rangeVkeyCommitment := self.rangeVkeyCommitment
      aggregationVkeyHash }

def sha256PublicValues : Digest := E.sha256 self.aggregationProofPublicValues.abiEncode

def encodedAggchainParams : Option (List UInt8) :=
  self.aggchainParamsValues.map AggchainParamsValues.abiEncodePacked

/-- The chain-specific commitment forwarded to the PP. -/
def aggchainParams : Option Digest := self.encodedAggchainParams.map E.keccak256

/-- Verify that the `l1Head` considered by the FEP exists in the L1 Info Tree. -/
def verifyL1Head (l1InfoRoot : Digest) : Except ProofError Unit := do
  if self.l1Head ≠ self.l1InfoTreeLeaf.inner.blockHash then
    .error (.mismatchL1Head self.l1InfoTreeLeaf.inner.blockHash self.l1Head)
  let inclusionProofValid := E.merkleProofVerify self.l1HeadInclusionProof
    (E.l1InfoTreeLeafHash self.l1InfoTreeLeaf) self.l1InfoTreeLeaf.l1InfoTreeIndex
  if ¬ (inclusionProofValid ∧ l1InfoRoot = self.l1HeadInclusionProof.root) then
    .error (.invalidInclusionProofL1Head self.l1InfoTreeLeaf.l1InfoTreeIndex
      (E.l1InfoTreeLeafHash self.l1InfoTreeLeaf) l1InfoRoot)

/-- What the trusted sequencer signs in optimistic mode. -/
def signatureCommitment (newLocalExitRoot commitImportedBridgeExits : Digest) : Digest :=
  E.keccak256Combine [self.sha256PublicValues E, newLocalExitRoot, commitImportedBridgeExits]

/-- Verify one ECDSA or the sp1 proof. -/
def verify (l1InfoRoot newLocalExitRoot commitImportedBridgeExits : Digest) :
    Except GuestStop Unit :=
  match self.signatureOptimisticMode with
  | some signature =>
    match E.recoverAddressFromPrehash signature
        (self.signatureCommitment E newLocalExitRoot commitImportedBridgeExits) with
    | .error _ => .error (.error .invalidSignature)
    | .ok recoveredSigner =>
      if recoveredSigner ≠ self.trustedSequencer then
        .error (.error (.invalidSigner self.trustedSequencer recoveredSigner))
      else .ok ()
  | none => do
    (self.verifyL1Head E l1InfoRoot).mapError .error
    if E.verifySp1Proof self.aggregationVkeyHash.toHashU32 (self.sha256PublicValues E) then .ok ()
    else .error .abort

/-- `compute_claim_root` -/
def computeClaimRoot : Digest :=
  computeOutputRoot self.newStateRoot self.newWithdrawalStorageRoot self.newBlockHash

end Model

/-! ## Binding -/

section Binding

variable {X : Ext} {f g : FepInputs X}

/-- The fields of the inputs that the chain parameters are built from. -/
structure SameParams (f g : FepInputs X) : Prop where
  prevStateRoot : f.prevStateRoot = g.prevStateRoot
  newStateRoot : f.newStateRoot = g.newStateRoot
  claimBlockNum : f.claimBlockNum = g.claimBlockNum
  rollupConfigHash : f.rollupConfigHash = g.rollupConfigHash
  trustedSequencer : f.trustedSequencer = g.trustedSequencer
  rangeVkeyCommitment : f.rangeVkeyCommitment = g.rangeVkeyCommitment
  aggregationVkeyHash : f.aggregationVkeyHash = g.aggregationVkeyHash
  signaturePresent : f.signatureOptimisticMode.isSome = g.signatureOptimisticMode.isSome

theorem aggchainParamsValues_eq_some {v : AggchainParamsValues} :
    f.aggchainParamsValues = some v ↔ ∃ h, f.aggregationVkeyHash.toHashBn254 = some h ∧
      v = { l2PreRoot := f.prevStateRoot
            claimRoot := f.newStateRoot
            claimBlockNum := BitVec.ofNat 256 f.claimBlockNum.toNat
            rollupConfigHash := f.rollupConfigHash
            optimisticMode := f.signatureOptimisticMode.isSome
            trustedSequencer := f.trustedSequencer
            rangeVkeyCommitment := f.rangeVkeyCommitment
            aggregationVkeyHash := h } := by
  have hmode : (f.optimisticMode == .Ecdsa) = f.signatureOptimisticMode.isSome := by
    unfold optimisticMode
    cases f.signatureOptimisticMode.isSome <;> rfl
  simp only [aggchainParamsValues, Option.bind_eq_bind, Option.bind_eq_some_iff, hmode,
    Option.some.injEq]
  exact exists_congr fun h => and_congr_right fun _ => eq_comm

/-- The chain parameters can be computed exactly when the key digest can be encoded. -/
theorem exists_aggchainParams_iff (E : Env X) :
    (∃ params, f.aggchainParams E = some params) ↔
      f.aggregationVkeyHash.toHashBn254.isSome = true := by
  simp only [aggchainParams, encodedAggchainParams, Option.map_map, Option.map_eq_some_iff,
    aggchainParamsValues_eq_some, Option.isSome_iff_exists]
  constructor
  · rintro ⟨-, -, ⟨h, hh, -⟩, -⟩
    exact ⟨h, hh⟩
  · rintro ⟨h, hh⟩
    exact ⟨_, _, ⟨h, hh, rfl⟩, rfl⟩

theorem sameParams_of_values_eq {v : AggchainParamsValues} (hf : f.aggchainParamsValues = some v)
    (hg : g.aggchainParamsValues = some v) : SameParams f g := by
  obtain ⟨h, hh, rfl⟩ := aggchainParamsValues_eq_some.mp hf
  obtain ⟨h', hh', heq⟩ := aggchainParamsValues_eq_some.mp hg
  simp only [AggchainParamsValues.mk.injEq] at heq
  obtain ⟨hpre, hnew, hnum, hconfig, hsig, hseq, hrange, rfl⟩ := heq
  refine ⟨hpre, hnew, ?_, hconfig, hseq, hrange, BabyBearDigest.toHashBn254_inj hh hh', hsig⟩
  have hlt : ∀ n : UInt32, n.toNat < 2 ^ 256 := fun n => n.toNat_lt.trans (by norm_num)
  have hnat := congrArg BitVec.toNat hnum
  rw [BitVec.toNat_ofNat, BitVec.toNat_ofNat, Nat.mod_eq_of_lt (hlt _), Nat.mod_eq_of_lt (hlt _)]
    at hnat
  exact UInt32.toNat_inj.mp hnat

/-- **Binding of the packed chain parameters.** -/
theorem encodedAggchainParams_inj {e : List UInt8} (hf : f.encodedAggchainParams = some e)
    (hg : g.encodedAggchainParams = some e) : SameParams f g := by
  obtain ⟨v, hv, rfl⟩ := Option.map_eq_some_iff.mp hf
  obtain ⟨v', hv', he⟩ := Option.map_eq_some_iff.mp hg
  obtain rfl := AggchainParamsValues.abiEncodePacked_inj he
  exact sameParams_of_values_eq hv hv'

/-! ### What the sequencer signs -/

/-- The fields of the inputs that the inner public values are built from. -/
structure SameSigned (f g : FepInputs X) : Prop where
  l1Head : f.l1Head = g.l1Head
  prevStateRoot : f.prevStateRoot = g.prevStateRoot
  newStateRoot : f.newStateRoot = g.newStateRoot
  claimBlockNum : f.claimBlockNum = g.claimBlockNum
  rollupConfigHash : f.rollupConfigHash = g.rollupConfigHash
  rangeVkeyCommitment : f.rangeVkeyCommitment = g.rangeVkeyCommitment
  trustedSequencer : f.trustedSequencer = g.trustedSequencer

theorem sameSigned_of_abiEncode_eq
    (h : f.aggregationProofPublicValues.abiEncode = g.aggregationProofPublicValues.abiEncode) :
    SameSigned f g := by
  have hvalues := AggregationProofPublicValues.abiEncode_inj h
  simp only [aggregationProofPublicValues, AggregationProofPublicValues.mk.injEq] at hvalues
  obtain ⟨hhead, hpre, hnew, hnum, hconfig, hrange, hseq⟩ := hvalues
  refine ⟨hhead, hpre, hnew, ?_, hconfig, hrange, hseq⟩
  have hnat := congrArg UInt64.toNat hnum
  rw [UInt32.toNat_toUInt64, UInt32.toNat_toUInt64] at hnat
  exact UInt32.toNat_inj.mp hnat

/-- What is hashed to the signed commitment. -/
def signedBytes (E : Env X) (f : FepInputs X) (newLocalExitRoot commitImportedBridgeExits : Digest) :
    List UInt8 :=
  [(f.sha256PublicValues E).val, newLocalExitRoot.val, commitImportedBridgeExits.val].flatten

/-- A collision of keccak256 or sha256 between two signed commitments. -/
def SignedCollision (E : Env X) (f g : FepInputs X) (ler ler' commit commit' : Digest) : Prop :=
  (f.signedBytes E ler commit ≠ g.signedBytes E ler' commit' ∧
    E.keccak256 (f.signedBytes E ler commit) = E.keccak256 (g.signedBytes E ler' commit')) ∨
  (f.aggregationProofPublicValues.abiEncode ≠ g.aggregationProofPublicValues.abiEncode ∧
    f.sha256PublicValues E = g.sha256PublicValues E)

/-- Equal signed commitments cover the same fields and the same two digests, up to a collision. -/
theorem sameSigned_or_collision {E : Env X} {ler ler' commit commit' : Digest}
    (h : f.signatureCommitment E ler commit = g.signatureCommitment E ler' commit') :
    (SameSigned f g ∧ ler = ler' ∧ commit = commit') ∨
      SignedCollision E f g ler ler' commit commit' := by
  by_cases hbytes : f.signedBytes E ler commit = g.signedBytes E ler' commit'
  · have hpieces := Bytes.packed_inj (by simp) hbytes
    simp only [List.cons.injEq, and_true] at hpieces
    obtain ⟨hsha, hler, hcommit⟩ := hpieces
    by_cases hencode : f.aggregationProofPublicValues.abiEncode =
        g.aggregationProofPublicValues.abiEncode
    · exact Or.inl ⟨sameSigned_of_abiEncode_eq hencode, Subtype.ext hler, Subtype.ext hcommit⟩
    · exact Or.inr (Or.inr ⟨hencode, Subtype.ext hsha⟩)
  · exact Or.inr (Or.inl ⟨hbytes, h⟩)

/-- With a signature, the check is that the sequencer signed the commitment. -/
theorem verify_signed_ok_iff {E : Env X} {signature : X.Signature} {l1InfoRoot ler commit : Digest}
    (hmode : f.signatureOptimisticMode = some signature) :
    f.verify E l1InfoRoot ler commit = .ok () ↔
      E.recoverAddressFromPrehash signature (f.signatureCommitment E ler commit) =
        .ok f.trustedSequencer := by
  simp only [verify, hmode]
  cases hrec : E.recoverAddressFromPrehash signature (f.signatureCommitment E ler commit) with
  | error e => simp
  | ok signer =>
    simp only [ne_eq, Except.ok.injEq]
    by_cases hsigner : signer = f.trustedSequencer
    · simp [hsigner]
    · simp [hsigner]

end Binding

end FepInputs

end Aggchain
