import Aggchain.Guest.StaticCall

/-!
# Aggchain.Guest.L2View — what the L2 contracts answer, block by block

`L2View` is the L2 chain as the guest can ask about it: the value of each view function of each
contract at each block hash.  The guest only sees it through the static-call executor;
`ExecutorSound` is what it has to assume of that executor, `Env.onChain` an executor that satisfies
it (`executorSound_onChain`).
-/

namespace Aggchain

/-- The values of the contracts' view functions, by block hash and contract address. -/
structure L2View where
  bytes32 : Digest → Address → SolFunction → Digest
  bridgeAddress : Digest → Address → Address

/-- The executor is sound for the chain `V`: what an accepted sketch makes a call return, at the
block hash it reports as its anchor, is what the contract returns at that block. -/
structure ExecutorSound {X : Ext} (E : Env X) (V : L2View) : Prop where
  bytes32 : ∀ {sketch i out anchor v}, E.clientExecutorEth sketch = .ok () →
    E.clientExecutorExecute sketch i = .ok ⟨out, anchor⟩ → i.calldata ≠ .bridgeAddress →
    E.abiDecodeBytes32 out = .ok v → v = V.bytes32 anchor i.contractAddress i.calldata
  address : ∀ {sketch i out anchor v}, E.clientExecutorEth sketch = .ok () →
    E.clientExecutorExecute sketch i = .ok ⟨out, anchor⟩ → i.calldata = .bridgeAddress →
    E.abiDecodeAddress out = .ok v → v = V.bridgeAddress anchor i.contractAddress

namespace ExecutorSound

open StaticCallWithContext (Answers)

variable {X : Ext} {E : Env X} {V : L2View} {sketch : X.Sketch} {addr caller : Address}
  {anchor : Digest}

theorem answers_bytes32 (hE : ExecutorSound E V) {f : SolFunction} (hf : f ≠ .bridgeAddress)
    {v : Digest} (h : Answers E sketch addr caller ⟨f, E.abiDecodeBytes32⟩ v anchor) :
    v = V.bytes32 anchor addr f := by
  obtain ⟨heth, out, hex, hdec⟩ := h
  exact hE.bytes32 heth hex hf hdec

theorem answers_bridgeAddress (hE : ExecutorSound E V) {v : Address}
    (h : Answers E sketch addr caller E.bridgeAddressCall v anchor) :
    v = V.bridgeAddress anchor addr := by
  obtain ⟨heth, out, hex, hdec⟩ := h
  exact hE.address heth hex rfl hdec

end ExecutorSound

/-! ## An executor on the chain itself -/

section OnChain

/-- `abi_decode_returns` for one `bytes32`, which is also its `abi_decode_returns_validate`: the first
word.  Bytes behind it are not looked at. -/
def decodeBytes32 (data : List UInt8) : Except Report Digest :=
  if h : 32 ≤ data.length then .ok ⟨data.take 32, List.length_take_of_le h⟩
  else .error "buffer overrun while deserializing"

/-- `abi_decode_returns` for one `address`: the low bytes of the first word, whatever the others
are. -/
def decodeAddress (data : List UInt8) : Except Report Address :=
  (decodeBytes32 data).map (fun word => ⟨word.val.drop 12, by rw [List.length_drop, word.2]⟩)

/-- `abi_decode_returns_validate` for one `address`: the other bytes of the word are zero. -/
def decodeAddressValidate (data : List UInt8) : Except Report Address := do
  let address ← decodeAddress data
  if data.take 12 ≠ List.replicate 12 0 then .error "type check failed for address"
  else .ok address

/-- The returned data of a call at a block. -/
def L2View.output (V : L2View) (block : Digest) (i : ContractInput) : List UInt8 :=
  match i.calldata with
  | .bridgeAddress => List.replicate 12 0 ++ (V.bridgeAddress block i.contractAddress).val
  | f => (V.bytes32 block i.contractAddress f).val

/-- The functions of `E`, with static calls that read the chain `V`: a sketch is the hash of the
block it is anchored at. -/
def Env.onChain {X : Ext} (E : Env X) (V : L2View) : Env { X with Sketch := Digest } where
  keccak256 := E.keccak256
  sha256 := E.sha256
  recoverAddressFromPrehash := E.recoverAddressFromPrehash
  verifySp1Proof := E.verifySp1Proof
  merkleProofVerify := E.merkleProofVerify
  l1InfoTreeLeafHash := E.l1InfoTreeLeafHash
  l1InfoTreeLeafGer := E.l1InfoTreeLeafGer
  claimCommitment := E.claimCommitment
  importedBridgeExitsCommitmentV3 := E.importedBridgeExitsCommitmentV3
  clientExecutorEth _ := .ok ()
  clientExecutorExecute block i := .ok ⟨V.output block i, block⟩
  abiDecodeBytes32 := decodeBytes32
  abiDecodeAddress := decodeAddressValidate

@[simp] theorem decodeBytes32_val (d : Digest) : decodeBytes32 d.val = .ok d := by
  rw [decodeBytes32, dif_pos d.2.ge]
  congr 1
  exact Subtype.ext (List.take_of_length_le d.2.le)

@[simp] theorem decodeAddress_pad (a : Address) :
    decodeAddress (List.replicate 12 0 ++ a.val) = .ok a := by
  have hlen : (List.replicate 12 (0 : UInt8) ++ a.val).length = 32 := by simp [a.2]
  have hword := decodeBytes32_val ⟨List.replicate 12 0 ++ a.val, hlen⟩
  dsimp only at hword
  rw [decodeAddress, hword]
  rfl

/-- A padded address passes the check of its word. -/
@[simp] theorem decodeAddressValidate_pad (a : Address) :
    decodeAddressValidate (List.replicate 12 0 ++ a.val) = .ok a := by
  have hpad : (List.replicate 12 (0 : UInt8) ++ a.val).take 12 = List.replicate 12 0 := by simp
  rw [decodeAddressValidate, decodeAddress_pad, hpad]
  rfl

theorem L2View.output_bytes32 (V : L2View) (block : Digest) {i : ContractInput}
    (hi : i.calldata ≠ .bridgeAddress) :
    V.output block i = (V.bytes32 block i.contractAddress i.calldata).val := by
  unfold output
  split
  · contradiction
  · rfl

theorem L2View.output_bridgeAddress (V : L2View) (block : Digest) {i : ContractInput}
    (hi : i.calldata = .bridgeAddress) :
    V.output block i = List.replicate 12 0 ++ (V.bridgeAddress block i.contractAddress).val := by
  rw [output, hi]

theorem executorSound_onChain {X : Ext} (E : Env X) (V : L2View) :
    ExecutorSound (E.onChain V) V where
  bytes32 := by
    rintro sketch i out anchor v - hex hf hdec
    obtain ⟨rfl, rfl⟩ := ContractPublicValues.mk.inj (Except.ok.inj hex)
    rw [V.output_bytes32 _ hf] at hdec
    exact (Except.ok.inj ((decodeBytes32_val _).symm.trans hdec)).symm
  address := by
    rintro sketch i out anchor v - hex hf hdec
    obtain ⟨rfl, rfl⟩ := ContractPublicValues.mk.inj (Except.ok.inj hex)
    rw [V.output_bridgeAddress _ hf] at hdec
    exact (Except.ok.inj ((decodeAddressValidate_pad _).symm.trans hdec)).symm

end OnChain

end Aggchain
