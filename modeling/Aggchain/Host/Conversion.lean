import Aggchain.Host.Inputs
import Aggchain.Lib.Fallible

/-!
# Aggchain.Host.Conversion — `aggkit-prover-types`: from messages to proof inputs

The `v1` messages have optional sub-messages.  A conversion fails at the first one that is missing
or malformed, with the path of the field; errors of nested messages are wrapped with the path of the
field that holds them.

`tryInto_ok_iff` and its siblings say when a conversion succeeds and with what: `Converts` is
lossless on block numbers, GER keys and the order of the exits.
-/

namespace Aggchain

/-! ## Errors -/

/-- The variants of `AggchainProofRequestError` that the conversions use. -/
inductive RequestErrorKind where
  | missingGlobalIndex
  | missingL1InfoTreeLeaf
  | invalidL1InfoTreeLeaf
  | missingL1InfoTreeRootHash
  | missingL1InfoTreeMerkleProof
  | invalidL1InfoTreeMerkleProof
  | invalidInsertedGerWithBlockNumberConversion
  | invalidDigest
  | invalidImportedBridgeExit
  | missingInsertedGer
  | invalidInsertedGer
  | invalidOptimisticModeSignature
  | missingOptimisticModeSignature
  | invalidAggchainProofRequest
  | missingAggchainProofRequest
  deriving DecidableEq

/-- The text of the error. -/
def RequestErrorKind.message : RequestErrorKind → String
  | .missingGlobalIndex => "Missing request global index"
  | .missingL1InfoTreeLeaf => "Missing l1 info tree leaf"
  | .invalidL1InfoTreeLeaf => "Invalid l1 info tree leaf"
  | .missingL1InfoTreeRootHash => "Missing l1 info tree root hash"
  | .missingL1InfoTreeMerkleProof => "Missing or invalid l1 info merkle tree proof"
  | .invalidL1InfoTreeMerkleProof => "Invalid l1 info tree merkle proof"
  | .invalidInsertedGerWithBlockNumberConversion =>
    "Invalid inserted GER with block number conversion"
  | .invalidDigest => "Invalid digest"
  | .invalidImportedBridgeExit => "Invalid imported bridge exit"
  | .missingInsertedGer => "Missing inserted ger"
  | .invalidInsertedGer => "Invalid inserted ger"
  | .invalidOptimisticModeSignature => "Invalid optimistic mode signature"
  | .missingOptimisticModeSignature => "Missing optimistic mode signature"
  | .invalidAggchainProofRequest => "Invalid aggchain-proof request"
  | .missingAggchainProofRequest => "Missing aggchain-proof request"

/-- `AggchainProofRequestError`: a missing field, a field another crate could not convert, or a field
whose own conversion failed. -/
inductive AggchainProofRequestError where
  | missing (kind : RequestErrorKind) (path : String)
  | foreign (kind : RequestErrorKind) (path : String) (source : Report)
  | nested (kind : RequestErrorKind) (path : String) (source : AggchainProofRequestError)
  deriving DecidableEq

namespace AggchainProofRequestError

def fieldPath : AggchainProofRequestError → String
  | .missing _ path => path
  | .foreign _ path _ => path
  | .nested _ path _ => path

/-- `Display` -/
def message : AggchainProofRequestError → String
  | .missing kind _ => kind.message
  | .foreign kind _ _ => kind.message
  | .nested kind _ _ => kind.message

end AggchainProofRequestError

/-! ## Messages -/

/-- The messages of `agglayer.interop.types.v1` and their conversions. -/
structure Wire (X : Ext) (Y : HostExt) where
  FixedBytes32 : Type
  FixedBytes65 : Type
  L1InfoTreeLeafWithContext : Type
  MerkleProofMessage : Type
  digest : FixedBytes32 → Except Report Digest
  globalIndex : FixedBytes32 → Except Report Y.GlobalIndex
  l1InfoTreeLeaf : L1InfoTreeLeafWithContext → Except Report L1InfoTreeLeaf
  merkleProof : MerkleProofMessage → Except Report MerkleProof
  signature : FixedBytes65 → Except Report X.Signature
  /-- `From<Digest>` -/
  ofDigest : Digest → FixedBytes32

section Messages

variable {X : Ext} {Y : HostExt}

structure ProvenInsertedGer (W : Wire X Y) where
  proofGerL1root : Option W.MerkleProofMessage
  l1Leaf : Option W.L1InfoTreeLeafWithContext

structure ProvenInsertedGerWithBlockNumber (W : Wire X Y) where
  blockNumber : UInt64
  provenInsertedGer : Option (ProvenInsertedGer W)
  blockIndex : UInt64

/-- `v1::ImportedBridgeExitWithBlockNumber` -/
structure ImportedBridgeExitMessage (W : Wire X Y) where
  blockNumber : UInt64
  globalIndex : Option W.FixedBytes32
  bridgeExitHash : Option W.FixedBytes32

structure GenerateAggchainProofRequest (W : Wire X Y) where
  lastProvenBlock : UInt64
  requestedEndBlock : UInt64
  l1InfoTreeRootHash : Option W.FixedBytes32
  l1InfoTreeLeaf : Option W.L1InfoTreeLeafWithContext
  l1InfoTreeMerkleProof : Option W.MerkleProofMessage
  gerLeaves : IterMap String (ProvenInsertedGerWithBlockNumber W)
  importedBridgeExits : List (ImportedBridgeExitMessage W)

structure GenerateOptimisticAggchainProofRequest (W : Wire X Y) where
  aggchainProofRequest : Option (GenerateAggchainProofRequest W)
  optimisticModeSignature : Option W.FixedBytes65

end Messages

/-! ## Conversions -/

section Model

variable {X : Ext} {Y : HostExt} {W : Wire X Y} {M S T : Type}

/-- `value.field.ok_or(missing)?.try_into().map_err(invalid)?` -/
def required (field : Option M) (missing : AggchainProofRequestError) (convert : M → Except S T)
    (invalid : S → AggchainProofRequestError) : Except AggchainProofRequestError T := do
  let message ← Except.okOr field missing
  (convert message).mapError invalid

def ProvenInsertedGer.tryInto (value : ProvenInsertedGer W) :
    Except AggchainProofRequestError InsertedGer := do
  let proofGerL1root ← required value.proofGerL1root
    (.missing .missingInsertedGer "proof_ger_l1root") W.merkleProof
    (.foreign .invalidInsertedGer "proof_ger_l1root")
  let l1Leaf ← required value.l1Leaf (.missing .missingL1InfoTreeLeaf "l1_leaf") W.l1InfoTreeLeaf
    (.foreign .invalidL1InfoTreeLeaf "l1_leaf")
  pure { proofGerL1root, l1Leaf }

def ProvenInsertedGerWithBlockNumber.tryInto (value : ProvenInsertedGerWithBlockNumber W) :
    Except AggchainProofRequestError InsertedGerWithBlockNumber := do
  let insertedGer ← required value.provenInsertedGer
    (.missing .missingInsertedGer "proven_inserted_ger") ProvenInsertedGer.tryInto
    (.nested .invalidInsertedGer "proven_inserted_ger")
  pure { blockNumber := value.blockNumber, insertedGer, blockIndex := value.blockIndex }

/-- Both fields report the path of the global index, and a missing hash is reported as a missing
global index. -/
def ImportedBridgeExitMessage.tryInto (value : ImportedBridgeExitMessage W) :
    Except AggchainProofRequestError (ImportedBridgeExitWithBlockNumber Y) := do
  let globalIndex ← required value.globalIndex (.missing .missingGlobalIndex "global_index")
    W.globalIndex (.foreign .invalidDigest "global_index")
  let bridgeExitHash ← required value.bridgeExitHash (.missing .missingGlobalIndex "global_index")
    W.digest (.foreign .invalidDigest "global_index")
  pure { blockNumber := value.blockNumber, bridgeExitHash, globalIndex }

/-- `into_iter().map(..).collect::<Result<HashMap, _>>`, entry by entry; the keys stay. -/
def tryMapEntries {K V ε : Type} (f : V → Except ε T) :
    (l : List (K × V)) → Except ε { l' : List (K × T) // l'.map Prod.fst = l.map Prod.fst }
  | [] => .ok ⟨[], rfl⟩
  | (k, v) :: rest => do
    let t ← f v
    let rest' ← tryMapEntries f rest
    .ok ⟨(k, t) :: rest'.val, by simp [rest'.property]⟩

/-- The converted map, given the iteration order of the original one. -/
def IterMap.tryMap {K V ε : Type} (self : IterMap K V) (f : V → Except ε T) :
    Except ε (IterMap K T) := do
  let entries ← tryMapEntries f self.entries
  .ok ⟨entries.val, by rw [entries.property]; exact self.nodup⟩

def GenerateAggchainProofRequest.tryInto (value : GenerateAggchainProofRequest W) :
    Except AggchainProofRequestError (AggchainProofInputs Y) := do
  let l1InfoTreeRootHash ← required value.l1InfoTreeRootHash
    (.missing .missingL1InfoTreeRootHash "l1_info_tree_root_hash") W.digest
    (.foreign .invalidDigest "l1_info_tree_root_hash")
  let l1InfoTreeLeaf ← required value.l1InfoTreeLeaf
    (.missing .missingL1InfoTreeLeaf "l1_info_tree_leaf") W.l1InfoTreeLeaf
    (.foreign .invalidL1InfoTreeLeaf "l1_info_tree_leaf")
  let l1InfoTreeMerkleProof ← required value.l1InfoTreeMerkleProof
    (.missing .missingL1InfoTreeMerkleProof "l1_info_tree_merkle_proof") W.merkleProof
    (.foreign .invalidL1InfoTreeMerkleProof "l1_info_tree_merkle_proof")
  let gerLeaves ← value.gerLeaves.tryMap (fun v => v.tryInto.mapError
    (.nested .invalidInsertedGerWithBlockNumberConversion "ger_leaves"))
  let importedBridgeExits ← (value.importedBridgeExits.mapM
    ImportedBridgeExitMessage.tryInto).mapError
    (.nested .invalidImportedBridgeExit "imported_bridge_exits")
  pure { lastProvenBlock := value.lastProvenBlock, requestedEndBlock := value.requestedEndBlock,
         l1InfoTreeRootHash, l1InfoTreeLeaf, l1InfoTreeMerkleProof, gerLeaves,
         importedBridgeExits }

def GenerateOptimisticAggchainProofRequest.tryInto
    (value : GenerateOptimisticAggchainProofRequest W) :
    Except AggchainProofRequestError (OptimisticAggchainProofInputs X Y) := do
  let signatureOptimisticMode ← required value.optimisticModeSignature
    (.missing .missingOptimisticModeSignature "optimistic_mode_signature") W.signature
    (.foreign .invalidOptimisticModeSignature "optimistic_mode_signature")
  let aggchainProofInputs ← required value.aggchainProofRequest
    (.missing .missingAggchainProofRequest "aggchain_proof_request")
    GenerateAggchainProofRequest.tryInto
    (.nested .invalidAggchainProofRequest "aggchain_proof_request")
  pure { aggchainProofInputs, signatureOptimisticMode }

end Model

/-! ## Specification -/

/-- A sub-message that is there and converts to `t`. -/
def Present {M S T : Type} (field : Option M) (convert : M → Except S T) (t : T) : Prop :=
  ∃ message, field = some message ∧ convert message = .ok t

/-- `HashMap::get` -/
def IterMap.get {K V : Type} [BEq K] (self : IterMap K V) (key : K) : Option V :=
  self.entries.lookup key

section Converts

variable {X : Ext} {Y : HostExt} {W : Wire X Y}

structure ProvenInsertedGer.Converts (value : ProvenInsertedGer W) (t : InsertedGer) : Prop where
  proofGerL1root : Present value.proofGerL1root W.merkleProof t.proofGerL1root
  l1Leaf : Present value.l1Leaf W.l1InfoTreeLeaf t.l1Leaf

structure ProvenInsertedGerWithBlockNumber.Converts (value : ProvenInsertedGerWithBlockNumber W)
    (t : InsertedGerWithBlockNumber) : Prop where
  blockNumber : t.blockNumber = value.blockNumber
  blockIndex : t.blockIndex = value.blockIndex
  insertedGer : ∃ message, value.provenInsertedGer = some message ∧ message.Converts t.insertedGer

structure ImportedBridgeExitMessage.Converts (value : ImportedBridgeExitMessage W)
    (t : ImportedBridgeExitWithBlockNumber Y) : Prop where
  blockNumber : t.blockNumber = value.blockNumber
  globalIndex : Present value.globalIndex W.globalIndex t.globalIndex
  bridgeExitHash : Present value.bridgeExitHash W.digest t.bridgeExitHash

/-- **Lossless conversion**: the same block numbers, the same GER keys each with its own entry, the
exits in the same number and order, and every sub-message converted. -/
structure GenerateAggchainProofRequest.Converts (value : GenerateAggchainProofRequest W)
    (t : AggchainProofInputs Y) : Prop where
  lastProvenBlock : t.lastProvenBlock = value.lastProvenBlock
  requestedEndBlock : t.requestedEndBlock = value.requestedEndBlock
  l1InfoTreeRootHash : Present value.l1InfoTreeRootHash W.digest t.l1InfoTreeRootHash
  l1InfoTreeLeaf : Present value.l1InfoTreeLeaf W.l1InfoTreeLeaf t.l1InfoTreeLeaf
  l1InfoTreeMerkleProof :
    Present value.l1InfoTreeMerkleProof W.merkleProof t.l1InfoTreeMerkleProof
  gerLeaves : ∀ key, Option.Rel ProvenInsertedGerWithBlockNumber.Converts
    (value.gerLeaves.get key) (t.gerLeaves.get key)
  importedBridgeExits : List.Forall₂ ImportedBridgeExitMessage.Converts
    value.importedBridgeExits t.importedBridgeExits

/-- A sub-message that is there and converts. -/
def Convertible {M S T : Type} (field : Option M) (convert : M → Except S T) : Prop :=
  ∃ t, Present field convert t

/-- All that a request needs besides its block range: every required sub-message is there and
converts. -/
structure GenerateAggchainProofRequest.Complete (value : GenerateAggchainProofRequest W) :
    Prop where
  l1InfoTreeRootHash : Convertible value.l1InfoTreeRootHash W.digest
  l1InfoTreeLeaf : Convertible value.l1InfoTreeLeaf W.l1InfoTreeLeaf
  l1InfoTreeMerkleProof : Convertible value.l1InfoTreeMerkleProof W.merkleProof
  gerLeaves : ∀ e ∈ value.gerLeaves.values, ∃ message, e.provenInsertedGer = some message ∧
    Convertible message.proofGerL1root W.merkleProof ∧ Convertible message.l1Leaf W.l1InfoTreeLeaf
  importedBridgeExits : ∀ e ∈ value.importedBridgeExits,
    Convertible e.globalIndex W.globalIndex ∧ Convertible e.bridgeExitHash W.digest

end Converts

/-! ### Success of a conversion -/

section Success

variable {X : Ext} {Y : HostExt} {W : Wire X Y} {M S T : Type}

theorem required_eq_ok_iff {field : Option M} {missing : AggchainProofRequestError}
    {convert : M → Except S T} {invalid : S → AggchainProofRequestError} {t : T} :
    required field missing convert invalid = .ok t ↔ Present field convert t := by
  simp only [required, Except.bind_eq_ok, Except.okOr_eq_ok, Except.mapError_eq_ok, Present]

theorem ProvenInsertedGer.tryInto_ok_iff {value : ProvenInsertedGer W} {t : InsertedGer} :
    value.tryInto = .ok t ↔ value.Converts t := by
  simp only [tryInto, Except.bind_eq_ok, required_eq_ok_iff, Except.pure_eq_ok]
  constructor
  · rintro ⟨proof, hproof, leaf, hleaf, rfl⟩
    exact ⟨hproof, hleaf⟩
  · intro h
    exact ⟨_, h.proofGerL1root, _, h.l1Leaf, rfl⟩

theorem ProvenInsertedGerWithBlockNumber.tryInto_ok_iff
    {value : ProvenInsertedGerWithBlockNumber W} {t : InsertedGerWithBlockNumber} :
    value.tryInto = .ok t ↔ value.Converts t := by
  simp only [tryInto, Except.bind_eq_ok, required_eq_ok_iff, Except.pure_eq_ok, Present,
    ProvenInsertedGer.tryInto_ok_iff]
  constructor
  · rintro ⟨ger, hger, rfl⟩
    exact ⟨rfl, rfl, hger⟩
  · rintro ⟨hnumber, hindex, hger⟩
    refine ⟨_, hger, ?_⟩
    rw [← hnumber, ← hindex]

theorem ImportedBridgeExitMessage.tryInto_ok_iff {value : ImportedBridgeExitMessage W}
    {t : ImportedBridgeExitWithBlockNumber Y} : value.tryInto = .ok t ↔ value.Converts t := by
  simp only [tryInto, Except.bind_eq_ok, required_eq_ok_iff, Except.pure_eq_ok]
  constructor
  · rintro ⟨index, hindex, hash, hhash, rfl⟩
    exact ⟨rfl, hindex, hhash⟩
  · rintro ⟨hnumber, hindex, hhash⟩
    refine ⟨_, hindex, _, hhash, ?_⟩
    rw [← hnumber]

/-- Entry by entry, under the same keys. -/
theorem tryMapEntries_eq_ok_iff {K V ε : Type} {f : V → Except ε T} {l : List (K × V)}
    {l' : { l' : List (K × T) // l'.map Prod.fst = l.map Prod.fst }} :
    tryMapEntries f l = .ok l' ↔
      List.Forall₂ (fun e e' => e.1 = e'.1 ∧ f e.2 = .ok e'.2) l l'.val := by
  induction l with
  | nil =>
    obtain ⟨l', hl'⟩ := l'
    obtain rfl : l' = [] := by simpa using hl'
    simp [tryMapEntries]
  | cons e l ih =>
    obtain ⟨k, v⟩ := e
    obtain ⟨l', hl'⟩ := l'
    simp only [tryMapEntries, Except.bind_eq_ok, Except.ok.injEq, Subtype.mk.injEq]
    rw [List.forall₂_cons_left_iff]
    constructor
    · rintro ⟨t, ht, rest, hrest, rfl⟩
      exact ⟨(k, t), rest.val, ⟨rfl, ht⟩, ih.mp hrest, rfl⟩
    · rintro ⟨⟨_, t⟩, rest, ⟨rfl, ht⟩, hrest, rfl⟩
      have hkeys : rest.map Prod.fst = l.map Prod.fst := by simpa using hl'
      exact ⟨t, ht, ⟨rest, hkeys⟩, ih.mpr hrest, rfl⟩

theorem lookup_rel {K V : Type} [BEq K] {R : V → T → Prop} {l : List (K × V)} {l' : List (K × T)}
    (h : List.Forall₂ (fun e e' => e.1 = e'.1 ∧ R e.2 e'.2) l l') (key : K) :
    Option.Rel R (l.lookup key) (l'.lookup key) := by
  induction h with
  | nil => exact .none
  | @cons e e' l l' he _ ih =>
    obtain ⟨k, v⟩ := e
    obtain ⟨k', t⟩ := e'
    obtain ⟨rfl, hvt⟩ := he
    rw [List.lookup_cons, List.lookup_cons]
    cases key == k with
    | true => exact .some hvt
    | false => exact ih

/-- The converted map has the same keys. -/
theorem IterMap.tryMap_get {K V ε : Type} [BEq K] {f : V → Except ε T} {m : IterMap K V}
    {m' : IterMap K T} (h : m.tryMap f = .ok m') (key : K) :
    Option.Rel (fun v t => f v = .ok t) (m.get key) (m'.get key) := by
  simp only [tryMap, Except.bind_eq_ok, Except.ok.injEq] at h
  obtain ⟨entries, hentries, rfl⟩ := h
  exact lookup_rel (tryMapEntries_eq_ok_iff.mp hentries) key

theorem exists_tryMapEntries_eq_ok {K V ε : Type} {f : V → Except ε T} {l : List (K × V)} :
    (∃ l', tryMapEntries f l = .ok l') ↔ ∀ e ∈ l, ∃ t, f e.2 = .ok t := by
  induction l with
  | nil => simp [tryMapEntries]
  | cons e l ih =>
    obtain ⟨k, v⟩ := e
    rw [List.forall_mem_cons, ← ih]
    constructor
    · rintro ⟨l', h⟩
      simp only [tryMapEntries, Except.bind_eq_ok] at h
      obtain ⟨t, ht, rest, hrest, -⟩ := h
      exact ⟨⟨t, ht⟩, rest, hrest⟩
    · rintro ⟨⟨t, ht⟩, rest, hrest⟩
      simp only [tryMapEntries, Except.bind_eq_ok]
      exact ⟨_, t, ht, rest, hrest, rfl⟩

/-- A map is converted exactly when all its values are. -/
theorem IterMap.exists_tryMap_eq_ok {K V ε : Type} {f : V → Except ε T} {m : IterMap K V} :
    (∃ m', m.tryMap f = .ok m') ↔ ∀ v ∈ m.values, ∃ t, f v = .ok t := by
  have hvalues : (∀ v ∈ m.values, ∃ t, f v = .ok t) ↔ ∀ e ∈ m.entries, ∃ t, f e.2 = .ok t :=
    List.forall_mem_map
  rw [hvalues, ← exists_tryMapEntries_eq_ok]
  constructor
  · rintro ⟨m', h⟩
    simp only [tryMap, Except.bind_eq_ok] at h
    obtain ⟨entries, hentries, -⟩ := h
    exact ⟨entries, hentries⟩
  · rintro ⟨entries, hentries⟩
    simp only [tryMap, Except.bind_eq_ok]
    exact ⟨_, entries, hentries, rfl⟩

/-- Fields converted one by one, then put together. -/
theorem ProvenInsertedGerWithBlockNumber.exists_converts_iff
    {value : ProvenInsertedGerWithBlockNumber W} :
    (∃ t, value.Converts t) ↔ ∃ message, value.provenInsertedGer = some message ∧
      Convertible message.proofGerL1root W.merkleProof ∧
      Convertible message.l1Leaf W.l1InfoTreeLeaf := by
  constructor
  · rintro ⟨t, -, -, message, hmessage, hproof, hleaf⟩
    exact ⟨message, hmessage, ⟨_, hproof⟩, ⟨_, hleaf⟩⟩
  · rintro ⟨message, hmessage, ⟨proof, hproof⟩, ⟨leaf, hleaf⟩⟩
    exact ⟨⟨value.blockNumber, ⟨proof, leaf⟩, value.blockIndex⟩, rfl, rfl, message, hmessage,
      hproof, hleaf⟩

theorem ImportedBridgeExitMessage.exists_converts_iff {value : ImportedBridgeExitMessage W} :
    (∃ t, value.Converts t) ↔
      Convertible value.globalIndex W.globalIndex ∧ Convertible value.bridgeExitHash W.digest := by
  constructor
  · rintro ⟨t, -, hindex, hhash⟩
    exact ⟨⟨_, hindex⟩, ⟨_, hhash⟩⟩
  · rintro ⟨⟨index, hindex⟩, ⟨hash, hhash⟩⟩
    exact ⟨⟨value.blockNumber, hash, index⟩, rfl, hindex, hhash⟩

/-- **The conversion of a request loses nothing.** -/
theorem GenerateAggchainProofRequest.converts_of_tryInto {value : GenerateAggchainProofRequest W}
    {t : AggchainProofInputs Y} (h : value.tryInto = .ok t) : value.Converts t := by
  simp only [tryInto, Except.bind_eq_ok, required_eq_ok_iff, Except.mapError_eq_ok,
    Except.pure_eq_ok, Except.mapM_eq_ok, ImportedBridgeExitMessage.tryInto_ok_iff] at h
  obtain ⟨root, hroot, leaf, hleaf, proof, hproof, gers, hgers, exits, hexits, rfl⟩ := h
  refine ⟨rfl, rfl, hroot, hleaf, hproof, fun key => ?_, hexits⟩
  have hrel := IterMap.tryMap_get hgers key
  simpa only [Except.mapError_eq_ok, ProvenInsertedGerWithBlockNumber.tryInto_ok_iff] using hrel

/-- A request converts exactly when everything it needs is there. -/
theorem GenerateAggchainProofRequest.exists_tryInto_ok_iff
    {value : GenerateAggchainProofRequest W} :
    (∃ t, value.tryInto = .ok t) ↔ value.Complete := by
  simp only [tryInto, Except.bind_eq_ok, required_eq_ok_iff, Except.mapError_eq_ok,
    Except.pure_eq_ok]
  constructor
  · rintro ⟨-, root, hroot, leaf, hleaf, proof, hproof, gers, hgers, exits, hexits, rfl⟩
    refine ⟨⟨root, hroot⟩, ⟨leaf, hleaf⟩, ⟨proof, hproof⟩, fun e he => ?_, fun e he => ?_⟩
    · obtain ⟨t, ht⟩ := IterMap.exists_tryMap_eq_ok.mp ⟨gers, hgers⟩ e he
      rw [Except.mapError_eq_ok, ProvenInsertedGerWithBlockNumber.tryInto_ok_iff] at ht
      exact ProvenInsertedGerWithBlockNumber.exists_converts_iff.mp ⟨t, ht⟩
    · obtain ⟨t, ht⟩ := Except.exists_mapM_eq_ok.mp ⟨exits, hexits⟩ e he
      exact ImportedBridgeExitMessage.exists_converts_iff.mp
        ⟨t, ImportedBridgeExitMessage.tryInto_ok_iff.mp ht⟩
  · rintro ⟨⟨root, hroot⟩, ⟨leaf, hleaf⟩, ⟨proof, hproof⟩, hgers, hexits⟩
    have hentry : ∀ e ∈ value.gerLeaves.values, ∃ t, e.tryInto.mapError
        (AggchainProofRequestError.nested .invalidInsertedGerWithBlockNumberConversion
          "ger_leaves") = .ok t := by
      intro e he
      obtain ⟨t, ht⟩ := ProvenInsertedGerWithBlockNumber.exists_converts_iff.mpr (hgers e he)
      exact ⟨t, Except.mapError_eq_ok.mpr (ProvenInsertedGerWithBlockNumber.tryInto_ok_iff.mpr ht)⟩
    obtain ⟨gers, hgers⟩ := IterMap.exists_tryMap_eq_ok.mpr hentry
    obtain ⟨exits, hexits⟩ := Except.exists_mapM_eq_ok.mpr fun e he => by
      obtain ⟨t, ht⟩ := ImportedBridgeExitMessage.exists_converts_iff.mpr (hexits e he)
      exact ⟨t, ImportedBridgeExitMessage.tryInto_ok_iff.mpr ht⟩
    exact ⟨_, root, hroot, leaf, hleaf, proof, hproof, gers, hgers, exits, hexits, rfl⟩

theorem GenerateOptimisticAggchainProofRequest.tryInto_ok_iff
    {value : GenerateOptimisticAggchainProofRequest W} {t : OptimisticAggchainProofInputs X Y} :
    value.tryInto = .ok t ↔
      Present value.optimisticModeSignature W.signature t.signatureOptimisticMode ∧
      Present value.aggchainProofRequest GenerateAggchainProofRequest.tryInto
        t.aggchainProofInputs := by
  simp only [tryInto, Except.bind_eq_ok, required_eq_ok_iff, Except.pure_eq_ok]
  constructor
  · rintro ⟨signature, hsignature, inputs, hinputs, rfl⟩
    exact ⟨hsignature, hinputs⟩
  · rintro ⟨hsignature, hinputs⟩
    exact ⟨_, hsignature, _, hinputs, rfl⟩

end Success

end Aggchain
