import Aggchain.Host.Rpc

/-!
# Aggchain.Host.RequestErrors — which field a conversion error names

Every error of a conversion carries the path of a field, and wraps the error of the message in that
field.  `Fault` says which paths lead to a field that is missing or malformed; `tryInto_fault_iff`
says for which requests the error spells such a path.  It does not where only hashes of bridge exits
are at fault: their errors name the global index.
-/

namespace Aggchain

/-- The paths from the outermost error through its sources. -/
def AggchainProofRequestError.fieldPaths : AggchainProofRequestError → List String
  | .missing _ path => [path]
  | .foreign _ path _ => [path]
  | .nested _ path source => path :: source.fieldPaths

/-! ## Fields at fault -/

section Faults

variable {X : Ext} {Y : HostExt} {W : Wire X Y}

/-- The field is missing, or another crate cannot convert it. -/
def Faulty {M S T : Type} (field : Option M) (convert : M → Except S T) : Prop :=
  field = none ∨ ∃ message error, field = some message ∧ convert message = .error error

/-- The path leads to a field of the message that is missing or malformed. -/
inductive ProvenInsertedGer.Fault (value : ProvenInsertedGer W) : List String → Prop where
  | proofGerL1root (h : Faulty value.proofGerL1root W.merkleProof) : Fault value ["proof_ger_l1root"]
  | l1Leaf (h : Faulty value.l1Leaf W.l1InfoTreeLeaf) : Fault value ["l1_leaf"]

@[inherit_doc ProvenInsertedGer.Fault]
inductive ProvenInsertedGerWithBlockNumber.Fault (value : ProvenInsertedGerWithBlockNumber W) :
    List String → Prop where
  | missing (h : value.provenInsertedGer = none) : Fault value ["proven_inserted_ger"]
  | nested {message : ProvenInsertedGer W} {path : List String}
      (h : value.provenInsertedGer = some message) (hfault : message.Fault path) :
      Fault value ("proven_inserted_ger" :: path)

@[inherit_doc ProvenInsertedGer.Fault]
inductive ImportedBridgeExitMessage.Fault (value : ImportedBridgeExitMessage W) :
    List String → Prop where
  | globalIndex (h : Faulty value.globalIndex W.globalIndex) : Fault value ["global_index"]
  | bridgeExitHash (h : Faulty value.bridgeExitHash W.digest) : Fault value ["bridge_exit_hash"]

/-- A map or list in a path stands for one of its elements. -/
inductive GenerateAggchainProofRequest.Fault (value : GenerateAggchainProofRequest W) :
    List String → Prop where
  | l1InfoTreeRootHash (h : Faulty value.l1InfoTreeRootHash W.digest) :
      Fault value ["l1_info_tree_root_hash"]
  | l1InfoTreeLeaf (h : Faulty value.l1InfoTreeLeaf W.l1InfoTreeLeaf) :
      Fault value ["l1_info_tree_leaf"]
  | l1InfoTreeMerkleProof (h : Faulty value.l1InfoTreeMerkleProof W.merkleProof) :
      Fault value ["l1_info_tree_merkle_proof"]
  | gerLeaves {e : ProvenInsertedGerWithBlockNumber W} {path : List String}
      (he : e ∈ value.gerLeaves.values) (hfault : e.Fault path) : Fault value ("ger_leaves" :: path)
  | importedBridgeExits {e : ImportedBridgeExitMessage W} {path : List String}
      (he : e ∈ value.importedBridgeExits) (hfault : e.Fault path) :
      Fault value ("imported_bridge_exits" :: path)

@[inherit_doc ProvenInsertedGer.Fault]
inductive GenerateOptimisticAggchainProofRequest.Fault
    (value : GenerateOptimisticAggchainProofRequest W) : List String → Prop where
  | optimisticModeSignature (h : Faulty value.optimisticModeSignature W.signature) :
      Fault value ["optimistic_mode_signature"]
  | missing (h : value.aggchainProofRequest = none) : Fault value ["aggchain_proof_request"]
  | nested {message : GenerateAggchainProofRequest W} {path : List String}
      (h : value.aggchainProofRequest = some message) (hfault : message.Fault path) :
      Fault value ("aggchain_proof_request" :: path)

/-- Every field is there and converts, but for the hashes of the bridge exits. -/
structure GenerateAggchainProofRequest.CompleteButHashes (value : GenerateAggchainProofRequest W) :
    Prop where
  l1InfoTreeRootHash : Convertible value.l1InfoTreeRootHash W.digest
  l1InfoTreeLeaf : Convertible value.l1InfoTreeLeaf W.l1InfoTreeLeaf
  l1InfoTreeMerkleProof : Convertible value.l1InfoTreeMerkleProof W.merkleProof
  gerLeaves : ∀ e ∈ value.gerLeaves.values, ∃ message, e.provenInsertedGer = some message ∧
    Convertible message.proofGerL1root W.merkleProof ∧ Convertible message.l1Leaf W.l1InfoTreeLeaf
  globalIndices : ∀ e ∈ value.importedBridgeExits, Convertible e.globalIndex W.globalIndex

/-- A hash of a bridge exit is missing or malformed, and no other field is. -/
structure GenerateAggchainProofRequest.OnlyHashesFaulty (value : GenerateAggchainProofRequest W) :
    Prop where
  others : value.CompleteButHashes
  hash : ∃ e ∈ value.importedBridgeExits, Faulty e.bridgeExitHash W.digest

@[inherit_doc GenerateAggchainProofRequest.OnlyHashesFaulty]
structure GenerateOptimisticAggchainProofRequest.OnlyHashesFaulty
    (value : GenerateOptimisticAggchainProofRequest W) : Prop where
  optimisticModeSignature : Convertible value.optimisticModeSignature W.signature
  aggchainProofRequest : ∃ message, value.aggchainProofRequest = some message ∧
    message.OnlyHashesFaulty

end Faults

/-! ## The error of each conversion -/

section Errors

variable {X : Ext} {Y : HostExt} {W : Wire X Y} {M S T : Type} {error : AggchainProofRequestError}

theorem faulty_iff {field : Option M} {convert : M → Except S T} :
    Faulty field convert ↔ ¬ Convertible field convert := by
  cases field with
  | none => simp [Faulty, Convertible, Present]
  | some message =>
    cases h : convert message with
    | error e => simp [Faulty, Convertible, Present, h]
    | ok t => simp [Faulty, Convertible, Present, h]

theorem required_eq_error_iff {field : Option M} {missing : AggchainProofRequestError}
    {convert : M → Except S T} {invalid : S → AggchainProofRequestError} :
    required field missing convert invalid = .error error ↔
      (field = none ∧ error = missing) ∨
      ∃ message e, field = some message ∧ convert message = .error e ∧ error = invalid e := by
  simp only [required, Except.bind_eq_error, Except.okOr_eq_error, Except.okOr_eq_ok,
    Except.mapError_eq_error]
  constructor
  · rintro (h | ⟨message, hmessage, e, he, rfl⟩)
    · exact Or.inl h
    · exact Or.inr ⟨message, e, hmessage, he, rfl⟩
  · rintro (h | ⟨message, e, hmessage, he, rfl⟩)
    · exact Or.inl h
    · exact Or.inr ⟨message, hmessage, e, he, rfl⟩

/-- A field that another crate converts: the error names it, and it is at fault. -/
theorem faulty_of_required {field : Option M} {kind kind' : RequestErrorKind} {path : String}
    {convert : M → Except Report T}
    (h : required field (.missing kind path) convert (.foreign kind' path) = .error error) :
    error.fieldPaths = [path] ∧ Faulty field convert := by
  rcases required_eq_error_iff.mp h with ⟨hnone, rfl⟩ | ⟨message, e, hmessage, he, rfl⟩
  · exact ⟨rfl, Or.inl hnone⟩
  · exact ⟨rfl, Or.inr ⟨message, e, hmessage, he⟩⟩

theorem ProvenInsertedGer.fault_of_error {value : ProvenInsertedGer W}
    (h : value.tryInto = .error error) : value.Fault error.fieldPaths := by
  simp only [tryInto, Except.bind_eq_error, Except.pure_ne_error, and_false, exists_false,
    or_false] at h
  rcases h with h | ⟨proof, -, h⟩
  · obtain ⟨hpath, hfault⟩ := faulty_of_required h
    rw [hpath]
    exact .proofGerL1root hfault
  · obtain ⟨hpath, hfault⟩ := faulty_of_required h
    rw [hpath]
    exact .l1Leaf hfault

theorem ProvenInsertedGerWithBlockNumber.fault_of_error {value : ProvenInsertedGerWithBlockNumber W}
    (h : value.tryInto = .error error) : value.Fault error.fieldPaths := by
  simp only [tryInto, Except.bind_eq_error, Except.pure_ne_error, and_false, exists_false,
    or_false] at h
  rcases required_eq_error_iff.mp h with ⟨hnone, rfl⟩ | ⟨message, e, hmessage, he, rfl⟩
  · exact .missing hnone
  · exact .nested hmessage (ProvenInsertedGer.fault_of_error he)

/-- The errors of both fields name the global index. -/
theorem ImportedBridgeExitMessage.fieldPaths_of_error {value : ImportedBridgeExitMessage W}
    (h : value.tryInto = .error error) : error.fieldPaths = ["global_index"] := by
  simp only [tryInto, Except.bind_eq_error, Except.pure_ne_error, and_false, exists_false,
    or_false] at h
  rcases h with h | ⟨index, -, h⟩
  · exact (faulty_of_required h).1
  · exact (faulty_of_required h).1

theorem ImportedBridgeExitMessage.faulty_of_fault {value : ImportedBridgeExitMessage W}
    (h : value.Fault ["global_index"]) : Faulty value.globalIndex W.globalIndex := by
  generalize hpath : ["global_index"] = path at h
  cases h with
  | globalIndex h => exact h
  | bridgeExitHash h => simp at hpath

theorem tryMapEntries_eq_error {K V ε : Type} {l : List (K × V)} {f : V → Except ε T} {e : ε}
    (h : tryMapEntries f l = .error e) : ∃ v ∈ l.map Prod.snd, f v = .error e := by
  induction l with
  | nil => simp [tryMapEntries] at h
  | cons entry l ih =>
    obtain ⟨k, v⟩ := entry
    simp only [tryMapEntries, Except.bind_eq_error, reduceCtorEq, and_false, exists_false,
      or_false] at h
    rcases h with h | ⟨t, -, h⟩
    · exact ⟨v, List.mem_cons_self, h⟩
    · obtain ⟨v', hv', h'⟩ := ih h
      exact ⟨v', List.mem_cons_of_mem v hv', h'⟩

/-- A map fails to convert with the error of some value. -/
theorem IterMap.tryMap_eq_error {K V ε : Type} {m : IterMap K V} {f : V → Except ε T} {e : ε}
    (h : m.tryMap f = .error e) : ∃ v ∈ m.values, f v = .error e := by
  simp only [tryMap, Except.bind_eq_error, reduceCtorEq, and_false, exists_false, or_false] at h
  exact tryMapEntries_eq_error h

namespace GenerateAggchainProofRequest

variable {value : GenerateAggchainProofRequest W}

/-- Where a conversion can stop.  The exits come last: all other fields have been converted. -/
theorem error_cases (h : value.tryInto = .error error) :
    (error.fieldPaths = ["l1_info_tree_root_hash"] ∧ Faulty value.l1InfoTreeRootHash W.digest) ∨
    (error.fieldPaths = ["l1_info_tree_leaf"] ∧ Faulty value.l1InfoTreeLeaf W.l1InfoTreeLeaf) ∨
    (error.fieldPaths = ["l1_info_tree_merkle_proof"] ∧
      Faulty value.l1InfoTreeMerkleProof W.merkleProof) ∨
    (∃ e ∈ value.gerLeaves.values, ∃ source, e.tryInto = .error source ∧
      error.fieldPaths = "ger_leaves" :: source.fieldPaths) ∨
    ((∀ e ∈ value.importedBridgeExits, Convertible e.globalIndex W.globalIndex) →
        value.CompleteButHashes) ∧
      ∃ e ∈ value.importedBridgeExits, ∃ source, e.tryInto = .error source ∧
        error.fieldPaths = "imported_bridge_exits" :: source.fieldPaths := by
  simp only [tryInto, Except.bind_eq_error, Except.pure_ne_error, and_false, exists_false,
    or_false, required_eq_ok_iff] at h
  rcases h with h | ⟨root, hroot, h | ⟨leaf, hleaf, h | ⟨proof, hproof, h | ⟨gers, hgers, h⟩⟩⟩⟩
  · exact Or.inl (faulty_of_required h)
  · exact Or.inr (Or.inl (faulty_of_required h))
  · exact Or.inr (Or.inr (Or.inl (faulty_of_required h)))
  · obtain ⟨e, he, herror⟩ := IterMap.tryMap_eq_error h
    obtain ⟨source, hsource, rfl⟩ := Except.mapError_eq_error.mp herror
    exact Or.inr (Or.inr (Or.inr (Or.inl ⟨e, he, source, hsource, rfl⟩)))
  · obtain ⟨source, hexits, rfl⟩ := Except.mapError_eq_error.mp h
    obtain ⟨e, he, hsource⟩ := Except.mapM_eq_error hexits
    refine Or.inr (Or.inr (Or.inr (Or.inr ⟨?_, e, he, source, hsource, rfl⟩)))
    intro hindices
    refine ⟨⟨root, hroot⟩, ⟨leaf, hleaf⟩, ⟨proof, hproof⟩, fun e he => ?_, hindices⟩
    obtain ⟨t, ht⟩ := IterMap.exists_tryMap_eq_ok.mp ⟨gers, hgers⟩ e he
    rw [Except.mapError_eq_ok, ProvenInsertedGerWithBlockNumber.tryInto_ok_iff] at ht
    exact ProvenInsertedGerWithBlockNumber.exists_converts_iff.mp ⟨t, ht⟩

theorem exists_error_of_onlyHashesFaulty (h : value.OnlyHashesFaulty) :
    ∃ error, value.tryInto = .error error := by
  obtain ⟨e, he, hfaulty⟩ := h.hash
  cases htry : value.tryInto with
  | error error => exact ⟨error, rfl⟩
  | ok t =>
    have hcomplete := exists_tryInto_ok_iff.mp ⟨t, htry⟩
    exact absurd (hcomplete.importedBridgeExits e he).2 (faulty_iff.mp hfaulty)

/-- Only hashes at fault: the conversion stops at an exit, and names its global index. -/
theorem fieldPaths_of_onlyHashesFaulty (hhashes : value.OnlyHashesFaulty)
    (h : value.tryInto = .error error) :
    error.fieldPaths = ["imported_bridge_exits", "global_index"] := by
  have hothers := hhashes.others
  rcases error_cases h with ⟨-, hfault⟩ | ⟨-, hfault⟩ | ⟨-, hfault⟩ | ⟨e, he, source, hsource, -⟩ |
    ⟨-, e, -, source, hsource, hpaths⟩
  · exact absurd hothers.l1InfoTreeRootHash (faulty_iff.mp hfault)
  · exact absurd hothers.l1InfoTreeLeaf (faulty_iff.mp hfault)
  · exact absurd hothers.l1InfoTreeMerkleProof (faulty_iff.mp hfault)
  · obtain ⟨t, ht⟩ := ProvenInsertedGerWithBlockNumber.exists_converts_iff.mpr (hothers.gerLeaves e he)
    rw [ProvenInsertedGerWithBlockNumber.tryInto_ok_iff.mpr ht] at hsource
    cases hsource
  · rw [hpaths, ImportedBridgeExitMessage.fieldPaths_of_error hsource]

theorem exit_of_fault {path : List String} (h : value.Fault ("imported_bridge_exits" :: path)) :
    ∃ e ∈ value.importedBridgeExits, e.Fault path := by
  generalize hpath : "imported_bridge_exits" :: path = path' at h
  cases h with
  | importedBridgeExits he hfault =>
    obtain rfl := (List.cons.inj hpath).2
    exact ⟨_, he, hfault⟩
  | _ => simp at hpath

/-- No exit has a global index at fault. -/
theorem not_fault_of_onlyHashesFaulty (hhashes : value.OnlyHashesFaulty) :
    ¬ value.Fault ["imported_bridge_exits", "global_index"] := by
  intro hfault
  obtain ⟨e, he, hindex⟩ := exit_of_fault hfault
  exact faulty_iff.mp (ImportedBridgeExitMessage.faulty_of_fault hindex)
    (hhashes.others.globalIndices e he)

/-- The error of a request points at a field at fault, unless only hashes are. -/
theorem fault_iff (value : GenerateAggchainProofRequest W) :
    (∀ error, value.tryInto = .error error → value.Fault error.fieldPaths) ↔
      ¬ value.OnlyHashesFaulty := by
  constructor
  · intro hpoints hhashes
    obtain ⟨error, herror⟩ := exists_error_of_onlyHashesFaulty hhashes
    have hfault := hpoints error herror
    rw [fieldPaths_of_onlyHashesFaulty hhashes herror] at hfault
    exact not_fault_of_onlyHashesFaulty hhashes hfault
  · intro hhashes error herror
    rcases error_cases herror with ⟨hpaths, hfault⟩ | ⟨hpaths, hfault⟩ | ⟨hpaths, hfault⟩ |
      ⟨e, he, source, hsource, hpaths⟩ | ⟨hothers, e, he, source, hsource, hpaths⟩
    · exact hpaths ▸ .l1InfoTreeRootHash hfault
    · exact hpaths ▸ .l1InfoTreeLeaf hfault
    · exact hpaths ▸ .l1InfoTreeMerkleProof hfault
    · exact hpaths ▸ .gerLeaves he (ProvenInsertedGerWithBlockNumber.fault_of_error hsource)
    · rw [hpaths, ImportedBridgeExitMessage.fieldPaths_of_error hsource]
      -- with all global indices in order it is a hash, and nothing else, that is at fault
      by_cases hindices : ∀ e ∈ value.importedBridgeExits, Convertible e.globalIndex W.globalIndex
      · refine absurd ⟨hothers hindices, e, he, faulty_iff.mpr ?_⟩ hhashes
        intro hhash
        obtain ⟨t, ht⟩ := ImportedBridgeExitMessage.exists_converts_iff.mpr ⟨hindices e he, hhash⟩
        rw [ImportedBridgeExitMessage.tryInto_ok_iff.mpr ht] at hsource
        cases hsource
      · push Not at hindices
        obtain ⟨e', he', hindex⟩ := hindices
        exact .importedBridgeExits he' (.globalIndex (faulty_iff.mpr hindex))

end GenerateAggchainProofRequest

namespace GenerateOptimisticAggchainProofRequest

variable {value : GenerateOptimisticAggchainProofRequest W}

theorem error_cases (h : value.tryInto = .error error) :
    (error.fieldPaths = ["optimistic_mode_signature"] ∧
      Faulty value.optimisticModeSignature W.signature) ∨
    Convertible value.optimisticModeSignature W.signature ∧
      ((value.aggchainProofRequest = none ∧ error.fieldPaths = ["aggchain_proof_request"]) ∨
      ∃ message source, value.aggchainProofRequest = some message ∧
        message.tryInto = .error source ∧
        error.fieldPaths = "aggchain_proof_request" :: source.fieldPaths) := by
  simp only [tryInto, Except.bind_eq_error, Except.pure_ne_error, and_false, exists_false,
    or_false, required_eq_ok_iff] at h
  rcases h with h | ⟨signature, hsignature, h⟩
  · exact Or.inl (faulty_of_required h)
  · refine Or.inr ⟨⟨signature, hsignature⟩, ?_⟩
    rcases required_eq_error_iff.mp h with ⟨hnone, rfl⟩ | ⟨message, source, hmessage, hsource, rfl⟩
    · exact Or.inl ⟨hnone, rfl⟩
    · exact Or.inr ⟨message, source, hmessage, hsource, rfl⟩

theorem request_of_fault {message : GenerateAggchainProofRequest W} {path : List String}
    (hmessage : value.aggchainProofRequest = some message)
    (h : value.Fault ("aggchain_proof_request" :: path)) : message.Fault path := by
  generalize hpath : "aggchain_proof_request" :: path = path' at h
  cases h with
  | optimisticModeSignature h => simp at hpath
  | missing h => exact absurd (h.symm.trans hmessage) (by simp)
  | nested h hfault =>
    obtain rfl := (List.cons.inj hpath).2
    obtain rfl := Option.some.inj (h.symm.trans hmessage)
    exact hfault

/-- The same for the optimistic request. -/
theorem fault_iff (value : GenerateOptimisticAggchainProofRequest W) :
    (∀ error, value.tryInto = .error error → value.Fault error.fieldPaths) ↔
      ¬ value.OnlyHashesFaulty := by
  constructor
  · rintro hpoints ⟨⟨signature, hsignature⟩, message, hmessage, hhashes⟩
    -- the error of the request is the one of its message
    refine (GenerateAggchainProofRequest.fault_iff message).mp ?_ hhashes
    intro source hsource
    refine request_of_fault hmessage (hpoints (.nested .invalidAggchainProofRequest
      "aggchain_proof_request" source) ?_)
    simp only [tryInto, Except.bind_eq_error, required_eq_ok_iff]
    refine Or.inr ⟨signature, hsignature, Or.inl (required_eq_error_iff.mpr (Or.inr ?_))⟩
    exact ⟨message, source, hmessage, hsource, rfl⟩
  · intro hhashes error herror
    rcases error_cases herror with ⟨hpaths, hfault⟩ | ⟨hsignature, ⟨hnone, hpaths⟩ |
      ⟨message, source, hmessage, hsource, hpaths⟩⟩
    · exact hpaths ▸ .optimisticModeSignature hfault
    · exact hpaths ▸ .missing hnone
    · rw [hpaths]
      refine .nested hmessage ((GenerateAggchainProofRequest.fault_iff message).mpr ?_ _ hsource)
      exact fun h => hhashes ⟨hsignature, message, hmessage, h⟩

end GenerateOptimisticAggchainProofRequest

/-- **Conversion errors point at the culprit**, unless nothing but hashes of bridge exits is at
fault. -/
theorem tryInto_fault_iff :
    (∀ value : GenerateAggchainProofRequest W,
      (∀ error, value.tryInto = .error error → value.Fault error.fieldPaths) ↔
        ¬ value.OnlyHashesFaulty) ∧
    (∀ value : GenerateOptimisticAggchainProofRequest W,
      (∀ error, value.tryInto = .error error → value.Fault error.fieldPaths) ↔
        ¬ value.OnlyHashesFaulty) :=
  ⟨GenerateAggchainProofRequest.fault_iff, GenerateOptimisticAggchainProofRequest.fault_iff⟩

end Errors

namespace Sample

/-- The sample message, whose last exit has no hash. -/
def noHashMessage : GenerateAggchainProofRequest wire :=
  { message with
    importedBridgeExits := [⟨1, some (U256.toBeBytes 0).val, some (Bytes.ofNat 32 0xe0).val⟩,
      ⟨2, some (U256.toBeBytes claim.globalIndex).val, none⟩] }

theorem onlyHashesFaulty_noHashMessage : noHashMessage.OnlyHashesFaulty where
  others := by
    obtain ⟨hroot, hleaf, hproof, hgers, hexits⟩ := complete_message
    refine ⟨hroot, hleaf, hproof, hgers, ?_⟩
    intro e he
    simp only [noHashMessage, List.mem_cons, List.not_mem_nil, or_false] at he
    rcases he with rfl | rfl
    · exact convertible_globalIndex (decodeGlobalIndex_toBeBytes 0)
    · exact convertible_globalIndex (decodeGlobalIndex_toBeBytes claim.globalIndex)
  hash := ⟨⟨2, some (U256.toBeBytes claim.globalIndex).val, none⟩, by simp [noHashMessage],
    Or.inl rfl⟩

end Sample

open Sample

/-- The error names the global index of an exit; every exit has one that converts. -/
theorem not_fault_noHashMessage : ∃ error, noHashMessage.tryInto = .error error ∧
    error.fieldPaths = ["imported_bridge_exits", "global_index"] ∧
    ¬ noHashMessage.Fault error.fieldPaths := by
  have hhashes := onlyHashesFaulty_noHashMessage
  obtain ⟨error, herror⟩ :=
    GenerateAggchainProofRequest.exists_error_of_onlyHashesFaulty hhashes
  have hpaths := GenerateAggchainProofRequest.fieldPaths_of_onlyHashesFaulty hhashes herror
  refine ⟨error, herror, hpaths, ?_⟩
  rw [hpaths]
  exact GenerateAggchainProofRequest.not_fault_of_onlyHashesFaulty hhashes

end Aggchain
