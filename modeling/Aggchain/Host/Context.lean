import Mathlib
import Aggchain.Host.Rpc

/-!
# Aggchain.Host.Context — what the context of a proof says about its request

The context is one flat map from texts to bytes.  `ContextKey` is what a key stands for; no two of
them are written alike (`ContextKey.render_injective`), whatever the names of the GERs are, because a
key can be cut at its last `/`.  So no insertion overwrites another one, and the inputs can be read
back out of the map (`context_faithful`).
-/

namespace Aggchain

/-! ## Insertion of many entries -/

namespace IterMap

variable {K V : Type} [DecidableEq K]

/-- The same map, in any order of iteration. -/
def Same (m m' : IterMap K V) : Prop := m.entries.Perm m'.entries

def insertAll (self : IterMap K V) (l : List (K × V)) : IterMap K V :=
  l.foldl (fun m e => m.insert e.1 e.2) self

theorem insertAll_append (self : IterMap K V) (l l' : List (K × V)) :
    self.insertAll (l ++ l') = (self.insertAll l).insertAll l' :=
  List.foldl_append

/-- Inserting group after group. -/
theorem insertAll_flatMap {α : Type} (self : IterMap K V) (f : α → List (K × V)) (l : List α) :
    self.insertAll (l.flatMap f) = l.foldl (fun m a => m.insertAll (f a)) self := by
  induction l generalizing self with
  | nil => rfl
  | cons a l ih => rw [List.flatMap_cons, insertAll_append, ih, List.foldl_cons]

/-- New keys, all different: nothing is overwritten. -/
theorem entries_insertAll {self : IterMap K V} {l : List (K × V)}
    (hnodup : (l.map Prod.fst).Nodup) (hnew : ∀ e ∈ l, e.1 ∉ self.entries.map Prod.fst) :
    (self.insertAll l).entries = l.reverse ++ self.entries := by
  induction l generalizing self with
  | nil => rfl
  | cons e l ih =>
    rw [List.map_cons, List.nodup_cons] at hnodup
    have hinsert : (self.insert e.1 e.2).entries = e :: self.entries := by
      have hfilter : self.entries.filter (fun e' => e'.1 ≠ e.1) = self.entries := by
        refine List.filter_eq_self.mpr fun e' he' => decide_eq_true ?_
        intro heq
        exact hnew e List.mem_cons_self (heq ▸ List.mem_map_of_mem he')
      exact congrArg (e :: ·) hfilter
    have hl : ∀ e' ∈ l, e'.1 ∉ (self.insert e.1 e.2).entries.map Prod.fst := by
      intro e' he' hmem
      rw [hinsert, List.map_cons, List.mem_cons] at hmem
      rcases hmem with heq | hmem
      · exact hnodup.1 (heq ▸ List.mem_map_of_mem he')
      · exact hnew e' (List.mem_cons_of_mem e he') hmem
    show ((self.insert e.1 e.2).insertAll l).entries = _
    rw [ih hnodup.2 hl, hinsert, List.reverse_cons, List.append_assoc]
    rfl

theorem entries_insertAll_empty {l : List (K × V)} (hnodup : (l.map Prod.fst).Nodup) :
    (IterMap.empty.insertAll l).entries.Perm l := by
  rw [entries_insertAll hnodup (by simp [empty]), empty, List.append_nil]
  exact List.reverse_perm l

end IterMap

/-! ## Keys -/

/-- The name of a field: it has no `/`. -/
structure FieldName where
  name : String
  noSlash : '/' ∉ name.toList
  deriving DecidableEq

/-- What a key of the context stands for. -/
inductive ContextKey where
  | plain (field : FieldName)
  /-- a field of the GER with this name -/
  | ger (name : String) (field : FieldName)
  /-- a field of the imported bridge exit at this index -/
  | ibe (i : ℕ) (field : FieldName)
  deriving DecidableEq

namespace ContextKey

/-- The text of the key. -/
def render : ContextKey → String
  | .plain field => field.name
  | .ger name field => "ger/" ++ name ++ ("/" ++ field.name)
  | .ibe i field => "ibe/" ++ toString i ++ ("/" ++ field.name)

/-- Two texts cut at their last `/`. -/
theorem append_slash_inj {x x' : String} {f f' : FieldName}
    (h : x ++ ("/" ++ f.name) = x' ++ ("/" ++ f'.name)) : x = x' ∧ f = f' := by
  obtain ⟨name, hname⟩ := f
  obtain ⟨name', hname'⟩ := f'
  have hlist : x.toList ++ '/' :: name.toList = x'.toList ++ '/' :: name'.toList := by
    have hslash : "/".toList = ['/'] := by decide
    simpa only [String.toList_append, hslash, List.singleton_append] using congrArg String.toList h
  -- where one text goes on behind the cut of the other, a `/` would be in a field name
  rcases List.append_eq_append_iff.mp hlist with ⟨c, hx, hc⟩ | ⟨c, hx, hc⟩
  · rcases List.cons_eq_append_iff.mp hc with ⟨rfl, hcons⟩ | ⟨d, rfl, hd⟩
    · rw [List.append_nil] at hx
      obtain rfl := String.toList_injective hx
      obtain rfl := String.toList_injective (List.cons.inj hcons).2
      exact ⟨rfl, rfl⟩
    · exact absurd (hd ▸ List.mem_append_right d List.mem_cons_self) hname
  · rcases List.cons_eq_append_iff.mp hc with ⟨rfl, hcons⟩ | ⟨d, rfl, hd⟩
    · rw [List.append_nil] at hx
      obtain rfl := String.toList_injective hx
      obtain rfl := String.toList_injective (List.cons.inj hcons).2
      exact ⟨rfl, rfl⟩
    · exact absurd (hd ▸ List.mem_append_right d List.mem_cons_self) hname'

/-- A plain field is none with a `/`. -/
theorem plain_ne_append_slash {f f' : FieldName} {x : String} : f.name ≠ x ++ ("/" ++ f'.name) := by
  intro h
  refine f.noSlash ?_
  rw [h]
  simp

/-- The first letter tells GERs from exits. -/
theorem ger_ne_ibe {x x' : String} : "ger/" ++ x ≠ "ibe/" ++ x' := by
  intro h
  have hlist := congrArg (fun s => s.toList.head?) h
  simp at hlist

/-- No two keys are written alike. -/
theorem render_injective : Function.Injective render := by
  intro k k' h
  cases k with
  | plain f =>
    cases k' with
    | plain f' => exact congrArg plain (by cases f; cases f'; cases h; rfl)
    | ger name f' => exact absurd h plain_ne_append_slash
    | ibe i f' => exact absurd h plain_ne_append_slash
  | ger name f =>
    cases k' with
    | plain f' => exact absurd h.symm plain_ne_append_slash
    | ger name' f' =>
      obtain ⟨hname, rfl⟩ := append_slash_inj h
      rw [(String.append_right_inj _).mp hname]
    | ibe i f' => exact absurd (append_slash_inj h).1 ger_ne_ibe
  | ibe i f =>
    cases k' with
    | plain f' => exact absurd h.symm plain_ne_append_slash
    | ger name' f' => exact absurd (append_slash_inj h).1.symm ger_ne_ibe
    | ibe i' f' =>
      obtain ⟨hindex, rfl⟩ := append_slash_inj h
      rw [Nat.repr_injective ((String.append_right_inj _).mp hindex)]

end ContextKey

/-! ## What is written -/

section Written

open ContextKey

variable {Y : HostExt} (H : Host Y)

def InsertedGerWithBlockNumber.contextEntries (ger : InsertedGerWithBlockNumber) (name : String) :
    List (ContextKey × List UInt8) :=
  [(.ger name ⟨"block_number", by decide⟩, Bytes.beBytes 8 ger.blockNumber.toNat),
    (.ger name ⟨"block_index", by decide⟩, Bytes.beBytes 8 ger.blockIndex.toNat),
    (.ger name ⟨"l1_leaf_index", by decide⟩,
      Bytes.beBytes 4 ger.insertedGer.l1Leaf.l1InfoTreeIndex.toNat)]

def ImportedBridgeExitWithBlockNumber.contextEntries (ibe : ImportedBridgeExitWithBlockNumber Y)
    (i : ℕ) : List (ContextKey × List UInt8) :=
  [(.ibe i ⟨"block_number", by decide⟩, Bytes.beBytes 8 ibe.blockNumber.toNat),
    (.ibe i ⟨"bridge_exit_hash", by decide⟩, ibe.bridgeExitHash.val),
    (.ibe i ⟨"global_index", by decide⟩, (U256.toBeBytes (H.globalIndexToU256 ibe.globalIndex)).val)]

namespace AggchainProofInputs

variable (self : AggchainProofInputs Y)

/-- The fields of the request and of its L1 info tree leaf. -/
def plainEntries : List (ContextKey × List UInt8) :=
  let leaf := self.l1InfoTreeLeaf
  [(.plain ⟨"last_proven_block", by decide⟩, Bytes.beBytes 8 self.lastProvenBlock.toNat),
    (.plain ⟨"requested_end_block", by decide⟩, Bytes.beBytes 8 self.requestedEndBlock.toNat),
    (.plain ⟨"l1_info_tree_root_hash", by decide⟩, self.l1InfoTreeRootHash.val),
    (.plain ⟨"l1_info_tree_index", by decide⟩, Bytes.beBytes 4 leaf.l1InfoTreeIndex.toNat),
    (.plain ⟨"l1_info_tree_rer", by decide⟩, leaf.rer.val),
    (.plain ⟨"l1_info_tree_mer", by decide⟩, leaf.mer.val),
    (.plain ⟨"l1_info_tree_ger", by decide⟩, leaf.inner.globalExitRoot.val),
    (.plain ⟨"l1_info_tree_block_hash", by decide⟩, leaf.inner.blockHash.val),
    (.plain ⟨"l1_info_tree_timestamp", by decide⟩, Bytes.beBytes 8 leaf.inner.timestamp.toNat)]

/-- Everything that `context` writes, in the order it writes it. -/
def contextEntries : List (ContextKey × List UInt8) :=
  self.plainEntries ++ self.gerLeaves.entries.flatMap (fun e => e.2.contextEntries e.1) ++
    self.importedBridgeExits.zipIdx.flatMap (fun e => e.1.contextEntries H e.2)

end AggchainProofInputs

/-- The fields that the endpoints add. -/
def grpcFields : List FieldName :=
  [⟨"public_values", by decide⟩, ⟨"local_exit_root_hash", by decide⟩, ⟨"end_block", by decide⟩]

/-- The entries as the map holds them. -/
def rendered (entries : List (ContextKey × List UInt8)) : List (String × List UInt8) :=
  entries.map (Prod.map render id)

theorem rendered_append (l l' : List (ContextKey × List UInt8)) :
    rendered (l ++ l') = rendered l ++ rendered l' :=
  List.map_append

theorem rendered_flatMap {α : Type} (f : α → List (ContextKey × List UInt8)) (l : List α) :
    rendered (l.flatMap f) = l.flatMap (fun a => rendered (f a)) :=
  List.map_flatMap

theorem InsertedGerWithBlockNumber.insertContext_eq (ger : InsertedGerWithBlockNumber)
    (name : String) (context : Context) :
    ger.insertContext name context = context.insertAll (rendered (ger.contextEntries name)) :=
  rfl

theorem ImportedBridgeExitWithBlockNumber.insertContext_eq
    (ibe : ImportedBridgeExitWithBlockNumber Y) (i : ℕ) (context : Context) :
    ibe.insertContext H i context = context.insertAll (rendered (ibe.contextEntries H i)) :=
  rfl

namespace AggchainProofInputs

variable (self : AggchainProofInputs Y)

/-- `context` inserts these entries, one after the other. -/
theorem context_eq_insertAll :
    self.context H = IterMap.empty.insertAll (rendered (self.contextEntries H)) := by
  rw [contextEntries, rendered_append, rendered_append, rendered_flatMap, rendered_flatMap,
    IterMap.insertAll_append, IterMap.insertAll_append, IterMap.insertAll_flatMap,
    IterMap.insertAll_flatMap]
  simp only [← InsertedGerWithBlockNumber.insertContext_eq,
    ← ImportedBridgeExitWithBlockNumber.insertContext_eq]
  rfl

theorem length_contextEntries : (self.contextEntries H).length =
    9 + 3 * self.gerLeaves.entries.length + 3 * self.importedBridgeExits.length := by
  simp only [contextEntries, List.length_append, List.length_flatMap]
  have hger : (self.gerLeaves.entries.map (fun e => (e.2.contextEntries e.1).length)).sum =
      3 * self.gerLeaves.entries.length := by
    simp [InsertedGerWithBlockNumber.contextEntries, mul_comm]
  have hibe : (self.importedBridgeExits.zipIdx.map (fun e => (e.1.contextEntries H e.2).length)).sum =
      3 * self.importedBridgeExits.length := by
    simp [ImportedBridgeExitWithBlockNumber.contextEntries, mul_comm]
  rw [hger, hibe]
  rfl

variable {H self}

theorem mem_plain {f : FieldName} {v : List UInt8} :
    (ContextKey.plain f, v) ∈ self.contextEntries H ↔ (ContextKey.plain f, v) ∈ self.plainEntries := by
  simp [contextEntries, InsertedGerWithBlockNumber.contextEntries,
    ImportedBridgeExitWithBlockNumber.contextEntries]

theorem mem_ger {name : String} {f : FieldName} {v : List UInt8} :
    (ContextKey.ger name f, v) ∈ self.contextEntries H ↔ ∃ ger, (name, ger) ∈ self.gerLeaves.entries ∧
      (ContextKey.ger name f, v) ∈ ger.contextEntries name := by
  simp only [contextEntries, List.mem_append, List.mem_flatMap]
  constructor
  · rintro ((h | ⟨⟨name', ger⟩, hger, h⟩) | ⟨e, -, h⟩)
    · simp [plainEntries] at h
    · obtain rfl : name = name' := by
        simp only [InsertedGerWithBlockNumber.contextEntries, List.mem_cons, Prod.mk.injEq,
          ContextKey.ger.injEq, List.not_mem_nil, or_false] at h
        tauto
      exact ⟨ger, hger, h⟩
    · simp [ImportedBridgeExitWithBlockNumber.contextEntries] at h
  · rintro ⟨ger, hger, h⟩
    exact Or.inl (Or.inr ⟨(name, ger), hger, h⟩)

theorem mem_ibe {i : ℕ} {f : FieldName} {v : List UInt8} :
    (ContextKey.ibe i f, v) ∈ self.contextEntries H ↔ ∃ ibe, self.importedBridgeExits[i]? = some ibe ∧
      (ContextKey.ibe i f, v) ∈ ibe.contextEntries H i := by
  simp only [contextEntries, List.mem_append, List.mem_flatMap]
  constructor
  · rintro ((h | ⟨e, -, h⟩) | ⟨⟨ibe, i'⟩, hibe, h⟩)
    · simp [plainEntries] at h
    · simp [InsertedGerWithBlockNumber.contextEntries] at h
    · obtain rfl : i = i' := by
        simp only [ImportedBridgeExitWithBlockNumber.contextEntries, List.mem_cons, Prod.mk.injEq,
          ContextKey.ibe.injEq, List.not_mem_nil, or_false] at h
        tauto
      exact ⟨ibe, List.mem_zipIdx_iff_getElem?.mp hibe, h⟩
  · rintro ⟨ibe, hibe, h⟩
    exact Or.inr ⟨(ibe, i), List.mem_zipIdx_iff_getElem?.mpr hibe, h⟩

end AggchainProofInputs

/-! ## All keys are different -/

/-- The same fields for each of some distinct names. -/
theorem nodup_flatMap_fields {α ι : Type} {l : List α} {name : α → ι} (hl : (l.map name).Nodup)
    {key : ι → FieldName → ContextKey} (hkey : Function.Injective2 key) {fields : List FieldName}
    (hfields : fields.Nodup) : (l.flatMap (fun a => fields.map (key (name a)))).Nodup := by
  refine List.nodup_flatMap.mpr ⟨?_, ?_⟩
  · intro a _
    exact hfields.map (hkey.right (name a))
  · refine (List.pairwise_map.mp hl).imp ?_
    intro a a' hne k hk hk'
    obtain ⟨f, -, rfl⟩ := List.mem_map.mp hk
    obtain ⟨f', -, heq⟩ := List.mem_map.mp hk'
    exact hne (hkey heq).1.symm

def plainFields : List FieldName :=
  [⟨"last_proven_block", by decide⟩, ⟨"requested_end_block", by decide⟩,
    ⟨"l1_info_tree_root_hash", by decide⟩, ⟨"l1_info_tree_index", by decide⟩,
    ⟨"l1_info_tree_rer", by decide⟩, ⟨"l1_info_tree_mer", by decide⟩,
    ⟨"l1_info_tree_ger", by decide⟩, ⟨"l1_info_tree_block_hash", by decide⟩,
    ⟨"l1_info_tree_timestamp", by decide⟩]

def gerFields : List FieldName :=
  [⟨"block_number", by decide⟩, ⟨"block_index", by decide⟩, ⟨"l1_leaf_index", by decide⟩]

def ibeFields : List FieldName :=
  [⟨"block_number", by decide⟩, ⟨"bridge_exit_hash", by decide⟩, ⟨"global_index", by decide⟩]

namespace AggchainProofInputs

variable {H} {self : AggchainProofInputs Y} {k : ContextKey}

def gerKeys (self : AggchainProofInputs Y) : List ContextKey :=
  self.gerLeaves.entries.flatMap (fun e => gerFields.map (ContextKey.ger e.1))

def ibeKeys (self : AggchainProofInputs Y) : List ContextKey :=
  self.importedBridgeExits.zipIdx.flatMap (fun e => ibeFields.map (ContextKey.ibe e.2))

theorem keys_eq : (self.contextEntries H).map Prod.fst =
    plainFields.map ContextKey.plain ++ self.gerKeys ++ self.ibeKeys := by
  rw [contextEntries, List.map_append, List.map_append, List.map_flatMap, List.map_flatMap]
  rfl

theorem nodup_gerKeys : self.gerKeys.Nodup :=
  nodup_flatMap_fields self.gerLeaves.nodup (fun _ _ _ _ h => ContextKey.ger.inj h) (by decide)

theorem nodup_ibeKeys : self.ibeKeys.Nodup := by
  have hindex : (self.importedBridgeExits.zipIdx.map Prod.snd).Nodup := by
    rw [List.zipIdx_map_snd]
    exact List.nodup_range'
  exact nodup_flatMap_fields hindex (fun _ _ _ _ h => ContextKey.ibe.inj h) (by decide)

theorem exists_ger_of_mem (h : k ∈ self.gerKeys) : ∃ name f, k = .ger name f := by
  obtain ⟨e, -, hk⟩ := List.mem_flatMap.mp h
  obtain ⟨f, -, rfl⟩ := List.mem_map.mp hk
  exact ⟨e.1, f, rfl⟩

theorem exists_ibe_of_mem (h : k ∈ self.ibeKeys) : ∃ i f, k = .ibe i f := by
  obtain ⟨e, -, hk⟩ := List.mem_flatMap.mp h
  obtain ⟨f, -, rfl⟩ := List.mem_map.mp hk
  exact ⟨e.2, f, rfl⟩

/-- The keys of the request and those of the endpoints. -/
theorem nodup_keys :
    ((self.contextEntries H).map Prod.fst ++ grpcFields.map ContextKey.plain).Nodup := by
  have hplain : (plainFields ++ grpcFields).Nodup := by decide
  rw [List.nodup_append] at hplain
  obtain ⟨hplain, hgrpc, hne⟩ := hplain
  have hinj : Function.Injective ContextKey.plain := fun _ _ h => ContextKey.plain.inj h
  rw [keys_eq]
  refine List.nodup_append.mpr ⟨List.nodup_append.mpr ⟨List.nodup_append.mpr
    ⟨hplain.map hinj, nodup_gerKeys, ?_⟩, nodup_ibeKeys, ?_⟩, hgrpc.map hinj, ?_⟩
  · rintro _ hk _ hk' rfl
    obtain ⟨name, f, rfl⟩ := exists_ger_of_mem hk'
    simp at hk
  · rintro _ hk _ hk' rfl
    obtain ⟨i, f, rfl⟩ := exists_ibe_of_mem hk'
    rcases List.mem_append.mp hk with hk | hk
    · simp at hk
    · obtain ⟨name, f', h⟩ := exists_ger_of_mem hk
      cases h
  · rintro _ hk _ hk' rfl
    obtain ⟨f, hf, rfl⟩ := List.mem_map.mp hk'
    rcases List.mem_append.mp hk with hk | hk
    · rcases List.mem_append.mp hk with hk | hk
      · exact hne f ((List.mem_map_of_injective hinj).mp hk) f hf rfl
      · obtain ⟨name, f', h⟩ := exists_ger_of_mem hk
        cases h
    · obtain ⟨i, f', h⟩ := exists_ibe_of_mem hk
      cases h

/-- The same, for the texts. -/
theorem nodup_renderedKeys : ((rendered (self.contextEntries H)).map Prod.fst ++
    ["public_values", "local_exit_root_hash", "end_block"]).Nodup := by
  have hmap := (@nodup_keys Y H self).map ContextKey.render_injective
  rw [List.map_append, List.map_map] at hmap
  rw [rendered, List.map_map]
  exact hmap

/-- Nothing is overwritten: the context holds what was written. -/
theorem entries_context : (self.context H).entries.Perm (rendered (self.contextEntries H)) := by
  rw [context_eq_insertAll]
  exact IterMap.entries_insertAll_empty (List.nodup_append.mp nodup_renderedKeys).1

/-- The three entries that the endpoints add. -/
def grpcEntries (H : Host Y) (response : AggchainProofServiceResponse) :
    List (String × List UInt8) :=
  [("public_values", serializedPublicValues H response.publicValues),
    ("local_exit_root_hash", response.localExitRootHash.val),
    ("end_block", Bytes.beBytes 8 response.endBlock.toNat)]

/-- The context of an answer holds these too. -/
theorem entries_message {X : Ext} {W : Wire X Y} {response : AggchainProofServiceResponse} :
    (aggchainProofMessage H W (self.context H) response).context.entries.Perm
      (rendered (self.contextEntries H) ++ grpcEntries H response) := by
  have hinsert : (aggchainProofMessage H W (self.context H) response).context =
      IterMap.empty.insertAll (rendered (self.contextEntries H) ++ grpcEntries H response) := by
    rw [IterMap.insertAll_append, ← context_eq_insertAll]
    rfl
  rw [hinsert]
  refine IterMap.entries_insertAll_empty ?_
  rw [List.map_append]
  exact nodup_renderedKeys

/-! ## Reading the inputs back -/

variable {other : AggchainProofInputs Y}

theorem mem_rendered {l : List (ContextKey × List UInt8)} {v : List UInt8} :
    (k.render, v) ∈ rendered l ↔ (k, v) ∈ l := by
  show Prod.map render id (k, v) ∈ rendered l ↔ _
  exact List.mem_map_of_injective (ContextKey.render_injective.prodMap Function.injective_id)

/-- Equal contexts were written with the same entries. -/
theorem mem_of_same (hsame : (self.context H).Same (other.context H)) {v : List UInt8}
    (h : (k, v) ∈ self.contextEntries H) : (k, v) ∈ other.contextEntries H := by
  have hperm := entries_context.symm.trans (hsame.trans entries_context)
  exact mem_rendered.mp (hperm.mem_iff.mp (mem_rendered.mpr h))

/-- And with one value for each key. -/
theorem value_eq_of_same (hsame : (self.context H).Same (other.context H)) {v w : List UInt8}
    (hv : (k, v) ∈ self.contextEntries H) (hw : (k, w) ∈ other.contextEntries H) : v = w := by
  have hnodup := (List.nodup_append.mp (@nodup_keys Y H other)).1
  have heq := List.inj_on_of_nodup_map hnodup (mem_of_same hsame hv) hw rfl
  exact (Prod.mk.inj heq).2

/-- Lists of entries with the same distinct keys, in one order, are equal if each entry of the one is
in the other. -/
theorem eq_of_keys {l l' : List (ContextKey × List UInt8)}
    (hkeys : l.map Prod.fst = l'.map Prod.fst) (hnodup : (l'.map Prod.fst).Nodup)
    (hmem : ∀ e ∈ l, e ∈ l') : l = l' := by
  refine List.ext_getElem (by simpa using congrArg List.length hkeys) ?_
  intro i hi hi'
  have hkey : (l.map Prod.fst)[i]? = (l'.map Prod.fst)[i]? := by rw [hkeys]
  rw [List.getElem?_map, List.getElem?_map, List.getElem?_eq_getElem hi,
    List.getElem?_eq_getElem hi'] at hkey
  exact List.inj_on_of_nodup_map hnodup (hmem _ (List.getElem_mem hi)) (List.getElem_mem hi')
    (Option.some.inj hkey)

theorem plainEntries_eq_of_same (hsame : (self.context H).Same (other.context H)) :
    self.plainEntries = other.plainEntries := by
  have hkeys : ∀ inputs : AggchainProofInputs Y,
      inputs.plainEntries.map Prod.fst = plainFields.map ContextKey.plain := fun _ => rfl
  refine eq_of_keys ((hkeys self).trans (hkeys other).symm) ?_ ?_
  · rw [hkeys]
    decide
  · rintro ⟨k, v⟩ he
    have hk : k ∈ plainFields.map ContextKey.plain := hkeys self ▸ List.mem_map_of_mem he
    obtain ⟨f, -, rfl⟩ := List.mem_map.mp hk
    exact mem_plain.mp (mem_of_same hsame (mem_plain.mpr he))

theorem uint64_eq_of_beBytes {a b : UInt64}
    (h : Bytes.beBytes 8 a.toNat = Bytes.beBytes 8 b.toNat) : a = b :=
  UInt64.toNat_inj.mp (Bytes.beBytes_inj (w := 8) a.toNat_lt b.toNat_lt h)

theorem uint32_eq_of_beBytes {a b : UInt32}
    (h : Bytes.beBytes 4 a.toNat = Bytes.beBytes 4 b.toNat) : a = b :=
  UInt32.toNat_inj.mp (Bytes.beBytes_inj (w := 4) a.toNat_lt b.toNat_lt h)

/-- The leaf of a GER, as far as the context has it, is in the other map too. -/
theorem ger_of_same (hsame : (self.context H).Same (other.context H)) {name : String}
    {ger : InsertedGerWithBlockNumber} (hger : (name, ger) ∈ self.gerLeaves.entries) :
    ∃ ger', (name, ger') ∈ other.gerLeaves.entries ∧ ger.blockNumber = ger'.blockNumber ∧
      ger.blockIndex = ger'.blockIndex ∧
      ger.insertedGer.l1Leaf.l1InfoTreeIndex = ger'.insertedGer.l1Leaf.l1InfoTreeIndex := by
  have hmem : ∀ {f v}, (ContextKey.ger name f, v) ∈ ger.contextEntries name →
      (ContextKey.ger name f, v) ∈ self.contextEntries H :=
    fun h => mem_ger.mpr ⟨ger, hger, h⟩
  obtain ⟨ger', hger', -⟩ := mem_ger.mp (mem_of_same hsame (hmem (.head _)))
  have hmem' : ∀ {f v}, (ContextKey.ger name f, v) ∈ ger'.contextEntries name →
      (ContextKey.ger name f, v) ∈ other.contextEntries H :=
    fun h => mem_ger.mpr ⟨ger', hger', h⟩
  refine ⟨ger', hger', ?_, ?_, ?_⟩
  · exact uint64_eq_of_beBytes (value_eq_of_same hsame (hmem (.head _)) (hmem' (.head _)))
  · exact uint64_eq_of_beBytes (value_eq_of_same hsame (hmem (.tail _ (.head _)))
      (hmem' (.tail _ (.head _))))
  · exact uint32_eq_of_beBytes (value_eq_of_same hsame (hmem (.tail _ (.tail _ (.head _))))
      (hmem' (.tail _ (.tail _ (.head _)))))

/-- The exit at an index is the one at that index in the other list. -/
theorem ibe_of_same (hinj : Function.Injective H.globalIndexToU256)
    (hsame : (self.context H).Same (other.context H)) {i : ℕ}
    {ibe : ImportedBridgeExitWithBlockNumber Y} (hibe : self.importedBridgeExits[i]? = some ibe) :
    other.importedBridgeExits[i]? = some ibe := by
  have hmem : ∀ {f v}, (ContextKey.ibe i f, v) ∈ ibe.contextEntries H i →
      (ContextKey.ibe i f, v) ∈ self.contextEntries H :=
    fun h => mem_ibe.mpr ⟨ibe, hibe, h⟩
  obtain ⟨ibe', hibe', -⟩ := mem_ibe.mp (mem_of_same hsame (hmem (.head _)))
  have hmem' : ∀ {f v}, (ContextKey.ibe i f, v) ∈ ibe'.contextEntries H i →
      (ContextKey.ibe i f, v) ∈ other.contextEntries H :=
    fun h => mem_ibe.mpr ⟨ibe', hibe', h⟩
  have hblock : ibe.blockNumber = ibe'.blockNumber :=
    uint64_eq_of_beBytes (value_eq_of_same hsame (hmem (.head _)) (hmem' (.head _)))
  have hhash : ibe.bridgeExitHash = ibe'.bridgeExitHash :=
    Subtype.ext (value_eq_of_same hsame (hmem (.tail _ (.head _))) (hmem' (.tail _ (.head _))))
  have hindex : ibe.globalIndex = ibe'.globalIndex :=
    hinj (U256.toBeBytes_inj (Subtype.ext (value_eq_of_same hsame
      (hmem (.tail _ (.tail _ (.head _)))) (hmem' (.tail _ (.tail _ (.head _)))))))
  rw [hibe']
  cases ibe
  cases ibe'
  cases hblock
  cases hhash
  cases hindex
  rfl

theorem leaf_eq_of_fields {leaf leaf' : L1InfoTreeLeaf}
    (hindex : leaf.l1InfoTreeIndex = leaf'.l1InfoTreeIndex) (hrer : leaf.rer = leaf'.rer)
    (hmer : leaf.mer = leaf'.mer) (hger : leaf.inner.globalExitRoot = leaf'.inner.globalExitRoot)
    (hblock : leaf.inner.blockHash = leaf'.inner.blockHash)
    (htime : leaf.inner.timestamp = leaf'.inner.timestamp) : leaf = leaf' := by
  obtain ⟨index, rer, mer, ger, block, time⟩ := leaf
  obtain ⟨index', rer', mer', ger', block', time'⟩ := leaf'
  simp only at hindex hrer hmer hger hblock htime
  rw [hindex, hrer, hmer, hger, hblock, htime]

/-- What the context has of one GER. -/
def gerContent (e : String × InsertedGerWithBlockNumber) : String × UInt64 × UInt64 × UInt32 :=
  (e.1, e.2.blockNumber, e.2.blockIndex, e.2.insertedGer.l1Leaf.l1InfoTreeIndex)

/-- What a context says about the inputs. -/
structure SameContent (self other : AggchainProofInputs Y) : Prop where
  lastProvenBlock : self.lastProvenBlock = other.lastProvenBlock
  requestedEndBlock : self.requestedEndBlock = other.requestedEndBlock
  l1InfoTreeRootHash : self.l1InfoTreeRootHash = other.l1InfoTreeRootHash
  l1InfoTreeLeaf : self.l1InfoTreeLeaf = other.l1InfoTreeLeaf
  gerLeaves : (self.gerLeaves.entries.map gerContent).Perm (other.gerLeaves.entries.map gerContent)
  importedBridgeExits : self.importedBridgeExits = other.importedBridgeExits

theorem gerContent_subset_of_same (hsame : (self.context H).Same (other.context H)) :
    self.gerLeaves.entries.map gerContent ⊆ other.gerLeaves.entries.map gerContent := by
  intro c hc
  obtain ⟨⟨name, ger⟩, hger, rfl⟩ := List.mem_map.mp hc
  obtain ⟨ger', hger', hblock, hindex, hleaf⟩ := ger_of_same hsame hger
  refine List.mem_map.mpr ⟨(name, ger'), hger', ?_⟩
  simp only [gerContent, hblock, hindex, hleaf]

theorem nodup_gerContent : (self.gerLeaves.entries.map gerContent).Nodup := by
  refine List.Nodup.of_map Prod.fst ?_
  rw [List.map_map]
  exact self.gerLeaves.nodup

/-- Equal contexts come from the same content. -/
theorem sameContent_of_same (hinj : Function.Injective H.globalIndexToU256)
    (hsame : (self.context H).Same (other.context H)) : self.SameContent other := by
  have hplain := plainEntries_eq_of_same hsame
  simp only [plainEntries, List.cons.injEq, Prod.mk.injEq, true_and, and_true] at hplain
  obtain ⟨hlast, hrequested, hroot, hindex, hrer, hmer, hger, hblock, htime⟩ := hplain
  refine ⟨uint64_eq_of_beBytes hlast, uint64_eq_of_beBytes hrequested, Subtype.ext hroot, ?_, ?_, ?_⟩
  · exact leaf_eq_of_fields (uint32_eq_of_beBytes hindex) (Subtype.ext hrer) (Subtype.ext hmer)
      (Subtype.ext hger) (Subtype.ext hblock) (uint64_eq_of_beBytes htime)
  · refine (List.perm_ext_iff_of_nodup nodup_gerContent nodup_gerContent).mpr fun c => ⟨?_, ?_⟩
    · exact fun h => gerContent_subset_of_same hsame h
    · exact fun h => gerContent_subset_of_same hsame.symm h
  · refine List.ext_getElem? fun i => ?_
    cases h : self.importedBridgeExits[i]? with
    | some ibe => exact (ibe_of_same hinj hsame h).symm
    | none =>
      cases h' : other.importedBridgeExits[i]? with
      | none => rfl
      | some ibe => exact h.symm.trans (ibe_of_same hinj hsame.symm h')

/-- **The context loses nothing.**  All keys differ, also from those of the endpoints, so that every
entry that is written is there in the end; and equal contexts come from the same content. -/
theorem context_faithful (hinj : Function.Injective H.globalIndexToU256)
    (self : AggchainProofInputs Y) :
    let written := rendered (self.contextEntries H)
    self.context H = IterMap.empty.insertAll written ∧
    written.length = 9 + 3 * self.gerLeaves.entries.length + 3 * self.importedBridgeExits.length ∧
    (written.map Prod.fst ++ ["public_values", "local_exit_root_hash", "end_block"]).Nodup ∧
    (self.context H).entries.Perm written ∧
    (∀ (X : Ext) (W : Wire X Y) (response : AggchainProofServiceResponse),
      (aggchainProofMessage H W (self.context H) response).context.entries.Perm
        (written ++ grpcEntries H response)) ∧
    ∀ other : AggchainProofInputs Y, (self.context H).Same (other.context H) →
      self.SameContent other := by
  intro written
  refine ⟨context_eq_insertAll H self, ?_, nodup_renderedKeys, entries_context,
    fun X W response => entries_message, fun other hsame => sameContent_of_same hinj hsame⟩
  calc written.length = (self.contextEntries H).length := List.length_map _
    _ = _ := length_contextEntries H self

end AggchainProofInputs

end Written

namespace Sample

/-- The sample request, with GER names that look like keys. -/
def slashInputs : AggchainProofInputs hostExt :=
  { proofInputs with
    gerLeaves := ⟨[("a", ⟨5, ⟨path, leaf⟩, 0⟩), ("a/block_number", ⟨2, ⟨path, leaf⟩, 0⟩)],
      by simp⟩ }

end Sample

open Sample

/-- Nine fields, two GERs and two exits. -/
theorem context_faithful_sample :
    Function.Injective host.globalIndexToU256 ∧ (slashInputs.context host).entries.length = 21 := by
  have hinj : Function.Injective host.globalIndexToU256 := Function.injective_id
  obtain ⟨-, hlength, -, hperm, -, -⟩ := AggchainProofInputs.context_faithful hinj slashInputs
  exact ⟨hinj, hperm.length_eq.trans hlength⟩

end Aggchain
