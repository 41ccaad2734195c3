import Aggchain.Host.Rpc

/-!
# Aggchain.Host.Selection — the events of a block range

The builder takes out of a request what belongs to the blocks behind the last proven one, up to the
end block.  `range_selection` says that nothing is lost, repeated or reordered on the way, and that
the selections of consecutive ranges fit together.
-/

namespace Aggchain

open AggchainProofBuilder (InRange newBlocksRange selectedGers bridgeExitsClaimed contains_succ
  succ_lt_of_lt)

variable {X : Ext} {Y : HostExt}

/-! ## Ranges -/

/-- The inclusive range holds the blocks behind `a`, up to `b`. -/
def BlockRange.Covers (range : BlockRange) (a b : UInt64) : Prop :=
  ∀ block, range.contains block = InRange a b block

theorem BlockRange.covers_succ {a : UInt64} (hmax : a.toNat + 1 < 2 ^ 64) (b : UInt64) :
    (⟨a + 1, b⟩ : BlockRange).Covers a b :=
  contains_succ hmax

theorem inRange_iff {a b block : UInt64} : InRange a b block = true ↔ a < block ∧ block ≤ b := by
  simp [InRange]

/-- A block of the long range is in exactly one of its parts. -/
theorem inRange_split {a b c : UInt64} (hab : a ≤ b) (hbc : b ≤ c) (block : UInt64) :
    (InRange a b block = true ↔ InRange a c block = true ∧ block ≤ b) ∧
    (InRange b c block = true ↔ InRange a c block = true ∧ ¬ block ≤ b) := by
  simp only [inRange_iff, UInt64.lt_iff_toNat_lt, UInt64.le_iff_toNat_le] at *
  omega

/-! ## The inserted GERs -/

namespace AggchainProofInputs

variable (self : AggchainProofInputs Y)

/-- The leaves of the map for the blocks behind `a`, up to `b`. -/
def gersIn (a b : UInt64) : List InsertedGerWithBlockNumber :=
  self.gerLeaves.values.filter (fun e => InRange a b e.blockNumber)

/-- No two of these leaves claim one position on the chain. -/
def DistinctPositions (a b : UInt64) : Prop :=
  ((self.gersIn a b).map (fun e => (e.blockNumber, e.blockIndex))).Nodup

instance (a b : UInt64) : Decidable (self.DistinctPositions a b) :=
  inferInstanceAs (Decidable (List.Nodup _))

variable {self} {s s' : UnstableSort InsertedGER.position} {a b c : UInt64} {range : BlockRange}

theorem sortedInsertedGers_covers (h : range.Covers a b) :
    self.sortedInsertedGers s range =
      s.sort ((self.gersIn a b).map InsertedGerWithBlockNumber.toInsertedGER) := by
  unfold sortedInsertedGers gersIn
  simp only [h _]

/-- Distinct positions of the leaves are distinct keys of the sort. -/
theorem DistinctPositions.nodup (h : self.DistinctPositions a b) :
    (((self.gersIn a b).map InsertedGerWithBlockNumber.toInsertedGER).map
      InsertedGER.position).Nodup := by
  rw [List.map_map, List.Nodup, List.pairwise_map]
  refine (List.pairwise_map.mp h).imp ?_
  intro e e' hne heq
  obtain ⟨hblock, hindex⟩ := Prod.mk.inj (toLex.injective heq)
  exact hne (Prod.ext (UInt64.toNat_inj.mp hblock) (UInt64.toNat_inj.mp hindex))

/-- Each leaf of the range once, with its own data. -/
theorem sortedInsertedGers_perm (h : range.Covers a b) :
    (self.sortedInsertedGers s range).Perm
      ((self.gersIn a b).map InsertedGerWithBlockNumber.toInsertedGER) := by
  rw [sortedInsertedGers_covers h]
  exact s.perm _

/-- The order the map is iterated in does not matter. -/
theorem sortedInsertedGers_eq_of_perm (h : range.Covers a b) (hdistinct : self.DistinctPositions a b)
    {other : AggchainProofInputs Y}
    (hperm : self.gerLeaves.entries.Perm other.gerLeaves.entries) :
    other.sortedInsertedGers s' range = self.sortedInsertedGers s range := by
  have hgers : ((self.gersIn a b).map InsertedGerWithBlockNumber.toInsertedGER).Perm
      ((other.gersIn a b).map InsertedGerWithBlockNumber.toInsertedGER) :=
    ((hperm.map Prod.snd).filter _).map _
  rw [sortedInsertedGers_covers h, sortedInsertedGers_covers h]
  exact (s.sort_eq_of_perm s' hgers hdistinct.nodup).symm

/-- The leaves of the long range are those of its two parts. -/
theorem gersIn_perm_append (hab : a ≤ b) (hbc : b ≤ c) :
    (self.gersIn a c).Perm (self.gersIn a b ++ self.gersIn b c) := by
  -- the two parts are the long range filtered by `block ≤ b` and by its negation
  have hfirst : self.gersIn a b = (self.gersIn a c).filter (fun e => e.blockNumber ≤ b) := by
    unfold gersIn
    rw [List.filter_filter]
    refine List.filter_congr fun e _ => Bool.eq_iff_iff.mpr ?_
    rw [(inRange_split hab hbc e.blockNumber).1, Bool.and_eq_true, decide_eq_true_iff]
    exact and_comm
  have hsecond : self.gersIn b c = (self.gersIn a c).filter (fun e => !decide (e.blockNumber ≤ b)) := by
    unfold gersIn
    rw [List.filter_filter]
    refine List.filter_congr fun e _ => Bool.eq_iff_iff.mpr ?_
    rw [(inRange_split hab hbc e.blockNumber).2, Bool.and_eq_true, Bool.not_eq_true',
      decide_eq_false_iff_not]
    exact and_comm
  rw [hfirst, hsecond]
  exact (List.filter_append_perm _ _).symm

/-- Consecutive ranges: their lists concatenate. -/
theorem sortedInsertedGers_append {r₁ r₂ r₃ : BlockRange} (hab : a ≤ b) (hbc : b ≤ c)
    (h₁ : r₁.Covers a b) (h₂ : r₂.Covers b c) (h₃ : r₃.Covers a c)
    (hdistinct : self.DistinctPositions a c) :
    self.sortedInsertedGers s r₃ = self.sortedInsertedGers s r₁ ++ self.sortedInsertedGers s r₂ := by
  rw [sortedInsertedGers_covers h₁, sortedInsertedGers_covers h₂, sortedInsertedGers_covers h₃]
  refine s.sort_append ?_ ?_ hdistinct.nodup
  · rw [← List.map_append]
    exact (gersIn_perm_append hab hbc).map _
  · rintro _ he _ he'
    obtain ⟨e, hmem, rfl⟩ := List.mem_map.mp he
    obtain ⟨e', hmem', rfl⟩ := List.mem_map.mp he'
    -- the block of the first part is smaller, whatever the indices are
    have hle : e.blockNumber.toNat ≤ b.toNat := (inRange_iff.mp (List.mem_filter.mp hmem).2).2
    have hlt : b.toNat < e'.blockNumber.toNat := (inRange_iff.mp (List.mem_filter.mp hmem').2).1
    exact (Prod.Lex.toLex_lt_toLex.mpr (Or.inl (hle.trans_lt hlt))).le

end AggchainProofInputs

/-! ## What a request selects -/

/-- The request passed the check of the endpoint. -/
def RangeChecked (endpoint : String) (inputs : AggchainProofInputs Y) : Prop :=
  checkBlockRange endpoint inputs.lastProvenBlock inputs.requestedEndBlock = .ok ()

namespace GrpcService

variable {W : Wire X Y} {E : Env X} {H : Host Y} {self : GrpcService X Y}

theorem mem_issue_calls {r c : AggchainProofServiceRequest X Y} (h : c ∈ (self.issue E H r).calls) :
    c = r := by
  refine Traced.calls_bind_subset (S := {r}) ?_ ?_ c h
  · simp
  · simp [Traced.call]

/-- Only inputs that passed the check reach the service, on the normal endpoint. -/
theorem rangeChecked_of_generate {request : GenerateAggchainProofRequest W} :
    ∀ c ∈ (self.generateAggchainProof E H request).calls,
      RangeChecked "GenerateAggchainProof" c.inputs := by
  let S : Set (AggchainProofServiceRequest X Y) :=
    {c | RangeChecked "GenerateAggchainProof" c.inputs}
  refine Traced.calls_bind_subset (S := S) (by simp) ?_
  intro _ hcheck
  refine Traced.calls_bind_subset (by simp) ?_
  intro inputs hinputs
  have hconv := GenerateAggchainProofRequest.converts_of_tryInto (Except.mapError_eq_ok.mp hinputs)
  refine Traced.calls_bind_subset ?_ (by simp)
  intro c hc
  obtain rfl := mem_issue_calls hc
  show checkBlockRange _ inputs.lastProvenBlock inputs.requestedEndBlock = .ok ()
  rw [hconv.lastProvenBlock, hconv.requestedEndBlock]
  exact hcheck

/-- And on the optimistic one. -/
theorem rangeChecked_of_generateOptimistic {request : GenerateOptimisticAggchainProofRequest W} :
    ∀ c ∈ (self.generateOptimisticAggchainProof E H request).calls,
      RangeChecked "GenerateOptimisticAggchainProof" c.inputs := by
  let S : Set (AggchainProofServiceRequest X Y) :=
    {c | RangeChecked "GenerateOptimisticAggchainProof" c.inputs}
  refine Traced.calls_bind_subset (S := S) (by simp) ?_
  intro inputs _
  refine Traced.calls_bind_subset (by simp) ?_
  intro _ hcheck
  refine Traced.calls_bind_subset ?_ (by simp)
  intro c hc
  obtain rfl := mem_issue_calls hc
  exact hcheck

end GrpcService

section Selection

variable {endpoint : String} {request : AggchainProofBuilderRequest X Y}

theorem RangeChecked.lt {inputs : AggchainProofInputs Y} (h : RangeChecked endpoint inputs) :
    inputs.lastProvenBlock < inputs.requestedEndBlock := by
  unfold RangeChecked checkBlockRange at h
  split_ifs at h with hle
  exact UInt64.not_le.mp hle

/-- **Range selection.**  For inputs that pass the check of an endpoint, and every end block. -/
theorem range_selection (H : Host Y)
    (hcheck : RangeChecked endpoint request.aggchainProofInputs) :
    let inputs := request.aggchainProofInputs
    let last := inputs.lastProvenBlock
    -- `last_proven_block + 1` does not overflow
    last.toNat + 1 < 2 ^ 64 ∧
    -- each entry of the range exactly once, with its own data, by position
    (selectedGers H request).Perm ((inputs.gersIn last request.endBlock).map (fun e =>
      { proof := e.insertedGer.proofGerL1root, l1InfoTreeLeaf := e.insertedGer.l1Leaf,
        blockNumber := e.blockNumber, blockIndex := e.blockIndex })) ∧
    (selectedGers H request).Pairwise (fun g g' => g.position ≤ g'.position) ∧
    -- the exits of the range, in the order of the request
    bridgeExitsClaimed H request = (inputs.importedBridgeExits.filter
      (fun ib => last < ib.blockNumber ∧ ib.blockNumber ≤ request.endBlock)).map
      (fun ib => ⟨H.globalIndexToU256 ib.globalIndex, ib.bridgeExitHash⟩) ∧
    -- any iteration order of the map and any sort give the same list
    (inputs.DistinctPositions last request.endBlock →
      ∀ (H' : Host Y) (other : AggchainProofBuilderRequest X Y), other.endBlock = request.endBlock →
        other.aggchainProofInputs.lastProvenBlock = last →
        inputs.gerLeaves.entries.Perm other.aggchainProofInputs.gerLeaves.entries →
        selectedGers H' other = selectedGers H request) ∧
    -- consecutive ranges
    (∀ (a b c : UInt64) (r₁ r₂ r₃ : BlockRange), a ≤ b → b ≤ c → r₁.Covers a b → r₂.Covers b c →
      r₃.Covers a c → inputs.DistinctPositions a c →
      inputs.sortedInsertedGers H.sortUnstableByKey r₁ ++
        inputs.sortedInsertedGers H.sortUnstableByKey r₂ =
        inputs.sortedInsertedGers H.sortUnstableByKey r₃) := by
  intro inputs last
  have hmax : last.toNat + 1 < 2 ^ 64 := succ_lt_of_lt hcheck.lt
  have hcovers : (newBlocksRange request).Covers last request.endBlock := contains_succ hmax
  refine ⟨hmax, ?_, H.sortUnstableByKey.sorted _, ?_, ?_, ?_⟩
  · exact AggchainProofInputs.sortedInsertedGers_perm hcovers
  · unfold bridgeExitsClaimed
    congr 1
    refine List.filter_congr fun ib _ => ?_
    rw [hcovers, InRange, Bool.decide_and]
  · intro hdistinct H' other hstop hlast hperm
    have hsame : newBlocksRange other = newBlocksRange request := by
      rw [newBlocksRange, newBlocksRange, hstop, hlast]
    rw [selectedGers, selectedGers, hsame]
    exact AggchainProofInputs.sortedInsertedGers_eq_of_perm hcovers hdistinct hperm
  · intro a b c r₁ r₂ r₃ hab hbc h₁ h₂ h₃ hdistinct
    exact (AggchainProofInputs.sortedInsertedGers_append hab hbc h₁ h₂ h₃ hdistinct).symm

end Selection

open Sample

/-- Two consecutive ranges of the sample request, which lists the leaf of block `5` first. -/
theorem range_selection_sample :
    RangeChecked "GenerateAggchainProof" proofInputs ∧ (selectedGers host builderRequest).length = 1 ∧
    proofInputs.sortedInsertedGers host.sortUnstableByKey ⟨2, 2⟩ ++
      proofInputs.sortedInsertedGers host.sortUnstableByKey ⟨3, 5⟩ =
      proofInputs.sortedInsertedGers host.sortUnstableByKey ⟨2, 5⟩ := by
  have hcheck : RangeChecked "GenerateAggchainProof" builderRequest.aggchainProofInputs := rfl
  obtain ⟨-, hperm, -, -, -, happend⟩ := range_selection host hcheck
  refine ⟨hcheck, hperm.length_eq.trans rfl, ?_⟩
  have hcovers (a b : UInt64) (ha : a.toNat + 1 < 2 ^ 64) := BlockRange.covers_succ ha b
  exact happend 1 2 5 _ _ _ (by decide) (by decide) (hcovers 1 2 (by decide))
    (hcovers 2 5 (by decide)) (hcovers 1 5 (by decide)) (by decide)

end Aggchain
