import Aggchain.Guest.BridgeSound
import Mathlib.Data.List.Chain

/-!
# Aggchain.Guest.BridgeJoin — consecutive ranges as one range

Bridge inputs that were accepted for consecutive ranges of one chain can be joined: the lists are
concatenated, and `filter_values` is applied again to the whole.  The joined input is accepted.

What is left over of the whole range is not what is left over of the parts: a range may take back
what an earlier one has inserted.  But nothing is left over of the whole whose key was left over of
no part.

The parts may be proven against different L1 info roots; the joined input needs one root that all
their GERs are included in.
-/

namespace Aggchain

/-! ## Values left over after several ranges -/

section Leftover

variable {K V ι : Type} [DecidableEq K] {keyFn : V → K}

/-- A success of `filter_values` keeps a value of key `k` exactly when more of them are inserted than
removed. -/
theorem exists_kept_iff {removed : List K} (hfit : InMemory removed) {values out : List V}
    (h : filterValues removed values keyFn = .ok out) (k : K) :
    (∃ v ∈ out, keyFn v = k) ↔ removed.count k < (values.map keyFn).count k := by
  obtain ⟨out', hout', -, hper⟩ := filterValues_spec hfit values keyFn
  obtain rfl := Except.ok.inj (h.symm.trans hout')
  have hlen := congrArg List.length (hper k)
  rw [List.length_drop, length_filter_key, length_filter_key] at hlen
  have hpos : (∃ v ∈ out, keyFn v = k) ↔ 0 < (out.map keyFn).count k := by
    rw [List.count_pos_iff, List.mem_map]
  rw [hpos, hlen]
  omega

/-- A key that is left over all ranges is left in one of them. -/
theorem exists_kept_part {parts : List ι} {removed : ι → List K} {values : ι → List V}
    {out : List V} (hfit : InMemory (parts.flatMap removed))
    (h : filterValues (parts.flatMap removed) (parts.flatMap values) keyFn = .ok out) {v : V}
    (hv : v ∈ out) :
    ∃ i ∈ parts, ∃ kept, filterValues (removed i) (values i) keyFn = .ok kept ∧
      ∃ w ∈ kept, keyFn w = keyFn v := by
  have hlt := (exists_kept_iff hfit h (keyFn v)).mp ⟨v, hv, rfl⟩
  -- otherwise each range removes at least as many values of the key as it inserts
  have hpart : ∃ i ∈ parts, (removed i).count (keyFn v) < ((values i).map keyFn).count (keyFn v) := by
    by_contra hno
    have hle : ∀ l : List ι, (∀ i ∈ l, i ∈ parts) →
        ((l.flatMap values).map keyFn).count (keyFn v) ≤ (l.flatMap removed).count (keyFn v) := by
      intro l
      induction l with
      | nil => simp
      | cons i l ih =>
        intro hl
        have hi : ¬ (removed i).count (keyFn v) < ((values i).map keyFn).count (keyFn v) :=
          fun hlt' => hno ⟨i, hl i List.mem_cons_self, hlt'⟩
        have hrest := ih fun j hj => hl j (List.mem_cons_of_mem i hj)
        rw [List.flatMap_cons, List.flatMap_cons, List.map_append, List.count_append,
          List.count_append]
        omega
    have := hle parts fun _ hi => hi
    omega
  obtain ⟨i, hi, hcount⟩ := hpart
  have hsub : (removed i).Sublist (parts.flatMap removed) := by
    rw [List.flatMap_def]
    exact List.sublist_flatten_of_mem (List.mem_map_of_mem hi)
  have hfit' : InMemory (removed i) := hsub.length_le.trans hfit
  obtain ⟨kept, hkept, -, -⟩ := filterValues_spec hfit' (values i) keyFn
  exact ⟨i, hi, kept, hkept, (exists_kept_iff hfit' hkept _).mpr hcount⟩

end Leftover

/-! ## Runs of ranges -/

section Run

variable {X : Ext} {E : Env X} {V : L2View}

namespace BridgeConstraintsInput

open StaticCallWithContext (Answers)

/-- The range of `next` starts where the one of `inp` ends, on the same contracts. -/
structure Follows (inp next : BridgeConstraintsInput X) : Prop where
  block : next.prevL2BlockHash = inp.newL2BlockHash
  gerAddr : next.gerAddr = inp.gerAddr
  callerAddress : next.bridgeWitness.callerAddress = inp.bridgeWitness.callerAddress

/-- The parts of a run as one input, with the GERs and the claims that are left over. -/
def join (E : Env X) (first last : BridgeConstraintsInput X)
    (parts : List (BridgeConstraintsInput X)) (insertedGers : List InsertedGER)
    (claims : List GlobalIndexWithLeafHash) (root : Digest) : BridgeConstraintsInput X where
  gerAddr := first.gerAddr
  prevL2BlockHash := first.prevL2BlockHash
  newL2BlockHash := last.newL2BlockHash
  newLocalExitRoot := last.newLocalExitRoot
  l1InfoRoot := root
  commitImportedBridgeExits := E.importedBridgeExitsCommitmentV3 claims
  bridgeWitness :=
    { insertedGers
      rawInsertedGers := parts.flatMap (·.bridgeWitness.rawInsertedGers)
      removedGers := parts.flatMap (·.bridgeWitness.removedGers)
      bridgeExitsClaimed := parts.flatMap (·.bridgeWitness.bridgeExitsClaimed)
      globalIndicesUnset := parts.flatMap (·.bridgeWitness.globalIndicesUnset)
      prevL2BlockSketch := first.bridgeWitness.prevL2BlockSketch
      newL2BlockSketch := last.bridgeWitness.newL2BlockSketch
      callerAddress := first.bridgeWitness.callerAddress }

/-- What the parts list is folded from the first block to the last one. -/
theorem foldedInto_run {addr : Address} {f : SolFunction}
    {elements : BridgeConstraintsInput X → List Digest} {first : BridgeConstraintsInput X}
    {rest : List (BridgeConstraintsInput X)} (hrun : (first :: rest).IsChain Follows)
    (hfolded : ∀ inp ∈ first :: rest,
      FoldedInto E V inp.prevL2BlockHash inp.newL2BlockHash addr f (elements inp)) :
    FoldedInto E V first.prevL2BlockHash (rest.getLastD first).newL2BlockHash addr f
      ((first :: rest).flatMap elements) := by
  unfold FoldedInto at hfolded ⊢
  refine HashChain.fold_run
    (fun inp : BridgeConstraintsInput X => V.bytes32 inp.prevL2BlockHash addr f)
    (fun inp => V.bytes32 inp.newL2BlockHash addr f) elements (hrun.imp ?_) hfolded
  intro inp next hnext
  rw [hnext.block]

/-- The parts of a run share the GER manager and the caller. -/
theorem shared_of_run {first : BridgeConstraintsInput X} {rest : List (BridgeConstraintsInput X)}
    (hrun : (first :: rest).IsChain Follows) : ∀ inp ∈ first :: rest,
      inp.gerAddr = first.gerAddr ∧
        inp.bridgeWitness.callerAddress = first.bridgeWitness.callerAddress := by
  induction rest generalizing first with
  | nil =>
    intro inp hinp
    obtain rfl := List.mem_singleton.mp hinp
    exact ⟨rfl, rfl⟩
  | cons next rest ih =>
    obtain ⟨hnext, hrun'⟩ := List.isChain_cons_cons.mp hrun
    intro inp hinp
    rcases List.mem_cons.mp hinp with rfl | hmem
    · exact ⟨rfl, rfl⟩
    · obtain ⟨hger, hcaller⟩ := ih hrun' inp hmem
      exact ⟨hger.trans hnext.gerAddr, hcaller.trans hnext.callerAddress⟩

/-- GERs that are included in the L1 have inclusion proofs. -/
theorem exists_insertedGers {root : Digest} {kept : List Digest}
    (h : ∀ g ∈ kept, IncludedInL1 E root g) :
    ∃ gers : List InsertedGER, gers.map (InsertedGER.ger E) = kept ∧
      ∀ ger ∈ gers, ger.verify E root = true := by
  induction kept with
  | nil => exact ⟨[], rfl, by simp⟩
  | cons g kept ih =>
    obtain ⟨gers, hgers, hverify⟩ := ih fun g' hg' => h g' (List.mem_cons_of_mem g hg')
    obtain ⟨leaf, path, hger, hroot, hpath⟩ := h g List.mem_cons_self
    refine ⟨⟨path, leaf, 0, 0⟩ :: gers, ?_, ?_⟩
    · rw [List.map_cons, hgers]
      exact congrArg (· :: kept) hger
    · intro ger hmem
      rcases List.mem_cons.mp hmem with rfl | hmem
      · exact InsertedGER.verify_eq_true_iff.mpr ⟨hroot, hpath⟩
      · exact hverify ger hmem

section Joined

variable {first : BridgeConstraintsInput X} {rest : List (BridgeConstraintsInput X)}

/-- One hash chain of a run, from the first sketch to the last one. -/
theorem chainChecked_join (gers : List InsertedGER) (claims : List GlobalIndexWithLeafHash)
    (root : Digest) (hE : ExecutorSound E V) (hrun : (first :: rest).IsChain Follows)
    {f : SolFunction} (hf : f ≠ .bridgeAddress) {addr : Address}
    {elements : BridgeConstraintsInput X → List Digest}
    (hparts : ∀ inp ∈ first :: rest,
      ChainChecked E inp ⟨f, E.abiDecodeBytes32⟩ addr (elements inp)) :
    ChainChecked E (join E first (rest.getLastD first) (first :: rest) gers claims root)
      ⟨f, E.abiDecodeBytes32⟩ addr ((first :: rest).flatMap elements) := by
  have hlast := List.getLastD_mem_cons (l := rest) (a := first)
  obtain ⟨prev, -, hprev, -, -⟩ := hparts first List.mem_cons_self
  obtain ⟨-, new, -, hnew, -⟩ := hparts _ hlast
  rw [(shared_of_run hrun _ hlast).2] at hnew
  have hfold := foldedInto_run hrun fun inp hinp => (hparts inp hinp).foldedInto hE hf
  refine ⟨prev, new, hprev, hnew, ?_⟩
  rw [hE.answers_bytes32 hf hprev, hE.answers_bytes32 hf hnew]
  exact hfold

/-- What is left of the GERs over a run is claimed by one of its parts. -/
theorem exists_part {kept : List Digest} {bridge : Address} {parts : List (BridgeConstraintsInput X)}
    (hacc : ∀ inp ∈ parts, Accepted E inp bridge)
    (hfit : InMemory (parts.flatMap (·.bridgeWitness.removedGers)))
    (hkept : filterValues (parts.flatMap (·.bridgeWitness.removedGers))
      (parts.flatMap (·.bridgeWitness.rawInsertedGers)) id = .ok kept) :
    ∀ g ∈ kept, ∃ inp ∈ parts, ∃ ger ∈ inp.bridgeWitness.insertedGers, ger.ger E = g := by
  intro g hg
  obtain ⟨inp, hinp, part, hpart, w, hw, rfl⟩ := exists_kept_part hfit hkept hg
  obtain rfl := Except.ok.inj ((hacc inp hinp).gers.symm.trans hpart)
  obtain ⟨ger, hger, hgereq⟩ := List.mem_map.mp hw
  exact ⟨inp, hinp, ger, hger, hgereq⟩

/-- The run with what is left over of its lists is accepted. -/
theorem accepted_join (hE : ExecutorSound E V) {bridge : Address} {root : Digest}
    {gers : List InsertedGER} {claims : List GlobalIndexWithLeafHash}
    (hrun : (first :: rest).IsChain Follows) (hacc : ∀ inp ∈ first :: rest, Accepted E inp bridge)
    (hgers : filterValues ((first :: rest).flatMap (·.bridgeWitness.removedGers))
      ((first :: rest).flatMap (·.bridgeWitness.rawInsertedGers)) id =
      .ok (gers.map (InsertedGER.ger E)))
    (hclaims : filterValues ((first :: rest).flatMap (·.bridgeWitness.globalIndicesUnset))
      ((first :: rest).flatMap (·.bridgeWitness.bridgeExitsClaimed))
      GlobalIndexWithLeafHash.globalIndex = .ok claims)
    (hproofs : ∀ ger ∈ gers, ger.verify E root = true) :
    Accepted E (join E first (rest.getLastD first) (first :: rest) gers claims root) bridge := by
  have hshared := shared_of_run hrun
  have hlast := List.getLastD_mem_cons (l := rest) (a := first)
  obtain ⟨hlastGer, hlastCaller⟩ := hshared _ hlast
  have hbridgeAnswer := (hacc _ hlast).bridgeAddress
  have hler := (hacc _ hlast).newLer
  rw [hlastCaller] at hbridgeAnswer hler
  rw [hlastGer] at hbridgeAnswer
  refine
    { insertedGers := chainChecked_join gers claims root hE hrun (by decide)
        fun inp hinp => (hshared inp hinp).1 ▸ (hacc inp hinp).insertedGers
      removedGers := chainChecked_join gers claims root hE hrun (by decide)
        fun inp hinp => (hshared inp hinp).1 ▸ (hacc inp hinp).removedGers
      bridgeAddress := hbridgeAnswer
      claimed := ?_
      unset := ?_
      newLer := hler
      exits := ⟨claims, hclaims, rfl⟩
      gers := hgers
      proofs := hproofs }
  · have hchain := chainChecked_join gers claims root hE hrun
      (by decide) fun inp hinp => (hacc inp hinp).claimed
    rw [← List.map_flatMap] at hchain
    exact hchain
  · have hchain := chainChecked_join gers claims root hE hrun
      (by decide) fun inp hinp => (hacc inp hinp).unset
    rw [← List.map_flatMap] at hchain
    exact hchain

/-- **Consecutive ranges join.**  Inputs accepted one after the other on one chain, with one bridge
and GERs that are all included in `root`, make up an accepted input for the whole range, with the
GERs and the claims that `filter_values` leaves of the concatenated lists.  A GER that is left is one
of the GERs of a part; a claim that is left has the global index of a claim that is left of a part,
though it may be another one. -/
theorem verify_join (hE : ExecutorSound E V) {bridge : Address} {root : Digest}
    (hrun : (first :: rest).IsChain Follows)
    (hok : ∀ inp ∈ first :: rest, (inp.verify E).result = .ok ())
    (hbridge : ∀ inp ∈ first :: rest, V.bridgeAddress inp.newL2BlockHash inp.gerAddr = bridge)
    (hincluded : ∀ inp ∈ first :: rest, ∀ ger ∈ inp.bridgeWitness.insertedGers,
      IncludedInL1 E root (ger.ger E))
    (hremoved : InMemory ((first :: rest).flatMap (·.bridgeWitness.removedGers)))
    (hunset : InMemory ((first :: rest).flatMap (·.bridgeWitness.globalIndicesUnset))) :
    ∃ gers claims,
      filterValues ((first :: rest).flatMap (·.bridgeWitness.removedGers))
        ((first :: rest).flatMap (·.bridgeWitness.rawInsertedGers)) id =
        .ok (gers.map (InsertedGER.ger E)) ∧
      filterValues ((first :: rest).flatMap (·.bridgeWitness.globalIndicesUnset))
        ((first :: rest).flatMap (·.bridgeWitness.bridgeExitsClaimed))
        GlobalIndexWithLeafHash.globalIndex = .ok claims ∧
      ((join E first (rest.getLastD first) (first :: rest) gers claims root).verify E).result =
        .ok () ∧
      (∀ ger ∈ gers, ∃ inp ∈ first :: rest, ∃ ger' ∈ inp.bridgeWitness.insertedGers,
        ger'.ger E = ger.ger E) ∧
      ∀ claim ∈ claims, ∃ inp ∈ first :: rest, ∃ part,
        filterValues inp.bridgeWitness.globalIndicesUnset inp.bridgeWitness.bridgeExitsClaimed
          GlobalIndexWithLeafHash.globalIndex = .ok part ∧
        E.importedBridgeExitsCommitmentV3 part = inp.commitImportedBridgeExits ∧
        ∃ claim' ∈ part, claim'.globalIndex = claim.globalIndex := by
  have hacc : ∀ inp ∈ first :: rest, Accepted E inp bridge := by
    intro inp hinp
    obtain ⟨addr, haddr⟩ := verify_ok_iff.mp (hok inp hinp)
    obtain rfl := (hE.answers_bridgeAddress haddr.bridgeAddress).trans (hbridge inp hinp)
    exact haddr
  -- what is left of the GERs and of the claims
  obtain ⟨kept, hkept, -, -⟩ := filterValues_spec hremoved
    ((first :: rest).flatMap (·.bridgeWitness.rawInsertedGers)) id
  obtain ⟨claims, hclaims, -, -⟩ := filterValues_spec hunset
    ((first :: rest).flatMap (·.bridgeWitness.bridgeExitsClaimed))
    GlobalIndexWithLeafHash.globalIndex
  have hpart := exists_part hacc hremoved hkept
  have hkeptIncluded : ∀ g ∈ kept, IncludedInL1 E root g := by
    intro g hg
    obtain ⟨inp, hinp, ger, hger, rfl⟩ := hpart g hg
    exact hincluded inp hinp ger hger
  obtain ⟨gers, rfl, hproofs⟩ := exists_insertedGers hkeptIncluded
  refine ⟨gers, claims, hkept, hclaims, ?_, ?_, ?_⟩
  · exact verify_ok_iff.mpr ⟨bridge, accepted_join hE hrun hacc hkept hclaims hproofs⟩
  · intro ger hger
    exact hpart _ (List.mem_map_of_mem hger)
  · intro claim hclaim
    obtain ⟨inp, hinp, part, hfilter, hkey⟩ := exists_kept_part hunset hclaims hclaim
    obtain ⟨part', hfilter', hcommit⟩ := (hacc inp hinp).exits
    obtain rfl := Except.ok.inj (hfilter.symm.trans hfilter')
    exact ⟨inp, hinp, part, hfilter, hcommit, hkey⟩

end Joined

end BridgeConstraintsInput

end Run

/-! ## A range that takes back what the one before inserted -/

namespace Sample

/-- The same exit, claimed again with other content. -/
def secondClaim : GlobalIndexWithLeafHash := ⟨claim.globalIndex, Bytes.ofNat 32 0xe2⟩

def secondCommitment : Digest := Bytes.ofNat 32 0x36e4243cfeecedffc236aec76d988cd6f3bea1a7c7d845b0c2182f2e31312e4c
def secondClaimedChain : Digest := Bytes.ofNat 32 0xc355f58b447c9d23fd1126b90cfc1560b1da525b20bcac361f5962ca03227a6e
def secondExitsCommitment : Digest := Bytes.ofNat 32 0x9f2b5fb5ad959cc78e22ba564fd040289336cb03b5273beacb4813c60da9fb80

/-- The GER is inserted and the exit claimed in block `2`; in block `3` the GER is removed, the exit
unset and claimed again. -/
def retractView : L2View where
  bytes32 block _ f :=
    if block = Bytes.ofNat 32 1 then Bytes.ofNat 32 0
    else
      match f with
      | .insertedGERHashChain => insertedChain
      | .removedGERHashChain => if block = Bytes.ofNat 32 2 then Bytes.ofNat 32 0 else insertedChain
      | .claimedGlobalIndexHashChain =>
        if block = Bytes.ofNat 32 2 then claimedChain else secondClaimedChain
      | .unsetGlobalIndexHashChain =>
        if block = Bytes.ofNat 32 2 then Bytes.ofNat 32 0 else unsetChain
      | .getRoot => Bytes.ofNat 32 0x1e7
      | .bridgeAddress => Bytes.ofNat 32 0
  bridgeAddress _ _ := Bytes.ofNat 20 0xb71d6e

def retractEnv : Env ⟨Digest, Bytes 65⟩ := Env.onChain
  { env with
    keccak256 := fun data =>
      if data = claimedChain.val ++ secondCommitment.val then secondClaimedChain else keccak256 data
    claimCommitment := fun c => if c = secondClaim then secondCommitment else claimCommitment
    importedBridgeExitsCommitmentV3 := fun claims =>
      if claims = [secondClaim] then secondExitsCommitment
      else env.importedBridgeExitsCommitmentV3 claims } retractView

/-- The blocks up to `2`: the GER and the claim. -/
def claimInput : BridgeConstraintsInput ⟨Digest, Bytes 65⟩ :=
  { input with
    commitImportedBridgeExits := exitsCommitment
    bridgeWitness := { input.bridgeWitness with globalIndicesUnset := [] } }

/-- Block `3`: nothing is left of it alone. -/
def retractInput : BridgeConstraintsInput ⟨Digest, Bytes 65⟩ :=
  { input with
    prevL2BlockHash := Bytes.ofNat 32 2
    newL2BlockHash := Bytes.ofNat 32 3
    bridgeWitness :=
      { insertedGers := []
        rawInsertedGers := []
        removedGers := [leaf.inner.globalExitRoot]
        bridgeExitsClaimed := [secondClaim]
        globalIndicesUnset := [claim.globalIndex]
        prevL2BlockSketch := Bytes.ofNat 32 2
        newL2BlockSketch := Bytes.ofNat 32 3
        callerAddress := Bytes.ofNat 20 0 } }

end Sample

open Sample

/-- Of the first range the GER and the claim are left, of the second nothing, and of both together
the second claim. -/
theorem verify_join_retract :
    (claimInput.verify retractEnv).result = .ok () ∧
    (retractInput.verify retractEnv).result = .ok () ∧
    ((BridgeConstraintsInput.join retractEnv claimInput retractInput [claimInput, retractInput] []
      [secondClaim] path.root).verify retractEnv).result = .ok () := by
  have hclaim : (claimInput.verify retractEnv).result = .ok () := by decide +kernel
  have hretract : (retractInput.verify retractEnv).result = .ok () := by decide +kernel
  have hok : ∀ inp ∈ [claimInput, retractInput], (inp.verify retractEnv).result = .ok () := by
    intro inp hinp
    rcases List.mem_pair.mp hinp with rfl | rfl
    · exact hclaim
    · exact hretract
  have hbridge : ∀ inp ∈ [claimInput, retractInput],
      retractView.bridgeAddress inp.newL2BlockHash inp.gerAddr = Bytes.ofNat 20 0xb71d6e :=
    fun _ _ => rfl
  have hincluded : ∀ inp ∈ [claimInput, retractInput], ∀ ger ∈ inp.bridgeWitness.insertedGers,
      IncludedInL1 retractEnv path.root (ger.ger retractEnv) := by
    intro inp hinp ger hger
    rcases List.mem_pair.mp hinp with rfl | rfl
    · obtain rfl := List.mem_singleton.mp hger
      exact ⟨leaf, path, rfl, rfl, by decide +kernel⟩
    · cases hger
  have hrun : [claimInput, retractInput].IsChain BridgeConstraintsInput.Follows :=
    List.isChain_pair.mpr ⟨rfl, rfl, rfl⟩
  have hone : 1 ≤ usizeMax := by decide
  have hE : ExecutorSound retractEnv retractView := executorSound_onChain _ _
  obtain ⟨gers, claims, hgers, hclaims, hjoined, -⟩ := BridgeConstraintsInput.verify_join hE hrun hok
    hbridge hincluded hone hone
  -- what is left over of the concatenated lists
  have hnoGer : gers.map (InsertedGER.ger retractEnv) = [] :=
    Except.ok.inj (hgers.symm.trans (by decide +kernel))
  have hsecond : claims = [secondClaim] := Except.ok.inj (hclaims.symm.trans (by decide +kernel))
  obtain rfl := List.map_eq_nil_iff.mp hnoGer
  obtain rfl := hsecond
  exact ⟨hclaim, hretract, hjoined⟩

end Aggchain
