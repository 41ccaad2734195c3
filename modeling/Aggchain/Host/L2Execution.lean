import Aggchain.Guest.Bridge
import Mathlib.Data.Prod.Lex

/-!
# Aggchain.Host.L2Execution — an honest L2 chain

Blocks with their bridge events, and the values of the view functions after each block: every event
folds one element into the hash chain of its kind.  `value_add` is the value after a run of blocks,
`insertions_increasing` the order of the GER insertions on the chain.
-/

namespace Aggchain

/-- What the GER manager and the bridge contract record. -/
inductive L2Event where
  /-- the GER insertion at a position of the block -/
  | insertGer (index : ℕ) (ger : Digest)
  | removeGer (ger : Digest)
  | claim (claim : GlobalIndexWithLeafHash)
  | unsetClaim (globalIndex : U256)
  deriving DecidableEq

namespace L2Event

/-- What the event folds into the hash chain `f`. -/
def elements {X : Ext} (E : Env X) : SolFunction → L2Event → List Digest
  | .insertedGERHashChain, .insertGer _ ger => [ger]
  | .removedGERHashChain, .removeGer ger => [ger]
  | .claimedGlobalIndexHashChain, .claim c => [E.claimCommitment c]
  | .unsetGlobalIndexHashChain, .unsetClaim globalIndex => [U256.toBeBytes globalIndex]
  | _, _ => []

/-- The insertion, with its position in the block. -/
def insertion : L2Event → Option (ℕ × Digest)
  | .insertGer index ger => some (index, ger)
  | _ => none

def claimed : L2Event → Option GlobalIndexWithLeafHash
  | .claim c => some c
  | _ => none

/-- Neither removes a GER nor unsets a claim. -/
def Quiet : L2Event → Prop
  | .removeGer _ => False
  | .unsetClaim _ => False
  | _ => True

instance : DecidablePred Quiet
  | .removeGer _ => isFalse id
  | .unsetClaim _ => isFalse id
  | .insertGer _ _ => isTrue trivial
  | .claim _ => isTrue trivial

end L2Event

/-- The view functions that return a hash chain. -/
def SolFunction.IsHashChain : SolFunction → Prop
  | .insertedGERHashChain => True
  | .removedGERHashChain => True
  | .claimedGlobalIndexHashChain => True
  | .unsetGlobalIndexHashChain => True
  | _ => False

/-- The contract a view function belongs to, the GER manager being at `L2_GER_ADDR`. -/
def SolFunction.contract (bridge : Address) : SolFunction → Address
  | .insertedGERHashChain => L2_GER_ADDR
  | .removedGERHashChain => L2_GER_ADDR
  | .bridgeAddress => L2_GER_ADDR
  | _ => bridge

/-- An execution of the L2 chain, with a bridge contract at one address. -/
structure L2Execution {X : Ext} (E : Env X) where
  hash : ℕ → Digest
  events : ℕ → List L2Event
  bridge : Address
  /-- the `bytes32` view functions after block `n` -/
  value : ℕ → SolFunction → Digest
  folds : ∀ n f, f.IsHashChain → value (n + 1) f =
    HashChain.fold E.chainStep (value n f) ((events (n + 1)).flatMap (L2Event.elements E f))
  indices : ∀ n, ((events n).filterMap L2Event.insertion).Pairwise (fun a b => a.1 < b.1)

namespace L2Execution

variable {X : Ext} {E : Env X} (L : L2Execution E)

/-- The events of the `k` blocks behind block `n`. -/
def between (n k : ℕ) : List L2Event := (List.range' (n + 1) k).flatMap L.events

/-- The GER insertions of these blocks: block, position in the block, GER. -/
def insertions (n k : ℕ) : List (ℕ × ℕ × Digest) :=
  (List.range' (n + 1) k).flatMap
    (fun b => ((L.events b).filterMap L2Event.insertion).map (fun p => (b, p.1, p.2)))

def claims (n k : ℕ) : List GlobalIndexWithLeafHash := (L.between n k).filterMap L2Event.claimed

/-- The position of an insertion. -/
def position (i : ℕ × ℕ × Digest) : ℕ ×ₗ ℕ := toLex (i.1, i.2.1)

/-! ## Runs of blocks -/

variable {L}

theorem between_succ (n k : ℕ) : L.between n (k + 1) = L.between n k ++ L.events (n + k + 1) := by
  have hlast : n + 1 + 1 * k = n + k + 1 := by omega
  rw [between, List.range'_concat, List.flatMap_append, hlast, between]
  simp

/-- The hash chains after a run of blocks. -/
theorem value_add (n k : ℕ) {f : SolFunction} (hf : f.IsHashChain) : L.value (n + k) f =
    HashChain.fold E.chainStep (L.value n f) ((L.between n k).flatMap (L2Event.elements E f)) := by
  induction k with
  | zero => simp [between]
  | succ k ih =>
    rw [between_succ, List.flatMap_append, HashChain.fold_append, ← ih, ← L.folds _ f hf]
    rfl

theorem elements_inserted (events : List L2Event) :
    events.flatMap (L2Event.elements E .insertedGERHashChain) =
      (events.filterMap L2Event.insertion).map Prod.snd := by
  induction events with
  | nil => rfl
  | cons e events ih =>
    rw [List.flatMap_cons, ih]
    cases e <;> rfl

theorem elements_claimed (events : List L2Event) :
    events.flatMap (L2Event.elements E .claimedGlobalIndexHashChain) =
      (events.filterMap L2Event.claimed).map E.claimCommitment := by
  induction events with
  | nil => rfl
  | cons e events ih =>
    rw [List.flatMap_cons, ih]
    cases e <;> rfl

theorem elements_quiet {events : List L2Event} (h : ∀ e ∈ events, e.Quiet) {f : SolFunction}
    (hf : f = .removedGERHashChain ∨ f = .unsetGlobalIndexHashChain) :
    events.flatMap (L2Event.elements E f) = [] := by
  refine List.flatMap_eq_nil_iff.mpr fun e he => ?_
  have hq := h e he
  rcases hf with rfl | rfl
  · cases e with
    | removeGer ger => exact hq.elim
    | _ => rfl
  · cases e with
    | unsetClaim globalIndex => exact hq.elim
    | _ => rfl

/-- The GERs of the run, in the order they were folded. -/
theorem insertions_gers (n k : ℕ) : (L.insertions n k).map (·.2.2) =
    (L.between n k).flatMap (L2Event.elements E .insertedGERHashChain) := by
  rw [elements_inserted, insertions, between, List.filterMap_flatMap, List.map_flatMap,
    List.map_flatMap]
  simp only [List.map_map]
  rfl

/-- On the chain the positions increase. -/
theorem insertions_increasing (n k : ℕ) :
    (L.insertions n k).Pairwise (fun a b => position a < position b) := by
  refine List.pairwise_flatMap.mpr ⟨fun b _ => ?_, ?_⟩
  · -- inside a block by the index
    refine List.pairwise_map.mpr ((L.indices b).imp ?_)
    intro p q hpq
    exact Prod.Lex.toLex_lt_toLex.mpr (Or.inr ⟨rfl, hpq⟩)
  · -- across blocks by the block number
    have hblocks : (List.range' (n + 1) k).Pairwise (· < ·) := List.pairwise_lt_range'
    refine hblocks.imp ?_
    intro b c hbc x hx y hy
    obtain ⟨p, -, rfl⟩ := List.mem_map.mp hx
    obtain ⟨q, -, rfl⟩ := List.mem_map.mp hy
    exact Prod.Lex.toLex_lt_toLex.mpr (Or.inl hbc)

end L2Execution

end Aggchain
