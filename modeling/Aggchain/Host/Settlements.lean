import Aggchain.Host.Answers

/-!
# Aggchain.Host.Settlements — answers one after another

A rollup is settled in many answers, each for the blocks behind the end block of the one before, some
with a proof and some with a signature.  `run_settles` puts them together: whatever the answers of a
run say about their own ranges adds up to the range from the first block to the last one, with no
exit root, transition, event or block in between lost or counted twice.

The endpoints fetch everything again for each request, and check nothing against the answers before.
So each answer has its own client here, and what is relied on is that the clients of two answers in a
row agree on the block where the ranges meet.
-/

namespace Aggchain

open AggchainProofBuilder (InRange)

/-! ## Settlements -/

section Model

variable {X : Ext} {Y : HostExt} (E : Env X) (H : Host Y) (W : Wire X Y)

/-- A request that an endpoint passed on to the service, and the answer. -/
structure Settlement where
  /-- the endpoints at the time of the request -/
  grpc : GrpcService X Y
  request : AggchainProofServiceRequest X Y
  response : AggchainProofServiceResponse
  issued : (∃ message : GenerateAggchainProofRequest W,
      request ∈ (grpc.generateAggchainProof E H message).calls) ∨
    ∃ message : GenerateOptimisticAggchainProofRequest W,
      request ∈ (grpc.generateOptimisticAggchainProof E H message).calls
  answered : grpc.service.call E H request = .ok response

variable {E H W}

namespace Settlement

/-- The block that was proven before. -/
def last (s : Settlement E H W) : UInt64 := s.request.inputs.lastProvenBlock

def stop (s : Settlement E H W) : UInt64 := s.response.endBlock

/-- The builder that answered. -/
def builder (s : Settlement E H W) : AggchainProofBuilder X Y := s.grpc.service.aggchainProofBuilder

/-- The client that was asked. -/
def client (s : Settlement E H W) : ContractsClient X := s.builder.contractsClient

/-- The range of `t` starts where the one of `s` ends, and the clients of both have the same output
and the same local exit root there. -/
structure Meets (s t : Settlement E H W) : Prop where
  block : t.last = s.stop
  output : ∀ new prev, s.client.getL2OutputAtBlock s.stop = .ok new →
    t.client.getL2OutputAtBlock t.last = .ok prev → prev = new
  localExitRoot : ∀ new prev, s.client.getL2LocalExitRoot s.stop = .ok new →
    t.client.getL2LocalExitRoot t.last = .ok prev → prev = new

/-- The events of a run: the GERs `gers` were inserted and the exits claimed, range by range. -/
def runEvents (gers : Settlement E H W → List InsertedGER)
    (run : List (Settlement E H W)) : L2Events where
  insertedGers := run.flatMap (fun s => (gers s).map (InsertedGER.ger E))
  removedGers := []
  claimed := run.flatMap (fun s => (s.request.inputs.claimsIn H s.last s.stop).map E.claimCommitment)
  unset := []

/-- The transitions and the events of a run, from the output `prev` to the output `new`. -/
structure Account (V : L2View) (bridge : Address) (first : Settlement E H W)
    (rest : List (Settlement E H W)) (prev new : L2OutputAtBlock)
    (transition : Settlement E H W → AggregationProofPublicValues)
    (gers : Settlement E H W → List InsertedGER) : Prop where
  prevOutput : first.client.getL2OutputAtBlock first.last = .ok prev
  newOutput : (rest.getLastD first).client.getL2OutputAtBlock (rest.getLastD first).stop = .ok new
  /-- every transition is proven or signed -/
  vouched : ∀ s ∈ first :: rest, Vouched E H s.grpc.service s.response.publicValues (transition s)
    s.request
  preRoot : (transition first).l2PreRoot = prev.stateRoot
  transitions : (first :: rest).IsChain (fun s t =>
    (transition t).l2PreRoot = (transition s).l2PostRoot)
  postRoot : (transition (rest.getLastD first)).l2PostRoot = new.stateRoot
  newLocalExitRoot : (rest.getLastD first).response.publicValues.newLocalExitRoot =
    V.bytes32 new.latestBlockHash bridge .getRoot
  /-- the GERs are those of the requests, by position -/
  inserted : ∀ s ∈ first :: rest,
    (gers s).Perm ((s.request.inputs.gersIn s.last s.stop).map
      InsertedGerWithBlockNumber.toInsertedGER) ∧
    (gers s).Pairwise (fun g g' => g.position ≤ g'.position)
  folded : (runEvents gers (first :: rest)).Folded E V prev.latestBlockHash new.latestBlockHash
    L2_GER_ADDR bridge
  /-- what the contracts recorded over the whole range -/
  agree : ∀ real : L2Events,
    real.Folded E V prev.latestBlockHash new.latestBlockHash L2_GER_ADDR bridge →
    (runEvents gers (first :: rest)).Agree E V prev.latestBlockHash L2_GER_ADDR bridge real

/-- The answers of the run as one: the exit roots, the blocks, and the transitions and events. -/
structure RunSettled (V : L2View) (bridge : Address) (first : Settlement E H W)
    (rest : List (Settlement E H W)) : Prop where
  prevLocalExitRoot : first.client.getL2LocalExitRoot first.last =
    .ok first.response.publicValues.prevLocalExitRoot
  exitRoots : (first :: rest).IsChain (fun s t =>
    t.response.publicValues.prevLocalExitRoot = s.response.publicValues.newLocalExitRoot)
  /-- a block of the whole range belongs to one answer, and any other block to none -/
  blocks : (∀ s ∈ first :: rest, s.last ≤ s.stop) → ∀ block,
    (first :: rest).countP (fun s => InRange s.last s.stop block) =
      (InRange first.last (rest.getLastD first).stop block).toNat
  account : ∃ prev new transition gers, Account V bridge first rest prev new transition gers

end Settlement

end Model

/-! ## One settlement -/

section Single

variable {X : Ext} {Y : HostExt} {W : Wire X Y} {E : Env X} {H : Host Y} {V : L2View}

/-- The exit roots of an answer are the ones that the client has at the two blocks. -/
theorem AggchainProofService.call_localExitRoots {service : AggchainProofService X Y}
    {request : AggchainProofServiceRequest X Y} {response : AggchainProofServiceResponse}
    (hprover : HonestProver E H service.aggchainProofBuilder)
    (hok : service.call E H request = .ok response) :
    service.aggchainProofBuilder.contractsClient.getL2LocalExitRoot request.inputs.lastProvenBlock =
        .ok response.publicValues.prevLocalExitRoot ∧
      service.aggchainProofBuilder.contractsClient.getL2LocalExitRoot response.endBlock =
        .ok response.publicValues.newLocalExitRoot := by
  obtain ⟨br, hinputs, -, -, hbuild⟩ := AggchainProofService.call_ok hok
  obtain ⟨r, hcall, rfl⟩ := AggchainProofService.buildAndRespond_ok_iff.mp hbuild
  obtain ⟨data, hfetched, -, hguest, -⟩ := builderCall_accepted hprover hcall
  obtain ⟨-, -, hvalues⟩ := AggchainProofWitness.verifyAggchainInputs_ok_iff.mp hguest
  obtain ⟨e, -, hpv⟩ := AggchainProofWitness.publicValues_eq_some.mp hvalues
  rw [← hinputs]
  dsimp only
  rw [hpv]
  exact ⟨hfetched.prevLocalExitRoot, hfetched.newLocalExitRoot⟩

namespace Settlement

variable {grpc : GrpcService X Y}

theorem succ_lt (s : Settlement E H W) : s.last.toNat + 1 < 2 ^ 64 := by
  rcases s.issued with ⟨message, hmem⟩ | ⟨message, hmem⟩
  · exact GrpcService.succ_lt_of_checked (GrpcService.rangeChecked_of_generate _ hmem)
  · exact GrpcService.succ_lt_of_checked (GrpcService.rangeChecked_of_generateOptimistic _ hmem)

theorem answerSettled (s : Settlement E H W) (hprover : HonestProver E H s.builder)
    (hE : ExecutorSound E V) : AnswerSettled E H V s.grpc.service s.request s.response :=
  AggchainProofService.call_settled hprover hE s.succ_lt s.answered

/-- The buffer was ready for a request that was answered. -/
theorem bufferReady_of_issue {request : AggchainProofServiceRequest X Y}
    {answer : AggchainProofServiceResponse} (h : (grpc.issue E H request).result = .ok answer) :
    grpc.bufferReady = .ok () := by
  simp only [GrpcService.issue, Traced.bind_ok_iff, Traced.result_ofExcept,
    Except.mapError_eq_ok] at h
  obtain ⟨⟨⟩, hready, -⟩ := h
  exact hready

/-- Every answer of the normal endpoint is a settlement, for the blocks it reports. -/
theorem exists_of_generate {message : GenerateAggchainProofRequest W}
    {response : GenerateAggchainProofResponse W}
    (hok : (grpc.generateAggchainProof E H message).result = .ok response) :
    ∃ s : Settlement E H W, s.grpc = grpc ∧ message.tryInto = .ok s.request.inputs ∧
      s.last = response.lastProvenBlock ∧ s.stop = response.endBlock ∧
      response.localExitRootHash = some (W.ofDigest s.response.localExitRootHash) := by
  simp only [GrpcService.generateAggchainProof, Traced.bind_ok_iff, Traced.result_ofExcept,
    Except.mapError_eq_ok, Traced.result_pure, Except.ok.injEq] at hok
  obtain ⟨_, hcheck, inputs, hinputs, answer, hanswer, rfl⟩ := hok
  have hcall := GrpcService.issue_ok hanswer
  have hconv := GenerateAggchainProofRequest.converts_of_tryInto hinputs
  rw [← hconv.lastProvenBlock, ← hconv.requestedEndBlock] at hcheck
  have hlt := RangeChecked.lt hcheck
  rw [hconv.lastProvenBlock, hconv.requestedEndBlock] at hlt
  have hcalls := GrpcService.generate_calls (E := E) (H := H) (bufferReady_of_issue hanswer) hlt
    hinputs
  refine ⟨⟨grpc, .normal inputs, answer, Or.inl ⟨message, ?_⟩, hcall⟩, rfl, hinputs, ?_, rfl, rfl⟩
  · rw [hcalls]
    exact List.mem_singleton_self _
  · exact (AggchainProofService.call_normal_range hcall).1.symm

/-- And every answer of the optimistic one, up to the requested end block. -/
theorem exists_of_generateOptimistic {inner : GenerateAggchainProofRequest W}
    {signature : W.FixedBytes65} {response : GenerateOptimisticAggchainProofResponse W}
    (hok : (grpc.generateOptimisticAggchainProof E H ⟨some inner, some signature⟩).result =
      .ok response) :
    ∃ s : Settlement E H W, s.grpc = grpc ∧ inner.tryInto = .ok s.request.inputs ∧
      s.last = inner.lastProvenBlock ∧ s.stop = inner.requestedEndBlock ∧
      response.localExitRootHash = some (W.ofDigest s.response.localExitRootHash) := by
  simp only [GrpcService.generateOptimisticAggchainProof, Traced.bind_ok_iff,
    Traced.result_ofExcept, Except.mapError_eq_ok, Traced.result_pure, Except.ok.injEq] at hok
  obtain ⟨inputs, hinputs, _, hcheck, answer, hanswer, rfl⟩ := hok
  have hcall := GrpcService.issue_ok hanswer
  obtain ⟨hsignature, message, hmessage, hconverted⟩ :=
    GenerateOptimisticAggchainProofRequest.tryInto_ok_iff.mp hinputs
  obtain rfl := Option.some.inj hmessage
  obtain ⟨_, hfield, hparsed⟩ := hsignature
  obtain rfl := Option.some.inj hfield
  have hconv := GenerateAggchainProofRequest.converts_of_tryInto hconverted
  have hchecked : RangeChecked "GenerateOptimisticAggchainProof" inputs.aggchainProofInputs := hcheck
  have hlt := hchecked.lt
  rw [hconv.lastProvenBlock, hconv.requestedEndBlock] at hlt
  have hcalls := GrpcService.generateOptimistic_calls (E := E) (H := H)
    (bufferReady_of_issue hanswer) hparsed hlt hconverted
  refine ⟨⟨grpc, .optimistic inputs, answer, Or.inr ⟨⟨some inner, some signature⟩, ?_⟩, hcall⟩, rfl,
    hconverted, hconv.lastProvenBlock, ?_, rfl⟩
  · rw [hcalls]
    exact List.mem_singleton_self _
  · obtain ⟨r, -, hanswer'⟩ := AggchainProofService.buildAndRespond_ok_iff.mp hcall
    exact (congrArg AggchainProofServiceResponse.endBlock hanswer').trans hconv.requestedEndBlock

end Settlement

end Single

/-! ## Runs -/

section Run

variable {X : Ext} {Y : HostExt} {W : Wire X Y} {E : Env X} {H : Host Y} {V : L2View}

/-- Two ranges that meet, seen at one block. -/
theorem inRange_add {a b c : UInt64} (hab : a ≤ b) (hbc : b ≤ c) (block : UInt64) :
    (InRange a b block).toNat + (InRange b c block).toNat = (InRange a c block).toNat := by
  obtain ⟨hfirst, hsecond⟩ := inRange_split hab hbc block
  by_cases hle : block ≤ b
  · have hnot : InRange b c block = false := by simpa [hle] using hsecond
    have hsame : InRange a b block = InRange a c block :=
      Bool.eq_iff_iff.mpr (by simpa [hle] using hfirst)
    rw [hnot, hsame, Bool.toNat_false, Nat.add_zero]
  · have hnot : InRange a b block = false := by simpa [hle] using hfirst
    have hsame : InRange b c block = InRange a c block :=
      Bool.eq_iff_iff.mpr (by simpa [hle] using hsecond)
    rw [hnot, hsame, Bool.toNat_false, Nat.zero_add]

namespace Settlement

variable {first : Settlement E H W} {rest : List (Settlement E H W)}

/-- A run that never turns back does not end before it starts. -/
theorem last_le_stop (hrun : (first :: rest).IsChain Meets)
    (hle : ∀ s ∈ first :: rest, s.last ≤ s.stop) : first.last ≤ (rest.getLastD first).stop := by
  induction rest generalizing first with
  | nil => exact hle first List.mem_cons_self
  | cons next rest ih =>
    obtain ⟨hnext, hrun'⟩ := List.isChain_cons_cons.mp hrun
    have hfirst := hle first List.mem_cons_self
    have htail := ih hrun' fun s hs => hle s (List.mem_cons_of_mem first hs)
    rw [← hnext.block] at hfirst
    rw [List.getLastD_cons]
    exact UInt64.le_trans hfirst htail

/-- The ranges of a run are the blocks of the whole range, each once. -/
theorem countP_inRange (hrun : (first :: rest).IsChain Meets)
    (hle : ∀ s ∈ first :: rest, s.last ≤ s.stop) (block : UInt64) :
    (first :: rest).countP (fun s => InRange s.last s.stop block) =
      (InRange first.last (rest.getLastD first).stop block).toNat := by
  induction rest generalizing first with
  | nil =>
    rw [List.countP_singleton, List.getLastD_nil]
    cases InRange first.last first.stop block <;> rfl
  | cons next rest ih =>
    obtain ⟨hnext, hrun'⟩ := List.isChain_cons_cons.mp hrun
    have hle' := fun s hs => hle s (List.mem_cons_of_mem first hs)
    have hfirst := hle first List.mem_cons_self
    have htail := last_le_stop hrun' hle'
    have hcount : (first :: next :: rest).countP (fun s => InRange s.last s.stop block) =
        (InRange first.last first.stop block).toNat +
          (next :: rest).countP (fun s => InRange s.last s.stop block) := by
      rw [List.countP_cons, Nat.add_comm]
      cases InRange first.last first.stop block <;> rfl
    rw [hnext.block] at htail
    rw [hcount, ih hrun' hle', List.getLastD_cons, hnext.block]
    exact inRange_add hfirst htail block

/-- The events of ranges that meet are those of the whole range. -/
theorem folded_run {prev new : Settlement E H W → L2OutputAtBlock}
    {gers : Settlement E H W → List InsertedGER} {bridge : Address}
    (hmeet : (first :: rest).IsChain (fun s t => prev t = new s))
    (hfolded : ∀ s ∈ first :: rest, (s.request.inputs.eventsIn E H (gers s) s.stop).Folded E V
      (prev s).latestBlockHash (new s).latestBlockHash L2_GER_ADDR bridge) :
    (runEvents gers (first :: rest)).Folded E V (prev first).latestBlockHash
      (new (rest.getLastD first)).latestBlockHash L2_GER_ADDR bridge := by
  have hchain : ∀ (addr : Address) (f : SolFunction)
      (elements : Settlement E H W → List Digest),
      (∀ s ∈ first :: rest, FoldedInto E V (prev s).latestBlockHash (new s).latestBlockHash addr f
        (elements s)) →
      FoldedInto E V (prev first).latestBlockHash (new (rest.getLastD first)).latestBlockHash addr f
        ((first :: rest).flatMap elements) := by
    intro addr f elements hparts
    refine HashChain.fold_run (fun s => V.bytes32 (prev s).latestBlockHash addr f)
      (fun s => V.bytes32 (new s).latestBlockHash addr f) elements (hmeet.imp ?_) hparts
    intro s t hst
    rw [hst]
  have hnothing : ∀ (addr : Address) (f : SolFunction),
      (∀ s ∈ first :: rest, FoldedInto E V (prev s).latestBlockHash (new s).latestBlockHash addr f
        []) →
      FoldedInto E V (prev first).latestBlockHash (new (rest.getLastD first)).latestBlockHash addr f
        [] := by
    intro addr f hparts
    have hempty : (first :: rest).flatMap (fun _ => ([] : List Digest)) = [] := by simp
    exact hempty ▸ hchain addr f (fun _ => []) hparts
  exact
    { insertedGers := hchain _ _ _ fun s hs => (hfolded s hs).insertedGers
      removedGers := hnothing _ _ fun s hs => (hfolded s hs).removedGers
      claimed := hchain _ _ _ fun s hs => (hfolded s hs).claimed
      unset := hnothing _ _ fun s hs => (hfolded s hs).unset }

/-- **Runs of answers.**  Each answer of the run starts at the end block of the one before, the
clients of the two agree on that block, and the GER manager names one bridge at all end blocks: then
the answers are settled as one. -/
theorem run_settles (hprover : ∀ s ∈ first :: rest, HonestProver E H s.builder)
    (hE : ExecutorSound E V) (hrun : (first :: rest).IsChain Meets) {bridge : Address}
    (hbridge : ∀ s ∈ first :: rest, ∀ output, s.client.getL2OutputAtBlock s.stop = .ok output →
      V.bridgeAddress output.latestBlockHash L2_GER_ADDR = bridge) :
    RunSettled V bridge first rest := by
  have hroots := fun s (hs : s ∈ first :: rest) =>
    AggchainProofService.call_localExitRoots (hprover s hs) s.answered
  -- what each answer says by itself
  have hanswers := fun s (hs : s ∈ first :: rest) => (s.answerSettled (hprover s hs) hE).settled
  obtain ⟨output, _, config₀, _⟩ := hanswers first List.mem_cons_self
  have : Nonempty L2OutputAtBlock := ⟨output⟩
  have : Nonempty OpSuccinctConfig := ⟨config₀⟩
  have : Nonempty Address := ⟨bridge⟩
  choose! prev new config sequencer hprev hnew _ _ _ hsettled hvouched using hanswers
  choose! gers hperm hsorted hfolded _ using fun s hs => (hsettled s hs).events
  have hmem : rest.getLastD first ∈ first :: rest := List.getLastD_mem_cons
  have hfirst : first ∈ first :: rest := List.mem_cons_self
  have hbridge' : ∀ s ∈ first :: rest,
      V.bridgeAddress (new s).latestBlockHash L2_GER_ADDR = bridge :=
    fun s hs => hbridge s hs _ (hnew s hs)
  -- the answers that meet, with the values at the block
  have hmeet : (first :: rest).IsChain (fun s t => prev t = new s ∧
      t.response.publicValues.prevLocalExitRoot = s.response.publicValues.newLocalExitRoot) := by
    refine hrun.imp_of_mem_imp ?_
    intro s t hs ht hst
    exact ⟨hst.output _ _ (hnew s hs) (hprev t ht),
      hst.localExitRoot _ _ (hroots s hs).2 (hroots t ht).1⟩
  have hwhole : (runEvents gers (first :: rest)).Folded E V (prev first).latestBlockHash
      (new (rest.getLastD first)).latestBlockHash L2_GER_ADDR bridge := by
    refine folded_run (hmeet.imp fun _ _ hst => hst.1) ?_
    intro s hs
    rw [← hbridge' s hs]
    exact hfolded s hs
  refine ⟨(hroots first hfirst).1, hmeet.imp fun _ _ hst => hst.2, countP_inRange hrun, prev first,
    new (rest.getLastD first),
    fun s => s.request.inputs.transition H s.stop (prev s) (new s) (config s) (sequencer s), gers,
    ?_⟩
  exact
    { prevOutput := hprev first hfirst
      newOutput := hnew _ hmem
      vouched := hvouched
      preRoot := rfl
      transitions := hmeet.imp fun _ _ hst => congrArg L2OutputAtBlock.stateRoot hst.1
      postRoot := rfl
      newLocalExitRoot := by
        rw [← hbridge' _ hmem]
        exact (hsettled _ hmem).newLocalExitRoot
      inserted := fun s hs => ⟨hperm s hs, hsorted s hs⟩
      folded := hwhole
      agree := fun real hreal => hwhole.agree hreal }

end Settlement

end Run

/-! ## Two answers of the sample endpoints

Nothing happens in block `3`.  The hashes and the signature for it are real ones, too. -/

namespace Sample

def laterSignature : Bytes 65 := Bytes.ofNat 65
  0xbb50e2d89a4ed70663d080659fe0ad4b9bc3e06c17a227433966cb59ceee020d0b6b5cae17e9a27cfd2258e665c18991c3882f4563f85d812da53dafd2c5dc261b

def laterDigest : Digest := Bytes.ofNat 32 0xe6b38cd4f7f14991156b14481f840f28ad2fdd72df0de9ebf36c0c3332d91f7c
def laterSigned : Digest := Bytes.ofNat 32 0xe7bbbe71ebff8e8f2799a6c1cc52075414528deb57147bce43153f033261535c
def laterParams : Digest := Bytes.ofNat 32 0x325f3b7218ebe75e9310aec0da1eb669d5fcbad87ef4be0861f789880ed6730b

/-- The output at block `3`. -/
def laterOutput : L2OutputAtBlock where
  version := Bytes.ofNat 32 0
  stateRoot := Bytes.ofNat 32 0x53
  withdrawalStorageRoot := Bytes.ofNat 32 0x63
  latestBlockHash := Bytes.ofNat 32 3
  outputRoot := Bytes.ofNat 32 0x53

/-- The FEP inputs for block `3`. -/
def laterFep : FepInputs ⟨Digest, Bytes 65⟩ :=
  { fepInputs laterOutput.latestBlockHash (some laterSignature) with
    claimBlockNum := 3
    prevStateRoot := chainData.claimRootOutputAtBlock.stateRoot
    prevWithdrawalStorageRoot := chainData.claimRootOutputAtBlock.withdrawalStorageRoot
    prevBlockHash := chainData.claimRootOutputAtBlock.latestBlockHash
    newStateRoot := laterOutput.stateRoot
    newWithdrawalStorageRoot := laterOutput.withdrawalStorageRoot }

/-- The functions of `quietEnv`, on the data of block `3` too. -/
def runEnv : Env ⟨Digest, Bytes 65⟩ := Env.onChain
  { proofEnv with
    keccak256 := fun data =>
      if laterFep.encodedAggchainParams = some data then laterParams
      else if data = laterDigest.val ++ input.newLocalExitRoot.val ++ emptyHash.val then laterSigned
      else proofEnv.keccak256 data
    sha256 := fun data =>
      if data = laterFep.aggregationProofPublicValues.abiEncode then laterDigest else fepDigest
    recoverAddressFromPrehash := fun s h =>
      if s = laterSignature ∧ h = laterSigned then .ok trustedSequencer
      else proofEnv.recoverAddressFromPrehash s h } quietView

/-- A client that knows only the blocks `2` and `3`. -/
def laterClient : ContractsClient ⟨Digest, Bytes 65⟩ :=
  { builder.contractsClient with
    getL2LocalExitRoot := fun n =>
      if n = 2 ∨ n = 3 then .ok chainData.newLocalExitRoot
      else .error (.localExitRootError "unknown block")
    getL2OutputAtBlock := fun n =>
      if n = 2 then .ok chainData.claimRootOutputAtBlock
      else if n = 3 then .ok laterOutput
      else .error (.l2OutputAtBlockRetrievalError "unknown block")
    getPrevL2BlockSketch := fun _ => .ok chainData.newL2BlockSketch
    getNewL2BlockSketch := fun _ => .ok laterOutput.latestBlockHash }

/-- The endpoints with a client, and with a prover that proves whatever the guest accepts. -/
def runGrpc (client : ContractsClient ⟨Digest, Bytes 65⟩) : GrpcService ⟨Digest, Bytes 65⟩ hostExt where
  service :=
    { workingGrpc.service with
      aggchainProofBuilder :=
        { builder with
          contractsClient := client
          proverCall := fun stdin =>
            match stdin.witness.verifyAggchainInputs runEnv with
            | .ok pv => .ok ⟨.compressed (), valuesBytes pv⟩
            | .error _ => .error "the guest failed" } }
  bufferReady := .ok ()
  bufferWorker := .ok ()

/-- The request for the next block. -/
def nextMessage : GenerateAggchainProofRequest wire :=
  { message with lastProvenBlock := 2, requestedEndBlock := 3 }

theorem honestProver_runGrpc (client : ContractsClient ⟨Digest, Bytes 65⟩) :
    HonestProver runEnv readingHost (runGrpc client).service.aggchainProofBuilder := by
  intro stdin proof hproof
  simp only [runGrpc] at hproof
  split at hproof
  · rename_i pv hguest
    obtain rfl := Except.ok.inj hproof
    exact ⟨pv, valuesOf_valuesBytes pv, hguest⟩
  · cases hproof

theorem generate_runGrpc : ∃ response,
    ((runGrpc builder.contractsClient).generateAggchainProof runEnv readingHost message).result =
      .ok response ∧ response.endBlock = 2 := by
  refine exists_ok_of_map ?_
  decide +kernel

theorem generateOptimistic_runGrpc : ∃ response,
    ((runGrpc laterClient).generateOptimisticAggchainProof runEnv readingHost
      ⟨some nextMessage, some laterSignature.val⟩).result = .ok response := by
  obtain ⟨response, hok, -⟩ := exists_ok_of_map (x := ((runGrpc
    laterClient).generateOptimisticAggchainProof runEnv readingHost
    ⟨some nextMessage, some laterSignature.val⟩).result) (f := fun _ => 0) (n := 0) (by decide +kernel)
  exact ⟨response, hok⟩

/-- Both clients have the same values at block `2`. -/
theorem meets_sample {first second : Settlement runEnv readingHost wire}
    (hgrpc : first.grpc = runGrpc builder.contractsClient)
    (hgrpc' : second.grpc = runGrpc laterClient) (hstop : first.stop = 2)
    (hlast : second.last = 2) : first.Meets second := by
  have hclient : first.client = builder.contractsClient := by
    rw [Settlement.client, Settlement.builder, hgrpc]
    rfl
  have hclient' : second.client = laterClient := by
    rw [Settlement.client, Settlement.builder, hgrpc']
    rfl
  refine ⟨hlast.trans hstop.symm, ?_, ?_⟩
  · intro new prev hnew hprev
    rw [hclient, hstop] at hnew
    rw [hclient', hlast] at hprev
    exact (Except.ok.inj hprev).symm.trans (Except.ok.inj hnew)
  · intro new prev hnew hprev
    rw [hclient, hstop] at hnew
    rw [hclient', hlast] at hprev
    exact (Except.ok.inj hprev).symm.trans (Except.ok.inj hnew)

end Sample

open Sample

/-- Block `2` is settled with a proof and block `3`, by another client, with a signature. -/
theorem run_settles_sample : ∃ first second : Settlement runEnv readingHost wire,
    first.grpc = runGrpc builder.contractsClient ∧ second.grpc = runGrpc laterClient ∧
      first.last = 1 ∧ second.stop = 3 ∧
      Settlement.RunSettled quietView (Bytes.ofNat 20 0xb71d6e) first [second] := by
  obtain ⟨response, hok, hstop⟩ := generate_runGrpc
  obtain ⟨first, hgrpc, hinputs, -, hfirst, -⟩ := Settlement.exists_of_generate hok
  obtain ⟨response', hok'⟩ := generateOptimistic_runGrpc
  obtain ⟨second, hgrpc', -, hsecond, hlast, -⟩ := Settlement.exists_of_generateOptimistic hok'
  have hmeets := meets_sample hgrpc hgrpc' (hfirst.trans hstop) hsecond
  have hstart : proofInputs = first.request.inputs :=
    Except.ok.inj (tryInto_message.symm.trans hinputs)
  have hprover : ∀ s ∈ [first, second], HonestProver runEnv readingHost s.builder := by
    intro s hs
    rcases List.mem_pair.mp hs with rfl | rfl
    · rw [Settlement.builder, hgrpc]
      exact honestProver_runGrpc _
    · rw [Settlement.builder, hgrpc']
      exact honestProver_runGrpc _
  refine ⟨first, second, hgrpc, hgrpc',
    (congrArg AggchainProofInputs.lastProvenBlock hstart).symm, hlast, ?_⟩
  exact Settlement.run_settles hprover (executorSound_onChain _ quietView)
    (List.isChain_pair.mpr hmeets) fun _ _ _ _ => rfl

end Aggchain
