import HermezNode.HistoryDB.Tables

/-! `Synchronizer.Sync` and `reorg` (synchronizer.go) as a machine that takes one statement
group per step; the stores are modelled from the spec (§4.C, §4.D). -/

namespace HermezNode

instance decEqExcept {ε α : Type} [DecidableEq ε] [DecidableEq α] : DecidableEq (Except ε α)
  | .ok a, .ok b =>
    if h : a = b then isTrue (congrArg _ h) else isFalse fun h' => h (Except.ok.inj h')
  | .error a, .error b =>
    if h : a = b then isTrue (congrArg _ h) else isFalse fun h' => h (Except.error.inj h')
  | .ok _, .error _ => isFalse fun h => Except.noConfusion h
  | .error _, .ok _ => isFalse fun h => Except.noConfusion h

/-! ## The stores -/

def errNoRows : Failure := .error "sql: no rows in result set"

/-- Modelled from the spec: an error of the database driver.  Go compares `sql.ErrNoRows` by
identity, so no driver error is ever taken for it. -/
def dbError (msg : String) : Failure := .error ("pq: " ++ msg)

theorem dbError_ne_errNoRows (msg : String) : dbError msg ≠ errNoRows := by
  intro h
  have h := congrArg (fun e => match e with | .error m => m.data.head? | .panic _ => none) h
  simp [dbError, errNoRows] at h

/-- A row of the `batch` table as the synchronizer's stores see it. -/
structure Batch where
  batchNum : Nat
  ethBlockNum : Int
  deriving DecidableEq, Repr

/-- Modelled from the spec: the `block` and `batch` tables of the history store, blocks in
insertion order. -/
structure HistoryDB where
  blocks : List Block
  batches : List Batch
  deriving DecidableEq, Repr

namespace HistoryDB

/-- Modelled from the spec: `GetLastBlock`, the block of highest number. -/
def getLastBlock (db : HistoryDB) : Except Failure Block :=
  match db.blocks.argmax Block.num with
  | some block => .ok block
  | none => .error errNoRows

/-- Modelled from the spec: `GetBlock(blockNum)`. -/
def getBlock (db : HistoryDB) (blockNum : Int) : Except Failure Block :=
  match db.blocks.find? (·.num = blockNum) with
  | some block => .ok block
  | none => .error errNoRows

/-- Modelled from the spec: `AddBlock`, an insert into a table keyed by `eth_block_num`. -/
def addBlock (db : HistoryDB) (block : Block) : Except Failure HistoryDB :=
  if db.blocks.any (·.num = block.num) then
    .error (dbError "duplicate key value violates unique constraint")
  else .ok { db with blocks := db.blocks ++ [block] }

/-- Modelled from the spec: `Reorg(fromBlockNum)` deletes every row above `fromBlockNum`,
cascading to the batches. -/
def reorg (db : HistoryDB) (fromBlockNum : Int) : HistoryDB :=
  ⟨db.blocks.filter (·.num ≤ fromBlockNum), db.batches.filter (·.ethBlockNum ≤ fromBlockNum)⟩

/-- The history's last batch number, `0` (the empty state) when it holds no batch. -/
def lastBatchNum (db : HistoryDB) : Nat :=
  (db.batches.map Batch.batchNum).foldr max 0

/-- Modelled from the spec: `GetLastBatchNum`, which fails with `sql.ErrNoRows` on an empty
table. -/
def getLastBatchNum (db : HistoryDB) : Except Failure Nat :=
  if db.batches = [] then .error errNoRows else .ok db.lastBatchNum

theorem getBlock_eq_ok {db : HistoryDB} {n : Int} {b : Block} (h : db.getBlock n = .ok b) :
    b ∈ db.blocks ∧ b.num = n := by
  unfold getBlock at h
  split at h <;> cases h
  rename_i hfind
  exact ⟨List.mem_of_find?_eq_some hfind, by simpa using List.find?_some hfind⟩

theorem getLastBlock_eq_ok {db : HistoryDB} {b : Block} (h : db.getLastBlock = .ok b) :
    b ∈ db.blocks ∧ ∀ a ∈ db.blocks, a.num ≤ b.num := by
  unfold getLastBlock at h
  split at h <;> cases h
  rename_i hmax
  exact ⟨List.argmax_mem hmax, fun _ ha => List.le_of_mem_argmax ha hmax⟩

theorem getLastBlock_eq_errNoRows {db : HistoryDB} (h : db.getLastBlock = .error errNoRows) :
    db.blocks = [] := by
  unfold getLastBlock at h
  split at h <;> simp_all

theorem le_lastBatchNum {db : HistoryDB} {b : Batch} (hb : b ∈ db.batches) :
    b.batchNum ≤ db.lastBatchNum := by
  obtain ⟨_, batches⟩ := db
  simp only [lastBatchNum]
  induction batches with
  | nil => cases hb
  | cons a batches ih =>
    rcases List.mem_cons.mp hb with rfl | hb
    · exact le_max_left _ _
    · exact le_max_of_le_right (ih hb)

theorem lastBatchNum_le {db : HistoryDB} {m : Nat} (h : ∀ b ∈ db.batches, b.batchNum ≤ m) :
    db.lastBatchNum ≤ m := by
  obtain ⟨_, batches⟩ := db
  simp only [lastBatchNum]
  induction batches with
  | nil => exact Nat.zero_le _
  | cons a batches ih =>
    simp only [List.mem_cons, forall_eq_or_imp] at h
    exact max_le h.1 (ih h.2)

theorem lastBatchNum_reorg_le (db : HistoryDB) (n : Int) :
    (db.reorg n).lastBatchNum ≤ db.lastBatchNum :=
  lastBatchNum_le fun _ hb => le_lastBatchNum (List.mem_of_mem_filter hb)

theorem getLastBatchNum_eq_ok {db : HistoryDB} {n : Nat} (h : db.getLastBatchNum = .ok n) :
    n = db.lastBatchNum := by
  unfold getLastBatchNum at h
  split at h <;> cases h
  rfl

theorem getLastBatchNum_eq_error {db : HistoryDB} {e : Failure} (h : db.getLastBatchNum = .error e) :
    e = errNoRows ∧ db.lastBatchNum = 0 := by
  unfold getLastBatchNum at h
  split at h <;> cases h
  simp [lastBatchNum, *]

theorem addBlock_eq_ok {db db' : HistoryDB} {block : Block} (h : db.addBlock block = .ok db') :
    (∀ b ∈ db.blocks, b.num ≠ block.num) ∧ db' = { db with blocks := db.blocks ++ [block] } := by
  unfold addBlock at h
  split at h <;> cases h
  rename_i hany
  simpa using hany

end HistoryDB

/-- Modelled from the spec: the state DB, of which the synchronizer only moves the batch its
current root belongs to. -/
structure StateDB where
  currentBatch : Nat
  deriving DecidableEq, Repr

/-- Modelled from the spec: `Reset(batchNum)` restores the current root to `CheckpointN`. -/
def StateDB.reset (_ : StateDB) (batchNum : Nat) : StateDB := ⟨batchNum⟩

/-! ## The machine -/

def blocksToSync : Int := 20

def errNotAbleToSync : Failure := .error "it has not been possible to synchronize any block"

/-- What the world answers to one step: the Ethereum client's reply to the block the step asks
for and to `EthCurrentBlock`, and whether the step's store operation fails. -/
structure Input where
  ethBlock : Except Failure Block
  ethCurrentBlock : Except Failure Int
  dbFailure : Option String

/-- The step's store operation, failing with the driver's error when the world says so. -/
def Input.store {α : Type} (i : Input) (op : Except Failure α) : Except Failure α :=
  match i.dbFailure with
  | some msg => .error (dbError msg)
  | none => op

@[simp] theorem Input.store_eq_ok {α : Type} {i : Input} {op : Except Failure α} {a : α} :
    i.store op = .ok a ↔ i.dbFailure = none ∧ op = .ok a := by
  unfold Input.store
  split <;> simp_all

theorem Input.store_eq_error {α : Type} {i : Input} {op : Except Failure α} {e : Failure}
    (h : i.store op = .error e) : (∃ msg, i.dbFailure = some msg ∧ e = dbError msg) ∨ op = .error e := by
  unfold Input.store at h
  split at h
  · exact .inl ⟨_, ‹_›, (Except.error.inj h).symm⟩
  · exact .inr h

theorem Input.store_eq_errNoRows {α : Type} {i : Input} {op : Except Failure α}
    (h : i.store op = .error errNoRows) : i.dbFailure = none ∧ op = .error errNoRows := by
  unfold Input.store at h
  split at h
  · exact absurd (Except.error.inj h) (dbError_ne_errNoRows _)
  · exact ⟨‹_›, h⟩

/-- Where a call of `Sync` stands: the next statement group and the locals it reads.
`returned err` is the call's result, `nil` being `none`. -/
inductive Pc where
  | latestBlock -- EthBlockByNumber(0)
  | firstSavedBlock (latestBlock : Block) -- EthBlockByNumber(latest - 20)
  | lastSavedBlock -- GetLastBlock and the full-sync test
  | checkLastSavedBlock (lastSavedBlock : Block) -- EthBlockByNumber(lastSavedBlock), hash test
  | reorgFetch (uncleBlock : Block) (blockNum : Int) -- reorg: EthBlockByNumber(blockNum)
  | reorgGetBlock (uncleBlock : Block) (blockNum : Int) (ethBlock : Block) -- reorg: GetBlock
  | reorgTruncate (uncleBlock block : Block) -- reorg: historyDB.Reorg
  | reorgLastBatchNum -- reorg: GetLastBatchNum
  | reorgReset (batchNum : Nat) -- reorg: stateDB.Reset(batchNum)
  | afterReorg -- GetLastBlock after a reorg
  | currentBlock (lastSavedBlock : Block) -- EthCurrentBlock
  | forwardFetch (lastSavedBlock : Block) (latestBlockNum : Int) -- EthBlockByNumber, rollupSync
  | addBlock (ethBlock : Block) (latestBlockNum : Int) -- AddBlock(ethBlock)
  | refreshLastSavedBlock (latestBlockNum : Int) -- GetLastBlock in the loop
  | returned (err : Option Failure)
  deriving DecidableEq, Repr

/-- `Synchronizer`: its stores, the `firstSavedBlock` pointer and where the running call
stands. -/
structure Synchronizer where
  historyDB : HistoryDB
  stateDB : StateDB
  firstSavedBlock : Option Block
  pc : Pc
  deriving DecidableEq, Repr

namespace Synchronizer

/-- The test of `reorg`'s loop, `!found && blockNum > s.firstSavedBlock.EthBlockNum`, taken
while `found` is false; when it fails, `reorg` returns `ErrNotAbleToSync`. -/
def reorgLoop (firstSavedBlock : Option Block) (uncleBlock : Block) (blockNum : Int) : Pc :=
  match firstSavedBlock with
  | some first =>
    if first.num < blockNum then .reorgFetch uncleBlock blockNum
    else .returned (some errNotAbleToSync)
  | none => .returned (some nilPointerDereference)

/-- The test of `Sync`'s loop, `lastSavedBlock.EthBlockNum < latestBlockNum`. -/
def forwardLoop (lastSavedBlock : Block) (latestBlockNum : Int) : Pc :=
  if lastSavedBlock.num < latestBlockNum then .forwardFetch lastSavedBlock latestBlockNum
  else .returned none

/-- `lastSavedBlock = s.firstSavedBlock`, the start of a full sync. -/
def fullSync (firstSavedBlock : Option Block) : Pc :=
  match firstSavedBlock with
  | some first => .currentBlock first
  | none => .returned (some nilPointerDereference)

/-- `rollupSync`, not implemented yet: it returns nil. -/
def rollupSync (_ : Block) (_ : Int) : Except Failure Unit := pure ()

/-- `auctionSync`, not implemented yet: it returns nil. -/
def auctionSync : Except Failure Unit := pure ()

/-- One statement group of `Sync` or `reorg`, answered by the world's input `i`. -/
def step (s : Synchronizer) (i : Input) : Synchronizer :=
  match s.pc with
  | .latestBlock =>
    match i.ethBlock with
    | .ok latestBlock => { s with pc := .firstSavedBlock latestBlock }
    | .error e => { s with pc := .returned (some e) }
  | .firstSavedBlock _ =>
    match i.ethBlock with
    | .ok block => { s with firstSavedBlock := some block, pc := .lastSavedBlock }
    | .error e => { s with firstSavedBlock := none, pc := .returned (some e) }
  | .lastSavedBlock =>
    match i.store s.historyDB.getLastBlock with
    | .ok lastSavedBlock =>
      if lastSavedBlock.num = 0 then { s with pc := fullSync s.firstSavedBlock }
      else { s with pc := .checkLastSavedBlock lastSavedBlock }
    | .error e =>
      if e = errNoRows then { s with pc := fullSync s.firstSavedBlock }
      else { s with pc := .returned (some e) }
  | .checkLastSavedBlock lastSavedBlock =>
    match i.ethBlock with
    | .ok ethBlock =>
      if ethBlock.hash ≠ lastSavedBlock.hash then
        { s with pc := reorgLoop s.firstSavedBlock lastSavedBlock lastSavedBlock.num }
      else { s with pc := .currentBlock lastSavedBlock }
    | .error e => { s with pc := .returned (some e) }
  | .reorgFetch uncleBlock blockNum =>
    match i.ethBlock with
    | .ok ethBlock => { s with pc := .reorgGetBlock uncleBlock blockNum ethBlock }
    | .error e => { s with pc := .returned (some e) }
  | .reorgGetBlock uncleBlock blockNum ethBlock =>
    match i.store (s.historyDB.getBlock blockNum) with
    | .ok block =>
      if block.hash = ethBlock.hash then { s with pc := .reorgTruncate uncleBlock block }
      else { s with pc := reorgLoop s.firstSavedBlock uncleBlock (blockNum - 1) }
    | .error e => { s with pc := .returned (some e) }
  | .reorgTruncate _ block =>
    match i.store (.ok ()) with
    | .ok () => { s with historyDB := s.historyDB.reorg block.num, pc := .reorgLastBatchNum }
    | .error e => { s with pc := .returned (some e) }
  | .reorgLastBatchNum =>
    -- with `sql.ErrNoRows` the batch number read is `0`, and the reset is skipped
    match i.store s.historyDB.getLastBatchNum with
    | .ok batchNum =>
      if batchNum ≠ 0 then { s with pc := .reorgReset batchNum }
      else { s with pc := .afterReorg }
    | .error e =>
      if e = errNoRows then { s with pc := .afterReorg }
      else { s with pc := .returned (some e) }
  | .reorgReset batchNum =>
    match i.store (.ok ()) with
    | .ok () => { s with stateDB := s.stateDB.reset batchNum, pc := .afterReorg }
    | .error e => { s with pc := .returned (some e) }
  | .afterReorg =>
    match i.store s.historyDB.getLastBlock with
    | .ok lastSavedBlock => { s with pc := .currentBlock lastSavedBlock }
    | .error e => { s with pc := .returned (some e) }
  | .currentBlock lastSavedBlock =>
    match i.ethCurrentBlock with
    | .ok latestBlockNum => { s with pc := forwardLoop lastSavedBlock latestBlockNum }
    | .error e => { s with pc := .returned (some e) }
  | .forwardFetch _ latestBlockNum =>
    match i.ethBlock with
    | .ok ethBlock =>
      match rollupSync ethBlock 0 *> auctionSync with
      | .ok () => { s with pc := .addBlock ethBlock latestBlockNum }
      | .error e => { s with pc := .returned (some e) }
    | .error e => { s with pc := .returned (some e) }
  | .addBlock ethBlock latestBlockNum =>
    match i.store (s.historyDB.addBlock ethBlock) with
    | .ok historyDB =>
      { s with historyDB := historyDB, pc := .refreshLastSavedBlock latestBlockNum }
    | .error e => { s with pc := .returned (some e) }
  | .refreshLastSavedBlock latestBlockNum =>
    match i.store s.historyDB.getLastBlock with
    | .ok lastSavedBlock => { s with pc := forwardLoop lastSavedBlock latestBlockNum }
    | .error e => { s with pc := .returned (some e) }
  | .returned _ => s

/-- The state after the steps answered by `inputs`. -/
def run (s : Synchronizer) (inputs : List Input) : Synchronizer :=
  inputs.foldl step s

/-- A call of `Sync`, answered by `inputs`; it has returned once its `pc` is `returned`. -/
def sync (s : Synchronizer) (inputs : List Input) : Synchronizer :=
  run { s with pc := .latestBlock } inputs

@[simp] theorem run_nil (s : Synchronizer) : run s [] = s := rfl

@[simp] theorem run_cons (s : Synchronizer) (i : Input) (inputs : List Input) :
    run s (i :: inputs) = run (step s i) inputs := rfl

/-- The height the step asks the Ethereum client for, if it asks for one. -/
def requestedBlockNum : Pc → Option Int
  | .latestBlock => some 0
  | .firstSavedBlock latestBlock => some (latestBlock.num - blocksToSync)
  | .checkLastSavedBlock lastSavedBlock => some lastSavedBlock.num
  | .reorgFetch _ blockNum => some blockNum
  | .forwardFetch lastSavedBlock _ => some (lastSavedBlock.num + 1)
  | _ => none

/-- A run whose every step is answered as `World` allows. -/
def RunIn (World : Synchronizer → Input → Prop) : Synchronizer → List Input → Prop
  | _, [] => True
  | s, i :: inputs => World s i ∧ RunIn World (step s i) inputs

instance decRunIn (World : Synchronizer → Input → Prop) [∀ s i, Decidable (World s i)] :
    ∀ s inputs, Decidable (RunIn World s inputs)
  | _, [] => isTrue trivial
  | s, i :: inputs =>
    haveI := decRunIn World (step s i) inputs
    inferInstanceAs (Decidable (World s i ∧ RunIn World (step s i) inputs))

/-- An invariant of every step the world allows holds along every run it allows. -/
theorem RunIn.invariant {World : Synchronizer → Input → Prop} (P : Synchronizer → Prop)
    (hstep : ∀ s i, P s → World s i → P (step s i)) :
    ∀ {s inputs}, P s → RunIn World s inputs → P (run s inputs) := by
  intro s inputs
  induction inputs generalizing s with
  | nil => exact fun hs _ => hs
  | cons i inputs ih => exact fun hs ⟨hi, hrun⟩ => ih (hstep s i hs hi) hrun

theorem RunIn.mono {World World' : Synchronizer → Input → Prop}
    (h : ∀ s i, World s i → World' s i) : ∀ {s inputs}, RunIn World s inputs → RunIn World' s inputs
  | _, [], _ => trivial
  | _, _ :: _, ⟨hi, hrun⟩ => ⟨h _ _ hi, RunIn.mono h hrun⟩

/-! ## What a step can do -/

/-- The transitions of `step`, one per way a statement group goes on.  A return, successful or
not, keeps both stores (`ret`); the failed read of `firstSavedBlock` also clears it. -/
inductive Moves (i : Input) (s : Synchronizer) : Synchronizer → Prop
  | ret (first : Option Block) (err : Option Failure) :
      Moves i s { s with firstSavedBlock := first, pc := .returned err }
  | latestBlock {b : Block} : s.pc = .latestBlock → i.ethBlock = .ok b →
      Moves i s { s with pc := .firstSavedBlock b }
  | firstSavedBlock {latest b : Block} : s.pc = .firstSavedBlock latest → i.ethBlock = .ok b →
      Moves i s { s with firstSavedBlock := some b, pc := .lastSavedBlock }
  | fullSync {first : Block} : s.pc = .lastSavedBlock → s.firstSavedBlock = some first →
      i.dbFailure = none →
      (s.historyDB.getLastBlock = .error errNoRows ∨
        ∃ b, s.historyDB.getLastBlock = .ok b ∧ b.num = 0) →
      Moves i s { s with pc := .currentBlock first }
  | lastSavedBlock {b : Block} : s.pc = .lastSavedBlock → i.dbFailure = none →
      s.historyDB.getLastBlock = .ok b → b.num ≠ 0 →
      Moves i s { s with pc := .checkLastSavedBlock b }
  | hashMatch {last eb : Block} : s.pc = .checkLastSavedBlock last → i.ethBlock = .ok eb →
      eb.hash = last.hash → Moves i s { s with pc := .currentBlock last }
  | reorgStart {last eb first : Block} : s.pc = .checkLastSavedBlock last →
      i.ethBlock = .ok eb → eb.hash ≠ last.hash → s.firstSavedBlock = some first →
      first.num < last.num → Moves i s { s with pc := .reorgFetch last last.num }
  | reorgFetch {u eb : Block} {n : Int} : s.pc = .reorgFetch u n → i.ethBlock = .ok eb →
      Moves i s { s with pc := .reorgGetBlock u n eb }
  | reorgMismatch {u eb b first : Block} {n : Int} : s.pc = .reorgGetBlock u n eb →
      i.dbFailure = none → s.historyDB.getBlock n = .ok b → b.hash ≠ eb.hash →
      s.firstSavedBlock = some first → first.num < n - 1 →
      Moves i s { s with pc := .reorgFetch u (n - 1) }
  | reorgFound {u eb b : Block} {n : Int} : s.pc = .reorgGetBlock u n eb →
      i.dbFailure = none → s.historyDB.getBlock n = .ok b → b.hash = eb.hash →
      Moves i s { s with pc := .reorgTruncate u b }
  | truncate {u b : Block} : s.pc = .reorgTruncate u b → i.dbFailure = none →
      Moves i s { s with historyDB := s.historyDB.reorg b.num, pc := .reorgLastBatchNum }
  | lastBatchNum {n : Nat} : s.pc = .reorgLastBatchNum → i.dbFailure = none →
      s.historyDB.getLastBatchNum = .ok n → n ≠ 0 → Moves i s { s with pc := .reorgReset n }
  | noBatch : s.pc = .reorgLastBatchNum → i.dbFailure = none →
      (s.historyDB.getLastBatchNum = .error errNoRows ∨ s.historyDB.getLastBatchNum = .ok 0) →
      Moves i s { s with pc := .afterReorg }
  | reset {n : Nat} : s.pc = .reorgReset n → i.dbFailure = none →
      Moves i s { s with stateDB := s.stateDB.reset n, pc := .afterReorg }
  | afterReorg {b : Block} : s.pc = .afterReorg → i.dbFailure = none →
      s.historyDB.getLastBlock = .ok b → Moves i s { s with pc := .currentBlock b }
  | forwardStart {last : Block} {latest : Int} : s.pc = .currentBlock last →
      i.ethCurrentBlock = .ok latest → last.num < latest →
      Moves i s { s with pc := .forwardFetch last latest }
  | forwardFetch {last eb : Block} {latest : Int} : s.pc = .forwardFetch last latest →
      i.ethBlock = .ok eb → Moves i s { s with pc := .addBlock eb latest }
  | addBlock {eb : Block} {latest : Int} : s.pc = .addBlock eb latest → i.dbFailure = none →
      (∀ b ∈ s.historyDB.blocks, b.num ≠ eb.num) →
      Moves i s { s with
        historyDB := { s.historyDB with blocks := s.historyDB.blocks ++ [eb] }
        pc := .refreshLastSavedBlock latest }
  | forwardNext {last : Block} {latest : Int} : s.pc = .refreshLastSavedBlock latest →
      i.dbFailure = none → s.historyDB.getLastBlock = .ok last → last.num < latest →
      Moves i s { s with pc := .forwardFetch last latest }

theorem Moves.goto {i : Input} {s : Synchronizer} {err : Option Failure} :
    Moves i s { s with pc := .returned err } :=
  .ret s.firstSavedBlock err

theorem moves_reorgLoop {i : Input} {s : Synchronizer} {u : Block} {n : Int}
    (h : ∀ first, s.firstSavedBlock = some first → first.num < n →
      Moves i s { s with pc := .reorgFetch u n }) :
    Moves i s { s with pc := reorgLoop s.firstSavedBlock u n } := by
  unfold reorgLoop
  split
  · split
    · exact h _ ‹_› ‹_›
    · exact .goto
  · exact .goto

theorem moves_forwardLoop {i : Input} {s : Synchronizer} {last : Block} {latest : Int}
    (h : last.num < latest → Moves i s { s with pc := .forwardFetch last latest }) :
    Moves i s { s with pc := forwardLoop last latest } := by
  unfold forwardLoop
  split
  · exact h ‹_›
  · exact .goto

theorem moves_fullSync {i : Input} {s : Synchronizer}
    (h : ∀ first, s.firstSavedBlock = some first → Moves i s { s with pc := .currentBlock first }) :
    Moves i s { s with pc := fullSync s.firstSavedBlock } := by
  unfold fullSync
  split
  · exact h _ ‹_›
  · exact .goto

/-- Every step is one of the transitions of `Moves`. -/
theorem step_moves (s : Synchronizer) (i : Input) : Moves i s (step s i) := by
  unfold step
  split <;> rename_i hpc
  · split
    · exact .latestBlock hpc ‹_›
    · exact .goto
  · split
    · exact .firstSavedBlock hpc ‹_›
    · exact .ret _ _
  · split <;> rename_i hget
    · obtain ⟨hfail, hget⟩ := Input.store_eq_ok.mp hget
      split
      · exact moves_fullSync fun _ hfirst => .fullSync hpc hfirst hfail (.inr ⟨_, hget, ‹_›⟩)
      · exact .lastSavedBlock hpc hfail hget ‹_›
    · split
      · subst_vars
        obtain ⟨hfail, hget⟩ := Input.store_eq_errNoRows hget
        exact moves_fullSync fun _ hfirst => .fullSync hpc hfirst hfail (.inl hget)
      · exact .goto
  · split
    · split
      · exact moves_reorgLoop fun _ hfirst hlt => .reorgStart hpc ‹_› ‹_› hfirst hlt
      · exact .hashMatch hpc ‹_› (not_not.mp ‹_›)
    · exact .goto
  · split
    · exact .reorgFetch hpc ‹_›
    · exact .goto
  · split <;> rename_i hget
    · obtain ⟨hfail, hget⟩ := Input.store_eq_ok.mp hget
      split
      · exact .reorgFound hpc hfail hget ‹_›
      · exact moves_reorgLoop fun _ hfirst hlt => .reorgMismatch hpc hfail hget ‹_› hfirst hlt
    · exact .goto
  · split <;> rename_i hfail
    · exact .truncate hpc (Input.store_eq_ok.mp hfail).1
    · exact .goto
  · split <;> rename_i hget
    · obtain ⟨hfail, hget⟩ := Input.store_eq_ok.mp hget
      split
      · exact .lastBatchNum hpc hfail hget ‹_›
      · exact .noBatch hpc hfail (.inr (by simpa [not_not.mp ‹_›] using hget))
    · split
      · subst_vars
        obtain ⟨hfail, hget⟩ := Input.store_eq_errNoRows hget
        exact .noBatch hpc hfail (.inl hget)
      · exact .goto
  · split <;> rename_i hfail
    · exact .reset hpc (Input.store_eq_ok.mp hfail).1
    · exact .goto
  · split <;> rename_i hget
    · obtain ⟨hfail, hget⟩ := Input.store_eq_ok.mp hget
      exact .afterReorg hpc hfail hget
    · exact .goto
  · split
    · exact moves_forwardLoop (.forwardStart hpc ‹_›)
    · exact .goto
  · split
    · split
      · exact .forwardFetch hpc ‹_›
      · exact .goto
    · exact .goto
  · split <;> rename_i hadd
    · obtain ⟨hfail, hadd⟩ := Input.store_eq_ok.mp hadd
      obtain ⟨hfresh, rfl⟩ := HistoryDB.addBlock_eq_ok hadd
      exact .addBlock hpc hfail hfresh
    · exact .goto
  · split <;> rename_i hget
    · obtain ⟨hfail, hget⟩ := Input.store_eq_ok.mp hget
      exact moves_forwardLoop (.forwardNext hpc hfail hget)
    · exact .goto
  · obtain ⟨historyDB, stateDB, first, pc⟩ := s
    subst hpc
    exact .ret first _

/-! ## `Status` -/

/-- `Status`, as `Synchronizer.Status` fills it; it never sets the forger addresses. -/
structure Status where
  currentBlock : Int
  currentBatch : Nat
  synchronized : Bool
  deriving DecidableEq, Repr

/-- A write through a `*Status`, which panics on a nil pointer. -/
def setStatus (status : Option Status) (f : Status → Status) : Except Failure (Option Status) :=
  match status with
  | some st => .ok (some (f st))
  | none => .error nilPointerDereference

/-- `Synchronizer.Status`, its two store reads answered by `i` and `i'`.  It declares
`var status *Status` and writes through it without allocating one. -/
def status (s : Synchronizer) (i i' : Input) : Except Failure (Option Status) := do
  let status : Option Status := none
  let lastSavedBlock ← i.store s.historyDB.getLastBlock
  let status ← setStatus status fun st => { st with currentBlock := lastSavedBlock.num }
  let lastSavedBatch ← match i'.store s.historyDB.getLastBatchNum with
    | .ok batchNum => pure batchNum
    | .error e => if e = errNoRows then pure 0 else throw e
  let status ← setStatus status fun st => { st with currentBatch := lastSavedBatch }
  let latestBlockNum ← i'.ethCurrentBlock
  setStatus status fun st => { st with synchronized := st.currentBlock = latestBlockNum }

/-- `Status` never reports a status: it returns `GetLastBlock`'s error, or panics on the nil
`status` as soon as that read succeeds. -/
theorem status_eq_error (s : Synchronizer) (i i' : Input) :
    s.status i i' = .error (match i.store s.historyDB.getLastBlock with
      | .ok _ => nilPointerDereference
      | .error e => e) := by
  unfold status
  cases i.store s.historyDB.getLastBlock <;> rfl

end Synchronizer

end HermezNode
