import HermezNode.Api.Status

namespace HermezNode

namespace Test

/-! The generators `GenBatches` and `GetNextToForgeNumAndBatch` of the DB/API tests. -/

/-- `common.Batch` as the generators build it, with the columns the modelled code reads:
`ForgeL1TxsNum` is `nil` on a batch that forges no L1 queue. -/
structure Batch where
  batchNum : Int
  ethBlockNum : Int
  slotNum : Int
  forgeL1TxsNum : Option Int
  deriving DecidableEq, Repr

/-- `GenBatches`: batch `i` (from `0`) has number `i + 1`, the block `blocks[i % len(blocks)]`
and slot `i`, and the even-indexed ones forge the L1 queue `i + 1`. -/
def genBatches (nBatches : Int) (blocks : List Block) : Except Failure (List Batch) :=
  (List.range nBatches.toNat).mapM fun (i : Nat) => do
    let j ← goMod i blocks.length
    let block ← index blocks j
    pure ⟨i + 1, block.num, i, if i % 2 = 0 then some (i + 1) else none⟩

/-- `GetNextToForgeNumAndBatch`: one past the number of the last batch, and one past the
`ForgeL1TxsNum` of the first batch from the end that has one. -/
def getNextToForgeNumAndBatch (batches : List Batch) : Except Failure (Int × Int) := do
  let last ← index batches (batches.length - 1 : Int)
  match batches.reverse.findSome? (·.forgeL1TxsNum) with
  | some toForgeL1TxsNum => pure (int64Add last.batchNum 1, int64Add toForgeL1TxsNum 1)
  | none => .error (.panic "toForgeL1TxsNum not found")

section Generators

variable {blocks : List Block} {nBatches : Int}

theorem genBatches_of_nonpos (h : nBatches ≤ 0) : genBatches nBatches blocks = .ok [] := by
  rw [genBatches, Int.toNat_eq_zero.mpr h]
  rfl

/-- With no block, the first batch's `i % len(blocks)` divides by zero. -/
theorem genBatches_nil (h : 0 < nBatches) :
    genBatches nBatches [] = .error (.panic "runtime error: integer divide by zero") := by
  obtain ⟨m, hm⟩ : ∃ m : Nat, nBatches.toNat = m + 1 := ⟨nBatches.toNat - 1, by omega⟩
  rw [genBatches, hm, List.range_succ_eq_map, List.mapM_cons]
  rfl

theorem genBatches_eq (nBatches : Int) (hblocks : 0 < blocks.length) :
    genBatches nBatches blocks = .ok ((List.range nBatches.toNat).map fun (i : Nat) =>
      ⟨i + 1, (blocks.get ⟨i % blocks.length, Nat.mod_lt _ hblocks⟩).num, i,
        if i % 2 = 0 then some (i + 1) else none⟩) :=
  mapM_eq_ok_of_forall fun i _ => by
    have hmod : goMod i blocks.length = .ok ((i % blocks.length : Nat) : Int) := by
      rw [goMod, if_neg (by omega), Int.tmod_eq_emod (by omega) (by omega)]
      rfl
    rw [hmod, ok_bind, index_ok (Nat.mod_lt _ hblocks)]
    rfl

/-- `batches[len(batches)-1]` of the batches built from indices `0 … m` is the one of index
`m`. -/
theorem index_map_range_last {α : Type} (f : Nat → α) (m : Nat) :
    index ((List.range (m + 1)).map f) (((List.range (m + 1)).map f).length - 1 : Int) =
      .ok (f m) := by
  rw [List.length_map, List.length_range, show ((m + 1 : Nat) : Int) - 1 = m by omega,
    index_ok (by simp)]
  simp

/-- Scanning the batches `GenBatches` numbers from the last one, the first that forges a queue
is the last even-indexed one. -/
theorem findSome?_forgeL1TxsNum (m : Nat) (g : Nat → Batch)
    (hg : ∀ i, (g i).forgeL1TxsNum = if i % 2 = 0 then some ((i : Int) + 1) else none) :
    ((List.range (m + 1)).map g).reverse.findSome? (·.forgeL1TxsNum) =
      some (2 * ((m : Int) / 2) + 1) := by
  rcases Nat.even_or_odd' m with ⟨k, rfl | rfl⟩
  · simp [List.range_succ, hg]
  · have hodd : (g (2 * k + 1)).forgeL1TxsNum = none := by simp [hg, Nat.add_mod]
    simp [List.range_succ, hodd, hg]
    omega

end Generators

/-- The batches `GenBatches` builds read back, through `GetNextToForgeNumAndBatch`, one past
their count as the next batch number, and one past the last even index plus one as the next L1
queue to forge; with no batch the read of the last one panics, and with batches but no block
`GenBatches` panics first. -/
theorem getNextToForgeNumAndBatch_genBatches (nBatches : Int) (blocks : List Block)
    (hn : nBatches < 2 ^ 63 - 1) :
    (genBatches nBatches blocks >>= getNextToForgeNumAndBatch) =
      if nBatches ≤ 0 then .error (.panic "runtime error: index out of range")
      else if blocks = [] then .error (.panic "runtime error: integer divide by zero")
      else .ok (nBatches + 1, 2 * ((nBatches - 1) / 2) + 2) := by
  split_ifs with hpos hblocks
  · rw [genBatches_of_nonpos hpos]
    rfl
  · subst hblocks
    rw [genBatches_nil (by omega)]
    rfl
  · obtain ⟨m, hm⟩ : ∃ m : Nat, nBatches.toNat = m + 1 := ⟨nBatches.toNat - 1, by omega⟩
    rw [genBatches_eq nBatches (List.length_pos.mpr hblocks), ok_bind, hm,
      getNextToForgeNumAndBatch, findSome?_forgeL1TxsNum m _ fun i => rfl, index_map_range_last,
      ok_bind]
    dsimp only
    rw [pure_eq_ok, int64Add_of_lt (by omega) (by omega),
      int64Add_of_lt (by omega) (by omega)]
    congr 2 <;> omega

theorem getNextToForgeNumAndBatch_genBatches_three :
    let blocks : List Block := [⟨1, 0, [], []⟩]
    (3 : Int) < 2 ^ 63 - 1 ∧
      (genBatches 3 blocks >>= getNextToForgeNumAndBatch) =
        if (3 : Int) ≤ 0 then .error (.panic "runtime error: index out of range")
        else if blocks = [] then .error (.panic "runtime error: integer divide by zero")
        else .ok (3 + 1, 2 * ((3 - 1) / 2) + 2) :=
  ⟨by norm_num, getNextToForgeNumAndBatch_genBatches 3 _ (by norm_num)⟩

end Test

end HermezNode
