import HermezNode.HistoryDB.Tables
import Mathlib.Data.Rat.Defs

namespace HermezNode

/-! The network metrics of the last 24 hours (`GetMetricsInternalAPI`, historydb.go); the
`float64` rates are exact rationals here, the batch counts wrap as `int64`. -/

/-- A `batch` row with the columns the metrics read. -/
structure MetricsBatch where
  batchNum : Nat
  ethBlockNum : Int
  totalFeesUSD : Option ℚ
  deriving DecidableEq, Repr

/-- A `tx` row with the columns the metrics read. -/
structure MetricsTx where
  batchNum : Option Nat
  ethBlockNum : Int
  isL1 : Bool
  userOrigin : Bool
  deriving DecidableEq, Repr

structure MetricsAPI where
  transactionsPerBatch : ℚ
  batchFrequency : ℚ
  transactionsPerSecond : ℚ
  totalAccounts : Nat
  totalBJJs : Nat
  avgTransactionFee : ℚ
  estimatedTimeToForgeL1 : ℚ
  deriving DecidableEq, Repr

/-- The `period` of `GetMetricsInternalAPI`; timestamps in Unix seconds. -/
structure MetricsPeriod where
  fromBatchNum : Nat
  fromTimestamp : Int
  toBatchNum : Nat
  toTimestamp : Int
  deriving DecidableEq, Repr

/-- `INTERVAL '24 HOURS'`, in seconds. -/
def metricsWindowSeconds : Int := 24 * 60 * 60

/-- `FROM batch INNER JOIN block ON batch.eth_block_num = block.eth_block_num WHERE
block.timestamp >= NOW() - INTERVAL '24 HOURS'`; block numbers are the table's key. -/
def metricsWindow (batches : List MetricsBatch) (blocks : List Block) (now : Int) :
    List (MetricsBatch × Block) :=
  (batches.filterMap fun b => (blocks.find? (·.num = b.ethBlockNum)).map (b, ·)).filter
    fun row => now - metricsWindowSeconds ≤ row.2.timestamp

/-- The first query: `COALESCE (MIN(batch.batch_num), 0)`, and the window's first and last
block timestamps, `NOW()` when it is empty. -/
def metricsPeriod (batches : List MetricsBatch) (blocks : List Block) (now : Int)
    (lastBatchNum : Nat) : MetricsPeriod :=
  let window := metricsWindow batches blocks now
  { fromBatchNum := ((window.map (·.1.batchNum)).min?).getD 0
    fromTimestamp := ((window.map (·.2.timestamp)).min?).getD now
    toBatchNum := lastBatchNum
    toTimestamp := ((window.map (·.2.timestamp)).max?).getD now }

/-- `batch_num between $1 AND $2`; a `NULL` batch number is never between. -/
def MetricsPeriod.contains (p : MetricsPeriod) (batchNum : Option Nat) : Bool :=
  batchNum.any fun n => p.fromBatchNum ≤ n && n ≤ p.toBatchNum

/-- The seconds between the forging of a user L1 transaction's block and of its batch's block,
for the transactions forged in the period (the last query's joins on keys). -/
def forgeDelays (p : MetricsPeriod) (batches : List MetricsBatch) (blocks : List Block)
    (txs : List MetricsTx) : List Int :=
  txs.filterMap fun tx =>
    if p.contains tx.batchNum && tx.isL1 && tx.userOrigin then do
      let added ← blocks.find? (·.num = tx.ethBlockNum)
      let batchNum ← tx.batchNum
      let forgedBatch ← batches.find? (·.batchNum = batchNum)
      let forged ← blocks.find? (·.num = forgedBatch.ethBlockNum)
      pure (forged.timestamp - added.timestamp)
    else none

/-- `GetMetricsInternalAPI(lastBatchNum)`, over the `batch`, `block` and `tx` tables, the `bjj`
column of the `account` table, and `NOW()`. -/
def getMetricsInternalAPI (batches : List MetricsBatch) (blocks : List Block)
    (txs : List MetricsTx) (accounts : List PublicKeyComp) (now : Int) (lastBatchNum : Nat) :
    MetricsAPI :=
  let p := metricsPeriod batches blocks now lastBatchNum
  let nTxs := (txs.filter (p.contains ·.batchNum)).length
  let seconds : ℚ := p.toTimestamp - p.fromTimestamp
  let seconds := if seconds = 0 then seconds + 1 else seconds
  let nBatches : Int := toInt64 (toInt64 ((p.toBatchNum : Int) - p.fromBatchNum) + 1)
  let nBatches := if nBatches = 0 then nBatches + 1 else nBatches
  let transactionsPerBatch : ℚ :=
    if toInt64 ((p.toBatchNum : Int) - p.fromBatchNum) > 0 then (nTxs : ℚ) / nBatches else 0
  let totalFee := ((batches.filter (p.contains <| some ·.batchNum)).filterMap
    (·.totalFeesUSD)).sum
  let nL2Txs := (txs.filter fun tx => p.contains tx.batchNum && !tx.isL1).length
  let delays := forgeDelays p batches blocks txs
  -- `COUNT(*) AS total_bjj, COUNT(DISTINCT(bjj)) AS total_idx`
  let totalBJJ := accounts.length
  let totalIdx := accounts.dedup.length
  { transactionsPerBatch
    batchFrequency := seconds / nBatches
    transactionsPerSecond := (nTxs : ℚ) / seconds
    totalAccounts := totalIdx
    totalBJJs := totalBJJ
    avgTransactionFee := if nL2Txs > 0 then totalFee / nL2Txs else 0
    estimatedTimeToForgeL1 :=
      if delays = [] then 0 else (delays.sum : ℚ) / delays.length }

section Metrics

variable (batches : List MetricsBatch) (blocks : List Block) (txs : List MetricsTx)
  (accounts : List PublicKeyComp) (now : Int) (lastBatchNum : Nat)

theorem metricsPeriod_of_window_eq_nil (h : metricsWindow batches blocks now = []) :
    metricsPeriod batches blocks now lastBatchNum = ⟨0, now, lastBatchNum, now⟩ := by
  simp [metricsPeriod, h]

/-- With no batch forged in the last 24 hours, the period is batches `0` to `lastBatchNum`
over one second: the transactions per second are all the transactions forged up to
`lastBatchNum`, and so are the transactions per batch, spread over `lastBatchNum + 1`
batches. -/
theorem getMetricsInternalAPI_of_window_eq_nil (h : metricsWindow batches blocks now = [])
    (hlast : lastBatchNum < 2 ^ 63 - 1) :
    let nTxs := (txs.filter fun tx => tx.batchNum.any (· ≤ lastBatchNum)).length
    let m := getMetricsInternalAPI batches blocks txs accounts now lastBatchNum
    m.transactionsPerSecond = nTxs ∧
      m.transactionsPerBatch = (if 0 < lastBatchNum then (nTxs : ℚ) / (lastBatchNum + 1) else 0) ∧
      m.batchFrequency = 1 / (lastBatchNum + 1) := by
  have hp := metricsPeriod_of_window_eq_nil batches blocks now lastBatchNum h
  have hdiff : toInt64 (lastBatchNum : Int) = lastBatchNum := toInt64_of_lt (by omega) (by omega)
  have hcount : toInt64 ((lastBatchNum : Int) + 1) = lastBatchNum + 1 :=
    toInt64_of_lt (by omega) (by omega)
  simp only [getMetricsInternalAPI, hp, MetricsPeriod.contains, Nat.zero_le, decide_True,
    Bool.true_and, sub_self, if_true, zero_add, div_one, Nat.cast_zero, sub_zero, hdiff, hcount]
  refine ⟨trivial, ?_, ?_⟩
  · by_cases hpos : 0 < lastBatchNum
    · have hne : (lastBatchNum : Int) + 1 ≠ 0 := by omega
      simp [hpos, hne]
    · simp [hpos]
  · have hne : (lastBatchNum : Int) + 1 ≠ 0 := by omega
    simp [hne]

end Metrics

end HermezNode
