import HermezNode.Api.Forgers

namespace HermezNode

/-! The status the API serves: `UpdateNetworkInfo`, `GetNextForgers` and `SetAuctionVariables`
(package api, in the file of the pool-transaction tests). -/

/-- `GetBatchAPI`: the row of `batch_num = $1`, or `sql.ErrNoRows`. -/
def getBatchAPI (batches : List BatchAPI) (batchNum : Nat) : Except Failure BatchAPI :=
  match batches.find? (·.batchNum == batchNum) with
  | some batch => .ok batch
  | none => .error (.error "sql: no rows in result set")

structure Network where
  lastBlock : Int
  lastBatch : BatchAPI
  currentSlot : Int
  nextForgers : List NextForgerAPI
  deriving DecidableEq, Repr

/-- `Status`, with the parts the modelled updates write: `Network`, and of `Auction` the
`ClosedAuctionSlots` that `UpdateNetworkInfo` reads. -/
structure Status where
  network : Network
  closedAuctionSlots : UInt16
  deriving DecidableEq, Repr

/-- The zero `Status` the API starts from. -/
def Status.zero : Status := ⟨⟨0, ⟨0, 0, 0, 0⟩, 0, []⟩, 0⟩

/-- What an update reads: the history tables of `a.h` at the time of the call, and
`a.cg.AuctionConstants`. -/
structure APIBackend where
  bids : List Bid
  coordinators : List Coordinator
  batches : List BatchAPI
  auctionConsts : AuctionConstants
  deriving DecidableEq, Repr

namespace Status

def setAuctionVariables (status : Status) (closedAuctionSlots : UInt16) : Status :=
  { status with closedAuctionSlots }

/-- `UpdateNetworkInfo`, its slot loop run for at most `fuel` iterations: the status after the
call, whether it failed or not, and its error; `none` when the loop is still running. -/
def updateNetworkInfo (db : APIBackend) (fails : ReadFailures) (status : Status)
    (lastBlock : Block) (lastBatchNum : Nat) (currentSlot : Int) (fuel : Nat) :
    Option (Status × Except Failure Unit) :=
  let status := { status with network.lastBlock := lastBlock.num }
  match ReadFailures.read fails.getBatch (getBatchAPI db.batches lastBatchNum) with
  | .error err => some (status, .error err)
  | .ok lastBatch =>
    let status := { status with network.lastBatch := lastBatch, network.currentSlot := currentSlot }
    let lastClosedSlot := int64Add currentSlot status.closedAuctionSlots.toNat
    (apiGetNextForgers db.bids db.coordinators db.auctionConsts lastBlock fails currentSlot
        lastClosedSlot fuel).map fun
      | .error err => (status, .error err)
      | .ok nextForgers => ({ status with network.nextForgers := nextForgers }, .ok ())

/-- One update of the status, with the tables and the failing reads of its time; the current
slot is an `int64`. -/
inductive Call where
  | setAuctionVariables (closedAuctionSlots : UInt16)
  | updateNetworkInfo (db : APIBackend) (fails : ReadFailures) (lastBlock : Block)
      (lastBatchNum : Nat) (currentSlot : Int) (hslot : -2 ^ 63 ≤ currentSlot ∧ currentSlot < 2 ^ 63)

/-- The status after a call, an error being returned to the caller and the status kept. -/
def call (fuel : Nat) (status : Status) : Call → Option Status
  | .setAuctionVariables closedAuctionSlots => some (status.setAuctionVariables closedAuctionSlots)
  | .updateNetworkInfo db fails lastBlock lastBatchNum currentSlot _ =>
    (status.updateNetworkInfo db fails lastBlock lastBatchNum currentSlot fuel).map Prod.fst

/-- The status after the calls, in order. -/
def run (fuel : Nat) (status : Status) (calls : List Call) : Option Status :=
  calls.foldlM (call fuel) status

/-- The reads of `GetNextForgers` do not fail in the call. -/
def Call.NextForgersReadsSucceed : Call → Prop
  | .setAuctionVariables _ => True
  | .updateNetworkInfo _ fails _ _ _ _ =>
    fails.getBestBids = none ∧ ∀ i, fails.getCoordinator i = none

/-- The forgers served are the schedule of consecutive slots, with the periods of one set of
auction constants and one last block. -/
def ForgersWindow (status : Status) : Prop :=
  ∃ auctionConsts lastBlock first last, status.network.nextForgers.map (·.period) =
    (slotRange first last).map (slotPeriod auctionConsts lastBlock)

/-- The forgers served are those of the consecutive slots from `CurrentSlot` on. -/
def ForgersFromCurrentSlot (status : Status) : Prop :=
  ∃ lastClosedSlot, status.network.nextForgers.map (·.period.slotNum) =
    slotRange status.network.currentSlot lastClosedSlot

end Status

section NextForgers

variable {bids : List Bid} {coordinators : List Coordinator} {auctionConsts : AuctionConstants}
  {lastBlock : Block} {fails : ReadFailures} {currentSlot lastClosedSlot : Int} {fuel : Nat}

theorem mem_bestBidRows_of_mem_getBestBidsAPI {minSlotNum maxSlotNum : Int}
    {bidderAddr : Option EthAddr} {limit : Option Nat} {order : String} {x : BidAPI}
    (h : x ∈ (getBestBidsAPI bids coordinators minSlotNum maxSlotNum bidderAddr limit order).1) :
    x ∈ bestBidRows bids coordinators minSlotNum maxSlotNum bidderAddr := by
  have hfst : ∀ (items : List BidAPI) (n : UInt64),
      (if items.length = 0 then (items, (0 : UInt64)) else (items, n)).1 = items :=
    fun items n => by split <;> rfl
  dsimp only [getBestBidsAPI] at h
  rw [hfst] at h
  cases limit with
  | none => exact (List.perm_insertionSort _ _).mem_iff.mp h
  | some limit => exact (List.perm_insertionSort _ _).mem_iff.mp (List.mem_of_mem_take h)

/-- A schedule `GetNextForgers` returns is that of the slots of its window, in order. -/
theorem apiGetNextForgers_window {nextForgers : List NextForgerAPI}
    (hcur : -2 ^ 63 ≤ currentSlot) (hlast : lastClosedSlot < 2 ^ 63)
    (h : apiGetNextForgers bids coordinators auctionConsts lastBlock fails currentSlot
      lastClosedSlot fuel = some (.ok nextForgers)) :
    nextForgers.map (·.period) =
      (slotRange currentSlot lastClosedSlot).map (slotPeriod auctionConsts lastBlock) := by
  dsimp only [apiGetNextForgers] at h
  split at h
  · cases h
  · refine forSlots_map_of_ok (fun i x hx => ?_) hlast hcur h
    split at hx
    · obtain ⟨c, -, hx⟩ := bind_eq_ok hx
      cases hx
      rfl
    · cases hx
      rfl

/-- When its reads do not fail, `GetNextForgers` does not fail: a best bid it finds comes from
the join with the coordinator table, so `GetCoordinatorAPI` finds its bidder. -/
theorem apiGetNextForgers_ok (hbids : fails.getBestBids = none)
    (hcoord : ∀ i, fails.getCoordinator i = none) {r : Except Failure (List NextForgerAPI)}
    (h : apiGetNextForgers bids coordinators auctionConsts lastBlock fails currentSlot
      lastClosedSlot fuel = some r) : ∃ nextForgers, r = .ok nextForgers := by
  simp only [apiGetNextForgers, hbids, ReadFailures.read] at h
  refine forSlots_ok_of_body (fun s => ?_) h
  cases hfind : (getBestBidsAPI bids coordinators currentSlot lastClosedSlot none
      (some ((lastClosedSlot - currentSlot + 1) % 2 ^ 64).toNat) orderAsc).1.find?
      (·.bid.slotNum == s) with
  | none => exact ⟨_, by simp only [hfind]; rfl⟩
  | some b =>
    have hrow := List.mem_filter.mp (mem_bestBidRows_of_mem_getBestBidsAPI
      (List.mem_of_find?_eq_some hfind))
    obtain ⟨-, c, hc, -⟩ := mem_bidsWithCoordinator.mp hrow.1
    exact ⟨_, by simp only [hfind, hcoord, ReadFailures.read, getCoordinatorAPI, hc]; rfl⟩

end NextForgers

namespace Status

variable {db : APIBackend} {fails : ReadFailures} {status status' : Status} {lastBlock : Block}
  {lastBatchNum : Nat} {currentSlot : Int} {fuel : Nat}

/-- What `UpdateNetworkInfo` can leave behind: the batch read failed, and neither `CurrentSlot`
nor `NextForgers` is written; `GetNextForgers` failed after `CurrentSlot` was written; or both
are written, with the schedule `GetNextForgers` returned. -/
theorem updateNetworkInfo_cases {r : Except Failure Unit}
    (h : status.updateNetworkInfo db fails lastBlock lastBatchNum currentSlot fuel = some (status', r)) :
    (status'.network.currentSlot = status.network.currentSlot ∧
      status'.network.nextForgers = status.network.nextForgers) ∨
    (status'.network.currentSlot = currentSlot ∧
      status'.network.nextForgers = status.network.nextForgers ∧
      ∃ err, apiGetNextForgers db.bids db.coordinators db.auctionConsts lastBlock fails currentSlot
        (int64Add currentSlot status.closedAuctionSlots.toNat) fuel = some (.error err)) ∨
    (status'.network.currentSlot = currentSlot ∧
      apiGetNextForgers db.bids db.coordinators db.auctionConsts lastBlock fails currentSlot
        (int64Add currentSlot status.closedAuctionSlots.toNat) fuel =
          some (.ok status'.network.nextForgers)) := by
  unfold updateNetworkInfo at h
  split at h
  · cases h
    exact .inl ⟨rfl, rfl⟩
  · obtain ⟨r', hr', hst⟩ := Option.map_eq_some'.mp h
    cases r' with
    | error err =>
      cases hst
      exact .inr (.inl ⟨rfl, rfl, err, hr'⟩)
    | ok nextForgers =>
      cases hst
      exact .inr (.inr ⟨rfl, hr'⟩)

/-- `UpdateNetworkInfo` on a stored batch, with no failing read and a window of slots below the
largest `int64`: the network part becomes the block's number, the batch, the current slot,
and the schedule of the slots from `currentSlot` to `currentSlot + ClosedAuctionSlots`, each
forged by the bidder of its best bid or by `bootCoordinator`. -/
theorem updateNetworkInfo_eq {lastBatch : BatchAPI} (hids : (db.bids.map Bid.itemID).Nodup)
    (hcur : 0 ≤ currentSlot) (hlast : currentSlot + status.closedAuctionSlots.toNat < 2 ^ 63 - 1)
    (hbatch : getBatchAPI db.batches lastBatchNum = .ok lastBatch)
    (hfuel : status.closedAuctionSlots.toNat + 1 < fuel) :
    status.updateNetworkInfo db ReadFailures.noFailure lastBlock lastBatchNum currentSlot fuel =
      some (⟨⟨lastBlock.num, lastBatch, currentSlot,
          (slotRange currentSlot (currentSlot + status.closedAuctionSlots.toNat)).map fun s =>
            ⟨apiSlotForger db.bids db.coordinators s, slotPeriod db.auctionConsts lastBlock s⟩⟩,
        status.closedAuctionSlots⟩, .ok ()) := by
  simp only [updateNetworkInfo, ReadFailures.noFailure_getBatch, ReadFailures.read_none, hbatch]
  rw [int64Add_of_lt (by omega) (by omega),
    apiGetNextForgers_eq db.auctionConsts lastBlock hids hcur hlast (by omega)]
  rfl

theorem updateNetworkInfo_eq_window :
    let db : APIBackend := ⟨[⟨1, 5, 100, 7⟩, ⟨2, 6, 40, 8⟩], [⟨1, 7, 70, "https://a"⟩],
      [⟨1, 4, 0, 9⟩], ⟨40, 100⟩⟩
    let status : Status := Status.zero.setAuctionVariables 2
    (db.bids.map Bid.itemID).Nodup ∧ (0 : Int) ≤ 5 ∧
      (5 : Int) + status.closedAuctionSlots.toNat < 2 ^ 63 - 1 ∧
      getBatchAPI db.batches 4 = .ok ⟨1, 4, 0, 9⟩ ∧ status.closedAuctionSlots.toNat + 1 < 10 ∧
      status.updateNetworkInfo db ReadFailures.noFailure ⟨300, 1000, [], []⟩ 4 5 10 =
        some (⟨⟨300, ⟨1, 4, 0, 9⟩, 5,
            (slotRange 5 (5 + status.closedAuctionSlots.toNat)).map fun s =>
              ⟨apiSlotForger db.bids db.coordinators s,
                slotPeriod db.auctionConsts ⟨300, 1000, [], []⟩ s⟩⟩,
          status.closedAuctionSlots⟩, .ok ()) := by
  intro db status
  exact ⟨by decide, by decide, by decide, rfl, by decide,
    updateNetworkInfo_eq (by decide) (by decide) (by decide) rfl (by decide)⟩

/-- Each call keeps the forgers served a schedule of consecutive slots: a failed update leaves
them, and a successful one writes a schedule `GetNextForgers` returned. -/
theorem ForgersWindow.call (h : status.ForgersWindow) {c : Call}
    (hcall : status.call fuel c = some status') : status'.ForgersWindow := by
  cases c with
  | setAuctionVariables closedAuctionSlots =>
    cases hcall
    exact h
  | updateNetworkInfo db fails lastBlock lastBatchNum currentSlot hslot =>
    obtain ⟨⟨st, r⟩, hupdate, rfl⟩ := Option.map_eq_some'.mp hcall
    rcases updateNetworkInfo_cases hupdate with ⟨-, hnext⟩ | ⟨-, hnext, -⟩ | ⟨-, hnext⟩
    · rw [ForgersWindow, hnext]
      exact h
    · rw [ForgersWindow, hnext]
      exact h
    · exact ⟨_, _, _, _, apiGetNextForgers_window hslot.1 (toInt64_mem _).2 hnext⟩

/-- A call whose `GetNextForgers` reads do not fail keeps the forgers served aligned with
`CurrentSlot`. -/
theorem ForgersFromCurrentSlot.call (h : status.ForgersFromCurrentSlot) {c : Call}
    (hreads : c.NextForgersReadsSucceed) (hcall : status.call fuel c = some status') :
    status'.ForgersFromCurrentSlot := by
  cases c with
  | setAuctionVariables closedAuctionSlots =>
    cases hcall
    exact h
  | updateNetworkInfo db fails lastBlock lastBatchNum currentSlot hslot =>
    obtain ⟨⟨st, r⟩, hupdate, rfl⟩ := Option.map_eq_some'.mp hcall
    rcases updateNetworkInfo_cases hupdate with ⟨hcur, hnext⟩ | ⟨-, -, err, herr⟩ | ⟨hcur, hnext⟩
    · rw [ForgersFromCurrentSlot, hcur, hnext]
      exact h
    · obtain ⟨_, hok⟩ := apiGetNextForgers_ok hreads.1 hreads.2 herr
      cases hok
    · refine ⟨int64Add currentSlot status.closedAuctionSlots.toNat, ?_⟩
      have hwindow := congrArg (List.map Period.slotNum)
        (apiGetNextForgers_window hslot.1 (toInt64_mem _).2 hnext)
      simp only [List.map_map] at hwindow
      rw [hcur]
      exact hwindow.trans (List.map_id' _)

theorem ForgersWindow.run : ∀ {calls : List Call} {status : Status}, status.ForgersWindow →
    calls.foldlM (Status.call fuel) status = some status' → status'.ForgersWindow
  | [], _, h, hrun => by
    cases hrun
    exact h
  | _ :: _, _, h, hrun => by
    obtain ⟨_, hcall, hrest⟩ := Option.bind_eq_some.mp hrun
    exact ForgersWindow.run (h.call hcall) hrest

theorem ForgersFromCurrentSlot.run : ∀ {calls : List Call} {status : Status},
    status.ForgersFromCurrentSlot → (∀ c ∈ calls, c.NextForgersReadsSucceed) →
    calls.foldlM (Status.call fuel) status = some status' → status'.ForgersFromCurrentSlot
  | [], _, h, _, hrun => by
    cases hrun
    exact h
  | c :: _, _, h, hreads, hrun => by
    obtain ⟨_, hcall, hrest⟩ := Option.bind_eq_some.mp hrun
    exact ForgersFromCurrentSlot.run (h.call (hreads c (List.mem_cons_self _ _)) hcall)
      (fun c' hc' => hreads c' (List.mem_cons_of_mem _ hc')) hrest

end Status

end HermezNode
