import HermezNode.HistoryDB.Pagination

namespace HermezNode

/-! The forger schedule of the history store (`GetNextForgersInternalAPI`, historydb.go). -/

/-- `common.AuctionConstants`, the fields the schedule reads. -/
structure AuctionConstants where
  blocksPerSlot : Nat
  genesisBlockNum : Int
  deriving DecidableEq, Repr

/-- `common.AuctionVariables`, the fields the schedule reads; the `[6]*big.Int` of minimum
bids is a list. -/
structure AuctionVariables where
  bootCoordinator : EthAddr
  bootCoordinatorURL : String
  defaultSlotSetBid : List Nat
  defaultSlotSetBidSlotNum : Int
  deriving DecidableEq, Repr

/-- `MinBidInfo`: one update of the minimum bids, in force from its slot on. -/
structure MinBidInfo where
  defaultSlotSetBid : List Nat
  defaultSlotSetBidSlotNum : Int
  deriving DecidableEq, Repr

/-- `Period`; timestamps in Unix nanoseconds. -/
structure Period where
  slotNum : Int
  fromBlock : Int
  toBlock : Int
  fromTimestamp : Int
  toTimestamp : Int
  deriving DecidableEq, Repr

/-- `NextForgerAPI`: the forging coordinator and the slot's period. -/
structure NextForgerAPI where
  coordinator : Coordinator
  period : Period
  deriving DecidableEq, Repr

/-- `SELECT slot_num, MAX(item_id) AS maxitem FROM bid GROUP BY slot_num`, joined back with
`bid`: the latest bid of a slot. -/
def bestBid (bids : List Bid) (slotNum : Int) : Option Bid :=
  (bids.filter (·.slotNum == slotNum)).argmax Bid.itemID

/-- The rows of `bid AS b` that the `maxitem` join keeps. -/
def bestBids (bids : List Bid) : List Bid :=
  bids.filter fun b => bestBid bids b.slotNum == some b

/-- The rows of `getBestBidsAPI`'s `WHERE` clause: the best bid of every slot in
`[minSlotNum, maxSlotNum]` whose bidder has a coordinator record, joined with the latest one. -/
def bestBidRows (bids : List Bid) (coordinators : List Coordinator) (minSlotNum maxSlotNum : Int)
    (bidderAddr : Option EthAddr) : List BidAPI :=
  (bidsWithCoordinator (bestBids bids) coordinators).filter fun b =>
    minSlotNum ≤ b.bid.slotNum && b.bid.slotNum ≤ maxSlotNum &&
      bidderAddr.all (· == b.bid.bidderAddr)

/-- `getBestBidsAPI`: the rows by slot, with the `LIMIT` when one is given. -/
def getBestBidsAPI (bids : List Bid) (coordinators : List Coordinator)
    (minSlotNum maxSlotNum : Int) (bidderAddr : Option EthAddr) (limit : Option Nat)
    (order : String) : List BidAPI × UInt64 :=
  let rows := bestBidRows bids coordinators minSlotNum maxSlotNum bidderAddr
  let ordered := rows.insertionSort fun a b =>
    if order == orderAsc then a.bid.slotNum ≤ b.bid.slotNum else b.bid.slotNum ≤ a.bid.slotNum
  let items := match limit with
    | some limit => ordered.take limit
    | none => ordered
  if items.length = 0 then (items, 0)
  else (items, UInt64.ofNat rows.length - UInt64.ofNat items.length)

/-- `getCoordinatorAPI`: `SELECT * FROM coordinator WHERE bidder_addr = $1 ORDER BY item_id
DESC LIMIT 1`. -/
def getCoordinatorAPI (coordinators : List Coordinator) (bidderAddr : EthAddr) :
    Except Failure Coordinator :=
  match latestCoordinator coordinators bidderAddr with
  | some coordinator => .ok coordinator
  | none => .error (.error "sql: no rows in result set")

/-- Go's `%` on `int64`: the truncated remainder, panicking on a zero divisor. -/
def goMod (a b : Int) : Except Failure Int :=
  if b = 0 then .error (.panic "runtime error: integer divide by zero") else .ok (a.tmod b)

/-- The loop over `minBidInfo` for a bid of slot `slotNum`: the first update not after the
slot decides whether the bid reaches its minimum
`DefaultSlotSetBid[slotNum % len(auctionVars.DefaultSlotSetBid)]`; without one the slot goes
to the boot coordinator. -/
def bidBeatsMinBid (auctionVars : AuctionVariables) (slotNum : Int) (bidValue : Nat) :
    List MinBidInfo → Except Failure Bool
  | [] => .ok false
  | info :: minBidInfo =>
      if slotNum ≥ info.defaultSlotSetBidSlotNum then do
        let minBidSelector ← goMod slotNum auctionVars.defaultSlotSetBid.length
        let minBid ← index info.defaultSlotSetBid minBidSelector
        pure !(decide (minBid > bidValue))
      else bidBeatsMinBid auctionVars slotNum bidValue minBidInfo

/-- The loop over `bids` for slot `i`, which breaks at the slot's first bid: a bid reaching
the minimum is forged by its bidder's latest coordinator record. -/
def slotCoordinator (coordinators : List Coordinator) (auctionVars : AuctionVariables)
    (minBidInfo : List MinBidInfo) (bids : List BidAPI) (i : Int) :
    Except Failure (Option Coordinator) :=
  match bids.find? (·.bid.slotNum == i) with
  | none => .ok none
  | some b => do
      let foundForger ← bidBeatsMinBid auctionVars b.bid.slotNum b.bid.bidValue minBidInfo
      if foundForger then do
        let coordinator ← getCoordinatorAPI coordinators b.bid.bidderAddr
        pure (some coordinator)
      else pure none

def secondsPerBlock : Int := 15

/-- `lastBlock.Timestamp.Add(time.Second * time.Duration(secondsPerBlock*(blockNum -
lastBlock.EthBlockNum)))`: the seconds are an `int64`, and the `time.Duration` an `int64`
count of nanoseconds. -/
def blockTimestamp (lastBlock : Block) (blockNum : Int) : Int :=
  lastBlock.timestamp * 1000000000 +
    toInt64 (1000000000 * toInt64 (secondsPerBlock * toInt64 (blockNum - lastBlock.num)))

/-- The period of slot `i`, its block numbers computed in `int64`. -/
def slotPeriod (auctionConsts : AuctionConstants) (lastBlock : Block) (i : Int) : Period :=
  let fromBlock := toInt64 (toInt64 (i * auctionConsts.blocksPerSlot) + auctionConsts.genesisBlockNum)
  let toBlock := toInt64 (toInt64 (toInt64 (int64Add i 1 * auctionConsts.blocksPerSlot) +
    auctionConsts.genesisBlockNum) - 1)
  ⟨i, fromBlock, toBlock, blockTimestamp lastBlock fromBlock, blockTimestamp lastBlock toBlock⟩

/-- `CoordinatorAPI{Forger: BootCoordinator, URL: BootCoordinatorURL}`. -/
def bootCoordinatorAPI (auctionVars : AuctionVariables) : Coordinator :=
  ⟨0, 0, auctionVars.bootCoordinator, auctionVars.bootCoordinatorURL⟩

/-- The min-bid updates the schedule consults: the current auction variables alone from
their slot on, otherwise what `getMinBidInfo` read. -/
def minBidUpdates (auctionVars : AuctionVariables) (minBidInfo : List MinBidInfo)
    (currentSlot : Int) : List MinBidInfo :=
  if currentSlot ≥ auctionVars.defaultSlotSetBidSlotNum then
    [⟨auctionVars.defaultSlotSetBid, auctionVars.defaultSlotSetBidSlotNum⟩]
  else minBidInfo

/-- The slots from `currentSlot` to `lastClosedSlot`. -/
def slotRange (currentSlot lastClosedSlot : Int) : List Int :=
  (List.range (lastClosedSlot - currentSlot + 1).toNat).map fun (k : Nat) => currentSlot + k

/-- `for i := currentSlot; i <= lastClosedSlot; i++` over `int64`, appending what each
iteration yields and returning at its first error, for at most `fuel` iterations: `none`
when the loop is still running.  `i++` wraps at the largest `int64`. -/
def forSlots {α : Type} (body : Int → Except Failure α) (lastClosedSlot : Int) :
    Nat → Int → Option (Except Failure (List α))
  | 0, _ => none
  | fuel + 1, i =>
    if i ≤ lastClosedSlot then
      match body i with
      | .error e => some (.error e)
      | .ok x => (forSlots body lastClosedSlot fuel (int64Add i 1)).map fun r => r.map (x :: ·)
    else some (.ok [])

/-- `GetNextForgersInternalAPI`.  `getMinBidInfo` is not part of this source; its result,
the min-bid updates of the window newest first, is the parameter `minBidInfo`; the slot loop
runs for at most `fuel` iterations. -/
def getNextForgersInternalAPI (bids : List Bid) (coordinators : List Coordinator)
    (minBidInfo : List MinBidInfo) (auctionVars : AuctionVariables)
    (auctionConsts : AuctionConstants) (lastBlock : Block) (currentSlot lastClosedSlot : Int)
    (fuel : Nat) : Option (Except Failure (List NextForgerAPI)) :=
  let limit := ((lastClosedSlot - currentSlot + 1) % 2 ^ 64).toNat
  let bestBids :=
    (getBestBidsAPI bids coordinators currentSlot lastClosedSlot none (some limit) orderAsc).1
  let minBidInfo := minBidUpdates auctionVars minBidInfo currentSlot
  forSlots (fun i => do
      let coordinator ← slotCoordinator coordinators auctionVars minBidInfo bestBids i
      pure ⟨coordinator.getD (bootCoordinatorAPI auctionVars), slotPeriod auctionConsts lastBlock i⟩)
    lastClosedSlot fuel currentSlot

/-! ### Who forges a slot -/

/-- The most recent min-bid update not after slot `s`. -/
def mostRecentUpdate (updates : List MinBidInfo) (s : Int) : Option MinBidInfo :=
  (updates.filter (·.defaultSlotSetBidSlotNum ≤ s)).argmax MinBidInfo.defaultSlotSetBidSlotNum

/-- `DefaultSlotSetBid[s mod L]` of an update. -/
def minBidOf (update : MinBidInfo) (s : Int) (L : Nat) : Nat :=
  update.defaultSlotSetBid.getD (s % L).toNat 0

/-- The winner of slot `s`: the latest coordinator record of the bidder of the slot's best
bid, when that bid reaches `DefaultSlotSetBid[s mod L]` of the most recent update not after
`s`. -/
def slotWinner (bids : List Bid) (coordinators : List Coordinator) (L : Nat)
    (updates : List MinBidInfo) (s : Int) : Option Coordinator := do
  let b ← bestBid bids s
  let c ← latestCoordinator coordinators b.bidderAddr
  let u ← mostRecentUpdate updates s
  if minBidOf u s L ≤ b.bidValue then some c else none

/-! ### The minimum bid -/

theorem argmax_eq_head?_of_sorted {α : Type} {f : α → Int} :
    ∀ {l : List α}, l.Sorted (fun a b => f b ≤ f a) → l.argmax f = l.head?
  | [], _ => rfl
  | [_], _ => rfl
  | a :: b :: l, h => by
      have hba : f b ≤ f a := List.rel_of_sorted_cons h b (List.mem_cons_self _ _)
      rw [List.argmax_cons, argmax_eq_head?_of_sorted h.of_cons]
      simp [not_lt.mpr hba]

section MinBid

variable {updates : List MinBidInfo} {s : Int}

/-- In updates ordered newest first, the most recent one not after `s` is the first one. -/
theorem mostRecentUpdate_eq_find?
    (hsorted : updates.Sorted fun a b => b.defaultSlotSetBidSlotNum ≤ a.defaultSlotSetBidSlotNum) :
    mostRecentUpdate updates s = updates.find? (·.defaultSlotSetBidSlotNum ≤ s) := by
  rw [mostRecentUpdate, ← List.filter_head?]
  exact argmax_eq_head?_of_sorted (hsorted.filter _)

/-- The loop over the updates compares the bid with the minimum of the first update not after
the slot. -/
theorem bidBeatsMinBid_eq (auctionVars : AuctionVariables) (bidValue : Nat) (hs : 0 ≤ s)
    (hL : 0 < auctionVars.defaultSlotSetBid.length)
    (hlen : ∀ u ∈ updates, u.defaultSlotSetBid.length = auctionVars.defaultSlotSetBid.length) :
    bidBeatsMinBid auctionVars s bidValue updates =
      .ok ((updates.find? (·.defaultSlotSetBidSlotNum ≤ s)).elim false fun u =>
        decide (minBidOf u s auctionVars.defaultSlotSetBid.length ≤ bidValue)) := by
  induction updates with
  | nil => rfl
  | cons u us ih =>
      by_cases hu : u.defaultSlotSetBidSlotNum ≤ s
      · have hsel : goMod s auctionVars.defaultSlotSetBid.length =
            .ok (s % auctionVars.defaultSlotSetBid.length) := by
          rw [goMod, if_neg (by omega), Int.tmod_eq_emod hs (by omega)]
        have hlenu := hlen u (List.mem_cons_self _ _)
        have hidx : index u.defaultSlotSetBid (s % auctionVars.defaultSlotSetBid.length) =
            .ok (u.defaultSlotSetBid.getD (s % auctionVars.defaultSlotSetBid.length).toNat 0) :=
          index_getD (Int.emod_nonneg s (by omega))
            (by rw [hlenu]; exact Int.emod_lt_of_pos s (by omega)) 0
        simp [bidBeatsMinBid, hu, hsel, hidx, minBidOf]
        rw [← decide_not]
        exact decide_eq_decide.mpr Nat.not_le.symm
      · simp only [bidBeatsMinBid, ge_iff_le, if_neg hu]
        rw [ih fun u' hu' => hlen u' (List.mem_cons_of_mem _ hu'), List.find?_cons_of_neg _ (by simpa using hu)]

end MinBid

/-! ### The best bid of a slot -/

/-- The row `getBestBidsAPI` holds for slot `s`: its best bid with the latest record of the
bidder, when there is one. -/
def slotBidRow (bids : List Bid) (coordinators : List Coordinator) (s : Int) : Option BidAPI :=
  (bestBid bids s).bind fun b =>
    (latestCoordinator coordinators b.bidderAddr).map fun c => ⟨b, c.forgerAddr, c.url⟩

section BestBids

variable {bids : List Bid} {coordinators : List Coordinator}

theorem bestBid_slotNum {s : Int} {b : Bid} (h : bestBid bids s = some b) :
    b.slotNum = s ∧ b ∈ bids := by
  have hmem := List.argmax_mem h
  simp only [List.mem_filter, beq_iff_eq] at hmem
  exact ⟨hmem.2, hmem.1⟩

theorem slotBidRow_slotNum {s : Int} {x : BidAPI} (h : slotBidRow bids coordinators s = some x) :
    x.bid.slotNum = s := by
  simp only [slotBidRow, Option.bind_eq_some, Option.map_eq_some'] at h
  obtain ⟨b, hb, c, -, rfl⟩ := h
  exact (bestBid_slotNum hb).1

/-- A row of the join is the row of its own slot. -/
theorem mem_bidsWithCoordinator_bestBids {x : BidAPI} :
    x ∈ bidsWithCoordinator (bestBids bids) coordinators ↔
      slotBidRow bids coordinators x.bid.slotNum = some x := by
  simp only [bidsWithCoordinator, List.mem_filterMap, Option.map_eq_some', bestBids,
    List.mem_filter, beq_iff_eq, slotBidRow, Option.bind_eq_some]
  constructor
  · rintro ⟨b, ⟨-, hb⟩, c, hc, rfl⟩
    exact ⟨b, hb, c, hc, rfl⟩
  · rintro ⟨b, hb, c, hc, rfl⟩
    have hslot := (bestBid_slotNum hb).1
    exact ⟨b, ⟨(bestBid_slotNum hb).2, hslot ▸ hb⟩, c, hc, rfl⟩

theorem mem_slotRange {currentSlot lastClosedSlot s : Int} :
    s ∈ slotRange currentSlot lastClosedSlot ↔ currentSlot ≤ s ∧ s ≤ lastClosedSlot := by
  simp only [slotRange, List.mem_map, List.mem_range]
  constructor
  · rintro ⟨k, hk, rfl⟩
    omega
  · rintro ⟨hlo, hhi⟩
    exact ⟨(s - currentSlot).toNat, by omega, by omega⟩

@[simp] theorem length_slotRange (currentSlot lastClosedSlot : Int) :
    (slotRange currentSlot lastClosedSlot).length = (lastClosedSlot - currentSlot + 1).toNat := by
  simp [slotRange]

theorem mem_bestBidRows {minSlotNum maxSlotNum : Int} {x : BidAPI} :
    x ∈ bestBidRows bids coordinators minSlotNum maxSlotNum none ↔
      slotBidRow bids coordinators x.bid.slotNum = some x ∧ x.bid.slotNum ∈ slotRange minSlotNum maxSlotNum := by
  simp [bestBidRows, mem_bidsWithCoordinator_bestBids, mem_slotRange, and_assoc]

/-- With distinct `item_id`s there is at most one row per slot, so the window's rows fit a
`LIMIT` of its number of slots. -/
theorem length_bestBidRows_le (hids : (bids.map Bid.itemID).Nodup) (minSlotNum maxSlotNum : Int) :
    (bestBidRows bids coordinators minSlotNum maxSlotNum none).length ≤
      (maxSlotNum - minSlotNum + 1).toNat := by
  have hjoin : (bidsWithCoordinator (bestBids bids) coordinators).Nodup :=
    ((hids.of_map _).filter _).filterMap fun a a' x ha ha' => by
      simp only [Option.mem_def, Option.map_eq_some'] at ha ha'
      obtain ⟨c, -, rfl⟩ := ha
      obtain ⟨c', -, h⟩ := ha'
      exact (congrArg BidAPI.bid h).symm
  have hslots : ((bestBidRows bids coordinators minSlotNum maxSlotNum none).map
      (·.bid.slotNum)).Nodup :=
    (hjoin.filter _).map_on fun x hx y hy hxy => by
      have hx' := (mem_bestBidRows.mp hx).1
      rw [hxy, (mem_bestBidRows.mp hy).1] at hx'
      exact (Option.some.inj hx').symm
  have hsub := (hslots.subperm fun s hs => by
    obtain ⟨x, hx, rfl⟩ := List.mem_map.mp hs
    exact (mem_bestBidRows.mp hx).2).length_le
  rwa [List.length_map, length_slotRange] at hsub

theorem mem_getBestBidsAPI {minSlotNum maxSlotNum : Int} {limit : Nat} {order : String}
    (hlimit : (bestBidRows bids coordinators minSlotNum maxSlotNum none).length ≤ limit)
    {x : BidAPI} :
    x ∈ (getBestBidsAPI bids coordinators minSlotNum maxSlotNum none (some limit) order).1 ↔
      x ∈ bestBidRows bids coordinators minSlotNum maxSlotNum none := by
  have hfst : ∀ (items : List BidAPI) (n : UInt64),
      (if items.length = 0 then (items, (0 : UInt64)) else (items, n)).1 = items :=
    fun items n => by split <;> rfl
  dsimp only [getBestBidsAPI]
  rw [hfst, List.take_of_length_le (by rw [(List.perm_insertionSort _ _).length_eq]; exact hlimit)]
  exact (List.perm_insertionSort _ _).mem_iff

/-- The loop over the best bids finds, for a slot of the window, the row of its best bid. -/
theorem find?_getBestBidsAPI (hids : (bids.map Bid.itemID).Nodup) {currentSlot lastClosedSlot s : Int}
    (hcur : 0 ≤ currentSlot) (hlast : lastClosedSlot < 2 ^ 63)
    (hs : s ∈ slotRange currentSlot lastClosedSlot) :
    (getBestBidsAPI bids coordinators currentSlot lastClosedSlot none
        (some ((lastClosedSlot - currentSlot + 1) % 2 ^ 64).toNat) orderAsc).1.find?
        (·.bid.slotNum == s) =
      slotBidRow bids coordinators s := by
  have hlimit : (bestBidRows bids coordinators currentSlot lastClosedSlot none).length ≤
      ((lastClosedSlot - currentSlot + 1) % 2 ^ 64).toNat :=
    (length_bestBidRows_le hids currentSlot lastClosedSlot).trans
      (by rw [mem_slotRange] at hs; omega)
  have hmem : ∀ x, x ∈ (getBestBidsAPI bids coordinators currentSlot lastClosedSlot none
      (some ((lastClosedSlot - currentSlot + 1) % 2 ^ 64).toNat) orderAsc).1 ↔
      x ∈ bestBidRows bids coordinators currentSlot lastClosedSlot none :=
    fun x => mem_getBestBidsAPI hlimit
  cases hrow : slotBidRow bids coordinators s with
  | none =>
      refine List.find?_eq_none.mpr fun x hx hslot => ?_
      have hx' := (mem_bestBidRows.mp ((hmem x).mp hx)).1
      rw [beq_iff_eq.mp hslot, hrow] at hx'
      cases hx'
  | some x =>
      have hx : x ∈ bestBidRows bids coordinators currentSlot lastClosedSlot none :=
        mem_bestBidRows.mpr ⟨(slotBidRow_slotNum hrow) ▸ hrow, (slotBidRow_slotNum hrow) ▸ hs⟩
      cases hfind : (getBestBidsAPI bids coordinators currentSlot lastClosedSlot none
          (some ((lastClosedSlot - currentSlot + 1) % 2 ^ 64).toNat) orderAsc).1.find?
          (·.bid.slotNum == s) with
      | none =>
          exact absurd (slotBidRow_slotNum hrow) (by simpa using List.find?_eq_none.mp hfind x ((hmem x).mpr hx))
      | some y =>
          have hy := (mem_bestBidRows.mp ((hmem y).mp (List.mem_of_find?_eq_some hfind))).1
          have hys : y.bid.slotNum = s := by simpa using List.find?_some hfind
          rw [hys, hrow] at hy
          exact congrArg some (Option.some.inj hy).symm

end BestBids

/-! ### The slot loop -/

section Loop

variable {α : Type} {body : Int → Except Failure α}

theorem slotRange_of_le {currentSlot lastClosedSlot : Int} (h : currentSlot ≤ lastClosedSlot) :
    slotRange currentSlot lastClosedSlot = currentSlot :: slotRange (currentSlot + 1) lastClosedSlot := by
  obtain ⟨n, hn⟩ : ∃ n : Nat, (lastClosedSlot - currentSlot + 1).toNat = n + 1 :=
    ⟨(lastClosedSlot - currentSlot).toNat, by omega⟩
  rw [slotRange, hn, List.range_succ_eq_map, slotRange,
    show (lastClosedSlot - (currentSlot + 1) + 1).toNat = n by omega]
  simp only [List.map_cons, List.map_map, Nat.cast_zero, add_zero]
  congr 1
  exact List.map_congr_left fun k _ => by simp only [Function.comp_apply]; push_cast; ring

theorem slotRange_of_lt {currentSlot lastClosedSlot : Int} (h : lastClosedSlot < currentSlot) :
    slotRange currentSlot lastClosedSlot = [] := by
  rw [slotRange, show (lastClosedSlot - currentSlot + 1).toNat = 0 by omega]
  rfl

/-- Below the largest `int64` the loop runs its body once per slot of the window, in order. -/
theorem forSlots_eq {g : Int → α} {lastClosedSlot : Int} (hlast : lastClosedSlot < 2 ^ 63 - 1) :
    ∀ {fuel : Nat} {currentSlot : Int}, -2 ^ 63 ≤ currentSlot →
      (∀ i ∈ slotRange currentSlot lastClosedSlot, body i = .ok (g i)) →
      (lastClosedSlot - currentSlot + 1).toNat < fuel →
      forSlots body lastClosedSlot fuel currentSlot =
        some (.ok ((slotRange currentSlot lastClosedSlot).map g))
  | 0, _, _, _, hfuel => absurd hfuel (Nat.not_lt_zero _)
  | fuel + 1, currentSlot, hcur, hbody, hfuel => by
    by_cases hle : currentSlot ≤ lastClosedSlot
    · have hrange := slotRange_of_le hle
      rw [forSlots, if_pos hle, hbody currentSlot (by rw [hrange]; exact List.mem_cons_self _ _),
        int64Add_of_lt (by omega) (by omega),
        forSlots_eq hlast (by omega) (fun i hi => hbody i (by rw [hrange]; exact List.mem_cons_of_mem _ hi))
          (by omega), hrange]
      rfl
    · rw [forSlots, if_neg hle, slotRange_of_lt (by omega)]
      rfl

/-- At the largest `int64` the loop never exits: `i++` wraps to `-2^63`, and a body that does
not fail runs it on. -/
theorem forSlots_max (hbody : ∀ i, ∃ x, body i = .ok x) :
    ∀ (fuel : Nat) (i : Int), i < 2 ^ 63 → forSlots body (2 ^ 63 - 1) fuel i = none
  | 0, _, _ => rfl
  | fuel + 1, i, hi => by
    obtain ⟨x, hx⟩ := hbody i
    rw [forSlots, if_pos (by omega), hx, forSlots_max hbody fuel (int64Add i 1) (toInt64_mem _).2]
    rfl

/-- At the largest `int64` the loop never returns normally, whatever its body does. -/
theorem forSlots_ne_ok_max : ∀ (fuel : Nat) (i : Int) (l : List α), i < 2 ^ 63 →
    forSlots body (2 ^ 63 - 1) fuel i ≠ some (.ok l)
  | 0, _, _, _ => by simp [forSlots]
  | fuel + 1, i, l, hi => by
    rw [forSlots, if_pos (by omega)]
    cases body i with
    | error e => simp
    | ok x =>
      intro h
      obtain ⟨r, hr, hrl⟩ := Option.map_eq_some'.mp h
      cases r with
      | error e => cases hrl
      | ok l' => exact forSlots_ne_ok_max fuel _ l' (toInt64_mem _).2 hr

/-- A loop that returns normally has run its body on the slots of the window, in order. -/
theorem forSlots_map_of_ok {β : Type} {f : α → β} {g : Int → β} {lastClosedSlot : Int}
    (hbody : ∀ i x, body i = .ok x → f x = g i) (hlast : lastClosedSlot < 2 ^ 63) :
    ∀ {fuel : Nat} {i : Int} {l : List α}, -2 ^ 63 ≤ i →
      forSlots body lastClosedSlot fuel i = some (.ok l) →
      l.map f = (slotRange i lastClosedSlot).map g
  | 0, _, _, _, h => by cases h
  | fuel + 1, i, l, hi, h => by
    by_cases hle : i ≤ lastClosedSlot
    · by_cases hmax : lastClosedSlot = 2 ^ 63 - 1
      · exact absurd h (hmax ▸ forSlots_ne_ok_max (fuel + 1) i l (by omega))
      rw [forSlots, if_pos hle] at h
      cases hx : body i with
      | error e => rw [hx] at h; cases h
      | ok x =>
        rw [hx] at h
        obtain ⟨r, hr, hrl⟩ := Option.map_eq_some'.mp h
        cases r with
        | error e => cases hrl
        | ok l' =>
          cases hrl
          rw [int64Add_of_lt (by omega) (by omega)] at hr
          rw [slotRange_of_le hle, List.map_cons, List.map_cons, hbody i x hx,
            forSlots_map_of_ok hbody hlast (by omega) hr]
    · rw [forSlots, if_neg hle] at h
      cases h
      rw [slotRange_of_lt (by omega)]
      rfl

theorem forSlots_ok_of_body (hbody : ∀ i, ∃ x, body i = .ok x) {lastClosedSlot : Int} :
    ∀ {fuel : Nat} {i : Int} {r : Except Failure (List α)},
      forSlots body lastClosedSlot fuel i = some r → ∃ l, r = .ok l
  | 0, _, _, h => by cases h
  | fuel + 1, i, r, h => by
    rw [forSlots] at h
    split at h
    · obtain ⟨x, hx⟩ := hbody i
      rw [hx] at h
      obtain ⟨r', hr', rfl⟩ := Option.map_eq_some'.mp h
      obtain ⟨l, rfl⟩ := forSlots_ok_of_body hbody hr'
      exact ⟨_, rfl⟩
    · cases h
      exact ⟨_, rfl⟩

end Loop

/-! ### The schedule -/

section Schedule

variable {bids : List Bid} {coordinators : List Coordinator} {minBidInfo : List MinBidInfo}
  {auctionVars : AuctionVariables} {currentSlot lastClosedSlot : Int}

variable (coordinators) in
/-- One iteration of the slot loop hands the slot to its winner, or to the boot coordinator. -/
theorem slotCoordinator_getD (hids : (bids.map Bid.itemID).Nodup) (hcur : 0 ≤ currentSlot)
    (hlast : lastClosedSlot < 2 ^ 63) (hL : 0 < auctionVars.defaultSlotSetBid.length)
    (hsorted : (minBidUpdates auctionVars minBidInfo currentSlot).Sorted
      fun a b => b.defaultSlotSetBidSlotNum ≤ a.defaultSlotSetBidSlotNum)
    (hlen : ∀ u ∈ minBidUpdates auctionVars minBidInfo currentSlot,
      u.defaultSlotSetBid.length = auctionVars.defaultSlotSetBid.length)
    {s : Int} (hs : s ∈ slotRange currentSlot lastClosedSlot) :
    ∃ o, slotCoordinator coordinators auctionVars (minBidUpdates auctionVars minBidInfo currentSlot)
        (getBestBidsAPI bids coordinators currentSlot lastClosedSlot none
          (some ((lastClosedSlot - currentSlot + 1) % 2 ^ 64).toNat) orderAsc).1 s = .ok o ∧
      o = slotWinner bids coordinators auctionVars.defaultSlotSetBid.length
        (minBidUpdates auctionVars minBidInfo currentSlot) s := by
  have hs0 : 0 ≤ s := by rw [mem_slotRange] at hs; omega
  unfold slotCoordinator slotWinner
  rw [find?_getBestBidsAPI hids hcur hlast hs, slotBidRow]
  cases hb : bestBid bids s with
  | none => exact ⟨none, rfl, rfl⟩
  | some b =>
      cases hc : latestCoordinator coordinators b.bidderAddr with
      | none => exact ⟨none, by simp [hc], by simp [hc]⟩
      | some c =>
          simp only [Option.bind_eq_bind, Option.some_bind, Option.map_some', hc]
          rw [(bestBid_slotNum hb).1, bidBeatsMinBid_eq auctionVars b.bidValue hs0 hL hlen,
            ← mostRecentUpdate_eq_find? hsorted]
          cases mostRecentUpdate (minBidUpdates auctionVars minBidInfo currentSlot) s with
          | none => exact ⟨none, rfl, rfl⟩
          | some u =>
              by_cases hbeat : minBidOf u s auctionVars.defaultSlotSetBid.length ≤ b.bidValue
              · exact ⟨some c, by simp [hbeat, getCoordinatorAPI, hc], by simp [hbeat]⟩
              · exact ⟨none, by simp [hbeat], by simp [hbeat]⟩

/-- With block numbers inside `int64`, a slot's period is computed without wrapping. -/
theorem slotPeriod_blocks (auctionConsts : AuctionConstants) (lastBlock : Block) {s : Int}
    (hs : 0 ≤ s) (hs' : s < 2 ^ 63 - 1) (hgen : 0 ≤ auctionConsts.genesisBlockNum)
    (hblock : (s + 1) * auctionConsts.blocksPerSlot + auctionConsts.genesisBlockNum < 2 ^ 63) :
    (slotPeriod auctionConsts lastBlock s).fromBlock =
        s * auctionConsts.blocksPerSlot + auctionConsts.genesisBlockNum ∧
      (slotPeriod auctionConsts lastBlock s).toBlock =
        (s + 1) * auctionConsts.blocksPerSlot + auctionConsts.genesisBlockNum - 1 := by
  have hbps : (0 : Int) ≤ auctionConsts.blocksPerSlot := Int.natCast_nonneg _
  have hmul : s * auctionConsts.blocksPerSlot ≤ (s + 1) * auctionConsts.blocksPerSlot :=
    Int.mul_le_mul_of_nonneg_right (by omega) hbps
  have hmul0 : 0 ≤ s * auctionConsts.blocksPerSlot := Int.mul_nonneg hs hbps
  have hfrom : toInt64 (s * auctionConsts.blocksPerSlot) = s * auctionConsts.blocksPerSlot :=
    toInt64_of_lt (by omega) (by omega)
  have hfrom' : toInt64 (s * auctionConsts.blocksPerSlot + auctionConsts.genesisBlockNum) =
      s * auctionConsts.blocksPerSlot + auctionConsts.genesisBlockNum :=
    toInt64_of_lt (by omega) (by omega)
  have hto : toInt64 ((s + 1) * auctionConsts.blocksPerSlot) =
      (s + 1) * auctionConsts.blocksPerSlot := toInt64_of_lt (by omega) (by omega)
  have hto' : toInt64 ((s + 1) * auctionConsts.blocksPerSlot + auctionConsts.genesisBlockNum) =
      (s + 1) * auctionConsts.blocksPerSlot + auctionConsts.genesisBlockNum :=
    toInt64_of_lt (by omega) (by omega)
  have hto'' : toInt64 ((s + 1) * auctionConsts.blocksPerSlot + auctionConsts.genesisBlockNum - 1) =
      (s + 1) * auctionConsts.blocksPerSlot + auctionConsts.genesisBlockNum - 1 :=
    toInt64_of_lt (by omega) (by omega)
  constructor <;> simp only [slotPeriod, int64Add_of_lt (a := s) (b := 1) (by omega) (by omega),
    hfrom, hfrom', hto, hto', hto'']

/-- `GetNextForgersInternalAPI` lists every slot of the window with its period and forger. -/
theorem getNextForgersInternalAPI_eq (auctionConsts : AuctionConstants) (lastBlock : Block)
    (hids : (bids.map Bid.itemID).Nodup) (hcur : 0 ≤ currentSlot)
    (hlast : lastClosedSlot < 2 ^ 63 - 1) (hL : 0 < auctionVars.defaultSlotSetBid.length)
    (hsorted : (minBidUpdates auctionVars minBidInfo currentSlot).Sorted
      fun a b => b.defaultSlotSetBidSlotNum ≤ a.defaultSlotSetBidSlotNum)
    (hlen : ∀ u ∈ minBidUpdates auctionVars minBidInfo currentSlot,
      u.defaultSlotSetBid.length = auctionVars.defaultSlotSetBid.length)
    {fuel : Nat} (hfuel : (lastClosedSlot - currentSlot + 1).toNat < fuel) :
    getNextForgersInternalAPI bids coordinators minBidInfo auctionVars auctionConsts lastBlock
        currentSlot lastClosedSlot fuel =
      some (.ok ((slotRange currentSlot lastClosedSlot).map fun s =>
        ⟨(slotWinner bids coordinators auctionVars.defaultSlotSetBid.length
          (minBidUpdates auctionVars minBidInfo currentSlot) s).getD (bootCoordinatorAPI auctionVars),
          slotPeriod auctionConsts lastBlock s⟩)) :=
  forSlots_eq hlast (by omega) (fun s hs => by
    obtain ⟨o, ho, rfl⟩ :=
      slotCoordinator_getD coordinators hids hcur (by omega) hL hsorted hlen hs
    rw [ho, ok_bind]
    rfl) hfuel

/-- The forger schedule: for a window below the largest `int64` whose block numbers fit
`int64`, one entry per slot from `currentSlot` to `lastClosedSlot`, in order, each with its
contiguous block period, forged by the latest coordinator record of the bidder of the slot's
best bid when that bid reaches the minimum of the most recent update not after the slot, and
by the boot coordinator otherwise. -/
theorem getNextForgersInternalAPI_spec (auctionConsts : AuctionConstants) (lastBlock : Block)
    (hids : (bids.map Bid.itemID).Nodup) (hcur : 0 ≤ currentSlot)
    (hlast : lastClosedSlot < 2 ^ 63 - 1) (hgen : 0 ≤ auctionConsts.genesisBlockNum)
    (hblock : (lastClosedSlot + 1) * auctionConsts.blocksPerSlot +
      auctionConsts.genesisBlockNum < 2 ^ 63)
    (hL : 0 < auctionVars.defaultSlotSetBid.length)
    (hsorted : minBidInfo.Sorted fun a b => b.defaultSlotSetBidSlotNum ≤ a.defaultSlotSetBidSlotNum)
    (hlen : ∀ u ∈ minBidInfo, u.defaultSlotSetBid.length = auctionVars.defaultSlotSetBid.length) :
    ∃ forgers, (∀ fuel, (lastClosedSlot - currentSlot + 1).toNat < fuel →
        getNextForgersInternalAPI bids coordinators minBidInfo auctionVars auctionConsts
          lastBlock currentSlot lastClosedSlot fuel = some (.ok forgers)) ∧
      forgers.length = (lastClosedSlot - currentSlot + 1).toNat ∧
      ∀ (k : Nat) (hk : k < forgers.length),
        forgers[k].period.slotNum = currentSlot + k ∧
        forgers[k].period.fromBlock =
          forgers[k].period.slotNum * auctionConsts.blocksPerSlot + auctionConsts.genesisBlockNum ∧
        forgers[k].period.toBlock =
          (forgers[k].period.slotNum + 1) * auctionConsts.blocksPerSlot +
            auctionConsts.genesisBlockNum - 1 ∧
        forgers[k].coordinator = (slotWinner bids coordinators auctionVars.defaultSlotSetBid.length
          (if auctionVars.defaultSlotSetBidSlotNum ≤ currentSlot then
            [⟨auctionVars.defaultSlotSetBid, auctionVars.defaultSlotSetBidSlotNum⟩]
          else minBidInfo) forgers[k].period.slotNum).getD
          ⟨0, 0, auctionVars.bootCoordinator, auctionVars.bootCoordinatorURL⟩ := by
  have hsorted' : (minBidUpdates auctionVars minBidInfo currentSlot).Sorted
      fun a b => b.defaultSlotSetBidSlotNum ≤ a.defaultSlotSetBidSlotNum := by
    unfold minBidUpdates
    split
    exacts [List.sorted_singleton _, hsorted]
  have hlen' : ∀ u ∈ minBidUpdates auctionVars minBidInfo currentSlot,
      u.defaultSlotSetBid.length = auctionVars.defaultSlotSetBid.length := by
    unfold minBidUpdates
    split
    exacts [by simp, hlen]
  refine ⟨_, fun fuel hfuel => getNextForgersInternalAPI_eq auctionConsts lastBlock hids hcur
    hlast hL hsorted' hlen' hfuel, by simp, fun k hk => ?_⟩
  have hk' : k < (lastClosedSlot - currentSlot + 1).toNat := by simpa using hk
  obtain ⟨hfrom, hto⟩ := slotPeriod_blocks auctionConsts lastBlock (s := currentSlot + k)
    (by omega) (by omega) hgen (hblock.trans_le' (by
      have : (currentSlot + k + 1) * auctionConsts.blocksPerSlot ≤
          (lastClosedSlot + 1) * auctionConsts.blocksPerSlot :=
        Int.mul_le_mul_of_nonneg_right (by omega) (Int.natCast_nonneg _)
      omega))
  simp only [List.getElem_map, slotRange, List.getElem_range]
  exact ⟨rfl, hfrom, hto, rfl⟩

theorem getNextForgersInternalAPI_spec_window :
    let bids : List Bid := [⟨1, 5, 100, 7⟩, ⟨2, 5, 40, 8⟩, ⟨3, 6, 70, 7⟩]
    let coordinators : List Coordinator :=
      [⟨1, 7, 70, "https://a"⟩, ⟨2, 8, 80, "https://b"⟩, ⟨3, 7, 71, "https://c"⟩]
    let auctionVars : AuctionVariables := ⟨9, "https://boot", [50, 60], 0⟩
    let auctionConsts : AuctionConstants := ⟨40, 100⟩
    (bids.map Bid.itemID).Nodup ∧ (0 : Int) ≤ 5 ∧ (7 : Int) < 2 ^ 63 - 1 ∧
      (0 : Int) ≤ auctionConsts.genesisBlockNum ∧
      ((7 : Int) + 1) * auctionConsts.blocksPerSlot + auctionConsts.genesisBlockNum < 2 ^ 63 ∧
      0 < auctionVars.defaultSlotSetBid.length ∧
      ∃ forgers, (∀ fuel, ((7 : Int) - 5 + 1).toNat < fuel →
          getNextForgersInternalAPI bids coordinators [] auctionVars auctionConsts
            ⟨300, 1000, [], []⟩ 5 7 fuel = some (.ok forgers)) ∧
        forgers.length = ((7 : Int) - 5 + 1).toNat ∧
        ∀ (k : Nat) (hk : k < forgers.length),
          forgers[k].period.slotNum = 5 + k ∧
          forgers[k].period.fromBlock =
            forgers[k].period.slotNum * auctionConsts.blocksPerSlot + auctionConsts.genesisBlockNum ∧
          forgers[k].period.toBlock =
            (forgers[k].period.slotNum + 1) * auctionConsts.blocksPerSlot +
              auctionConsts.genesisBlockNum - 1 ∧
          forgers[k].coordinator = (slotWinner bids coordinators auctionVars.defaultSlotSetBid.length
            (if auctionVars.defaultSlotSetBidSlotNum ≤ 5 then
              [⟨auctionVars.defaultSlotSetBid, auctionVars.defaultSlotSetBidSlotNum⟩]
            else []) forgers[k].period.slotNum).getD
            ⟨0, 0, auctionVars.bootCoordinator, auctionVars.bootCoordinatorURL⟩ :=
  ⟨by decide, by decide, by decide, by decide, by decide, by decide,
    getNextForgersInternalAPI_spec _ _ (by decide) (by decide) (by decide) (by decide) (by decide)
      (by decide) (List.sorted_nil) (by simp)⟩

/-- At `lastClosedSlot = 2^63 - 1` the slot loop never exits, so `GetNextForgersInternalAPI`
never returns, however many iterations it is given. -/
theorem getNextForgersInternalAPI_never_returns :
    ¬ ∃ fuel r, getNextForgersInternalAPI [] [] [] ⟨0, "", [1], 0⟩ ⟨1, 0⟩ ⟨0, 0, [], []⟩
      (2 ^ 63 - 1) (2 ^ 63 - 1) fuel = some r := by
  rintro ⟨fuel, r, h⟩
  have hnone : getNextForgersInternalAPI [] [] [] ⟨0, "", [1], 0⟩ ⟨1, 0⟩ ⟨0, 0, [], []⟩
      (2 ^ 63 - 1) (2 ^ 63 - 1) fuel = none := forSlots_max (fun _ => ⟨_, rfl⟩) fuel _ (by decide)
  rw [hnone] at h
  cases h

end Schedule

end HermezNode
