import HermezNode.HistoryDB.NextForgers

namespace HermezNode

/-! The API's forger schedule (`API.GetNextForgers`, in the file of the pool-transaction tests)
and `GetBestBidAPI` (historydb.go). -/

/-- `bootCoordinator` of package api, `HexToAddress("0x111…1")` with 39 hex digits as bidder
and forger. -/
def apiBootCoordinator : Coordinator :=
  ⟨0, 0x111111111111111111111111111111111111111, 0x111111111111111111111111111111111111111,
    "https://bootCoordinator"⟩

/-- Which of a call's reads fail, and with what: each public `…API` read of the history store
opens with `apiConnCon.Acquire`, which can time out, and then queries the database, which can
fail.  `getCoordinator i` is the read for the bidder of slot `i`. -/
structure ReadFailures where
  getBatch : Option Failure
  getBestBids : Option Failure
  getCoordinator : Int → Option Failure

/-- A run in which no read fails. -/
def ReadFailures.noFailure : ReadFailures := ⟨none, none, fun _ => none⟩

/-- A read: its failure, or the query's answer. -/
def ReadFailures.read {α : Type} (fail : Option Failure) (query : Except Failure α) :
    Except Failure α :=
  match fail with
  | some e => .error e
  | none => query

@[simp] theorem ReadFailures.read_none {α : Type} (query : Except Failure α) :
    ReadFailures.read none query = query := rfl

@[simp] theorem ReadFailures.noFailure_getBatch : ReadFailures.noFailure.getBatch = none := rfl

@[simp] theorem ReadFailures.noFailure_getBestBids : ReadFailures.noFailure.getBestBids = none := rfl

@[simp] theorem ReadFailures.noFailure_getCoordinator (i : Int) :
    ReadFailures.noFailure.getCoordinator i = none := rfl

/-- `API.GetNextForgers`: for each slot of `[currentSlot, lastClosedSlot]`, its period and the
latest coordinator record of the bidder of the first best bid of the slot, or
`bootCoordinator`; the slot loop runs for at most `fuel` iterations. -/
def apiGetNextForgers (bids : List Bid) (coordinators : List Coordinator)
    (auctionConsts : AuctionConstants) (lastBlock : Block) (fails : ReadFailures)
    (currentSlot lastClosedSlot : Int) (fuel : Nat) :
    Option (Except Failure (List NextForgerAPI)) :=
  let limit := ((lastClosedSlot - currentSlot + 1) % 2 ^ 64).toNat
  match ReadFailures.read fails.getBestBids
      (.ok (getBestBidsAPI bids coordinators currentSlot lastClosedSlot none (some limit) orderAsc).1) with
  | .error err => some (.error err)
  | .ok bestBids =>
    forSlots (fun i => do
        let coordinator ← match bestBids.find? (·.bid.slotNum == i) with
          | some b =>
            (ReadFailures.read (fails.getCoordinator i)
              (getCoordinatorAPI coordinators b.bid.bidderAddr)).map some
          | none => pure none
        pure ⟨coordinator.getD apiBootCoordinator, slotPeriod auctionConsts lastBlock i⟩)
      lastClosedSlot fuel currentSlot

/-- `GetBestBidAPI(slotNum)`: among the slot's bids whose bidder has a coordinator record, the
one of highest `item_id`, with the forger and URL of the record; `sql.ErrNoRows` when there is
none. -/
def getBestBidAPI (bids : List Bid) (coordinators : List Coordinator) (slotNum : Int) :
    Except Failure BidAPI :=
  match (bidsWithCoordinator (bids.filter (·.slotNum == slotNum)) coordinators).argmax
      (·.bid.itemID) with
  | some bid => .ok bid
  | none => .error (.error "sql: no rows in result set")

/-- The forger the API names for slot `s`: the latest record of the bidder of the slot's best
bid, or `bootCoordinator`. -/
def apiSlotForger (bids : List Bid) (coordinators : List Coordinator) (s : Int) : Coordinator :=
  ((bestBid bids s).bind fun b => latestCoordinator coordinators b.bidderAddr).getD
    apiBootCoordinator

section Schedule

variable {bids : List Bid} {coordinators : List Coordinator} {currentSlot lastClosedSlot : Int}

/-- `GetNextForgers` with no failing read lists every slot of a window below the largest
`int64` with its period, forged by the bidder of the slot's best bid whatever the bid's value,
and by `bootCoordinator` when the slot has no bid from a bidder with a coordinator record. -/
theorem apiGetNextForgers_eq (auctionConsts : AuctionConstants) (lastBlock : Block)
    (hids : (bids.map Bid.itemID).Nodup) (hcur : 0 ≤ currentSlot)
    (hlast : lastClosedSlot < 2 ^ 63 - 1) {fuel : Nat}
    (hfuel : (lastClosedSlot - currentSlot + 1).toNat < fuel) :
    apiGetNextForgers bids coordinators auctionConsts lastBlock ReadFailures.noFailure currentSlot
        lastClosedSlot fuel =
      some (.ok ((slotRange currentSlot lastClosedSlot).map fun s =>
        ⟨apiSlotForger bids coordinators s, slotPeriod auctionConsts lastBlock s⟩)) :=
  forSlots_eq hlast (by omega) (fun s hs => by
    simp only [ReadFailures.noFailure_getCoordinator, ReadFailures.read_none]
    rw [find?_getBestBidsAPI hids hcur (by omega) hs, slotBidRow, apiSlotForger]
    cases hb : bestBid bids s with
    | none => rfl
    | some b =>
        cases hc : latestCoordinator coordinators b.bidderAddr with
        | none => simp [hc]
        | some c =>
            simp only [Option.some_bind, Option.map_some', hc, getCoordinatorAPI]
            rfl) hfuel

end Schedule

section BestBid

variable {bids : List Bid} {coordinators : List Coordinator} {s : Int}

/-- A row of the join keeps its bid and takes forger and URL from the bidder's latest record. -/
theorem mem_bidsWithCoordinator {l : List Bid} {x : BidAPI} :
    x ∈ bidsWithCoordinator l coordinators ↔
      x.bid ∈ l ∧ ∃ c, latestCoordinator coordinators x.bid.bidderAddr = some c ∧
        x = ⟨x.bid, c.forgerAddr, c.url⟩ := by
  simp only [bidsWithCoordinator, List.mem_filterMap, Option.map_eq_some']
  constructor
  · rintro ⟨b, hb, c, hc, rfl⟩
    exact ⟨hb, c, hc, rfl⟩
  · rintro ⟨hb, c, hc, hx⟩
    exact ⟨x.bid, hb, c, hc, hx.symm⟩

/-- The rows `GetBestBidAPI` chooses from are the join's rows of the slot. -/
theorem mem_bidsWithCoordinator_slot {y : BidAPI} :
    y ∈ bidsWithCoordinator (bids.filter (·.slotNum == s)) coordinators ↔
      y ∈ bidsWithCoordinator bids coordinators ∧ y.bid.slotNum = s := by
  simp only [mem_bidsWithCoordinator, List.mem_filter, beq_iff_eq]
  tauto

theorem argmax_of_getBestBidAPI {y : BidAPI} (h : getBestBidAPI bids coordinators s = .ok y) :
    (bidsWithCoordinator (bids.filter (·.slotNum == s)) coordinators).argmax
      (·.bid.itemID) = some y := by
  unfold getBestBidAPI at h
  split at h
  · cases h
    assumption
  · cases h

/-- `GetBestBidAPI` returns, for a slot with a bid from a bidder with a coordinator record, the
latest such bid.  When the slot's latest bid has a record, this is the slot's row of
`GetBestBidsAPI`; otherwise `GetBestBidsAPI` has no row for the slot while `GetBestBidAPI`
returns an older bid. -/
theorem getBestBidAPI_spec (hids : (bids.map Bid.itemID).Nodup) :
    (∀ x, slotBidRow bids coordinators s = some x → getBestBidAPI bids coordinators s = .ok x) ∧
    ∀ y, getBestBidAPI bids coordinators s = .ok y →
      y ∈ bidsWithCoordinator bids coordinators ∧ y.bid.slotNum = s ∧
      ∀ b ∈ bids, b.slotNum = s → latestCoordinator coordinators b.bidderAddr ≠ none →
        b.itemID ≤ y.bid.itemID := by
  refine ⟨fun x hx => ?_, fun y hy => ?_⟩
  · -- the slot's row has the largest `item_id` of the slot's rows, and rows with equal ids agree
    simp only [slotBidRow, Option.bind_eq_some, Option.map_eq_some'] at hx
    obtain ⟨b, hb, c, hc, rfl⟩ := hx
    obtain ⟨hbs, hbmem⟩ := bestBid_slotNum hb
    have hx : (⟨b, c.forgerAddr, c.url⟩ : BidAPI) ∈
        bidsWithCoordinator (bids.filter (·.slotNum == s)) coordinators :=
      mem_bidsWithCoordinator_slot.mpr ⟨mem_bidsWithCoordinator.mpr ⟨hbmem, c, hc, rfl⟩, hbs⟩
    unfold getBestBidAPI
    cases hy : (bidsWithCoordinator (bids.filter (·.slotNum == s)) coordinators).argmax
        (·.bid.itemID) with
    | none => exact absurd (List.argmax_eq_none.mp hy ▸ hx) (List.not_mem_nil _)
    | some y =>
      obtain ⟨hymem, hys⟩ := mem_bidsWithCoordinator_slot.mp (List.argmax_mem hy)
      obtain ⟨hybids, cy, hcy, hyeq⟩ := mem_bidsWithCoordinator.mp hymem
      have hle : b.itemID ≤ y.bid.itemID :=
        List.le_of_mem_argmax (f := fun x : BidAPI => x.bid.itemID) hx hy
      have hge : y.bid.itemID ≤ b.itemID :=
        List.le_of_mem_argmax (List.mem_filter.mpr ⟨hybids, by simpa using hys⟩) hb
      have hbid : y.bid = b := List.inj_on_of_nodup_map hids hybids hbmem (le_antisymm hge hle)
      rw [hbid, hc] at hcy
      cases hcy
      rw [hyeq, hbid]
  · have hmax := argmax_of_getBestBidAPI hy
    obtain ⟨hymem, hys⟩ := mem_bidsWithCoordinator_slot.mp (List.argmax_mem hmax)
    refine ⟨hymem, hys, fun b hb hbs hbc => ?_⟩
    obtain ⟨c, hc⟩ := Option.ne_none_iff_exists'.mp hbc
    exact List.le_of_mem_argmax (f := fun x : BidAPI => x.bid.itemID)
      ((mem_bidsWithCoordinator_slot (y := ⟨b, c.forgerAddr, c.url⟩)).mpr
        ⟨mem_bidsWithCoordinator.mpr ⟨hb, c, hc, rfl⟩, hbs⟩) hmax

theorem getBestBidAPI_spec_older :
    let bids : List Bid := [⟨1, 5, 100, 7⟩, ⟨2, 5, 40, 8⟩]
    let coordinators : List Coordinator := [⟨1, 7, 70, "https://a"⟩]
    (bids.map Bid.itemID).Nodup ∧
      ((∀ x, slotBidRow bids coordinators 5 = some x → getBestBidAPI bids coordinators 5 = .ok x) ∧
      ∀ y, getBestBidAPI bids coordinators 5 = .ok y →
        y ∈ bidsWithCoordinator bids coordinators ∧ y.bid.slotNum = 5 ∧
        ∀ b ∈ bids, b.slotNum = 5 → latestCoordinator coordinators b.bidderAddr ≠ none →
          b.itemID ≤ y.bid.itemID) :=
  ⟨by decide, getBestBidAPI_spec (by decide)⟩

end BestBid

end HermezNode
