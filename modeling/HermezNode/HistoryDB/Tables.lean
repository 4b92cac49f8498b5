import HermezNode.Common.L2Tx
import Mathlib.Data.List.MinMax
import Mathlib.Data.List.Nodup

namespace HermezNode

/-! Rows of the `HistoryDB` tables that the modelled queries and the synchronizer read, with
the columns they read, and the joins on the coordinator table. -/

/-- `ethCommon.Address`, the 20 bytes read as a number. -/
abbrev EthAddr := Nat

/-- `ethCommon.Hash`.  A block hash is modelled collision-free, by the payloads of the block
and of all its ancestors, newest first. -/
abbrev Hash := List Nat

/-- `common.Block`, a row of the `block` table; `timestamp` in Unix seconds. -/
structure Block where
  num : Int
  timestamp : Int
  hash : Hash
  parentHash : Hash
  deriving DecidableEq, Repr

/-- A `bid` row. -/
structure Bid where
  itemID : Nat
  slotNum : Int
  bidValue : Nat
  bidderAddr : EthAddr
  deriving DecidableEq, Repr

/-- A `coordinator` row: one per update of a bidder's forger address and URL. -/
structure Coordinator where
  itemID : Nat
  bidderAddr : EthAddr
  forgerAddr : EthAddr
  url : String
  deriving DecidableEq, Repr

/-- `INNER JOIN (SELECT bidder_addr, MAX(item_id) AS item_id FROM coordinator GROUP BY
bidder_addr) c … INNER JOIN coordinator ON c.item_id = coordinator.item_id`: the latest
record of a bidder. -/
def latestCoordinator (coordinators : List Coordinator) (bidderAddr : EthAddr) :
    Option Coordinator :=
  (coordinators.filter (·.bidderAddr == bidderAddr)).argmax Coordinator.itemID

/-- With distinct `item_id`s, the latest record of a bidder is its record of highest
`item_id`. -/
theorem latestCoordinator_eq_some_iff {coordinators : List Coordinator} {bidderAddr : EthAddr}
    {c : Coordinator} (hids : (coordinators.map Coordinator.itemID).Nodup) :
    latestCoordinator coordinators bidderAddr = some c ↔
      c ∈ coordinators ∧ c.bidderAddr = bidderAddr ∧
        ∀ c' ∈ coordinators, c'.bidderAddr = bidderAddr → c'.itemID ≤ c.itemID := by
  have hfilter : ∀ {c'}, c' ∈ coordinators.filter (·.bidderAddr == bidderAddr) ↔
      c' ∈ coordinators ∧ c'.bidderAddr = bidderAddr := by simp
  constructor
  · intro h
    obtain ⟨hmem, hbidder⟩ := hfilter.mp (List.argmax_mem h)
    exact ⟨hmem, hbidder, fun c' hc' hb' => List.le_of_mem_argmax (hfilter.mpr ⟨hc', hb'⟩) h⟩
  · rintro ⟨hmem, hbidder, hmax⟩
    unfold latestCoordinator
    cases hm : (coordinators.filter (·.bidderAddr == bidderAddr)).argmax Coordinator.itemID with
    | none => exact absurd (List.argmax_eq_none.mp hm ▸ hfilter.mpr ⟨hmem, hbidder⟩) (List.not_mem_nil c)
    | some m =>
      obtain ⟨hmmem, hmbidder⟩ := hfilter.mp (List.argmax_mem hm)
      have hle : c.itemID ≤ m.itemID := List.le_of_mem_argmax (hfilter.mpr ⟨hmem, hbidder⟩) hm
      rw [List.inj_on_of_nodup_map hids hmmem hmem (le_antisymm (hmax m hmmem hmbidder) hle)]

/-- The latest record of every bidder, the `FROM` clause of `GetCoordinatorsAPI`. -/
def latestCoordinators (coordinators : List Coordinator) : List Coordinator :=
  coordinators.filter fun c => latestCoordinator coordinators c.bidderAddr == some c

/-- `BidAPI`: a bid with the forger address and URL of its bidder's latest record. -/
structure BidAPI where
  bid : Bid
  forgerAddr : EthAddr
  url : String
  deriving DecidableEq, Repr

/-- `bid INNER JOIN … coordinator`: the bids of bidders with a coordinator record, each with
the latest one. -/
def bidsWithCoordinator (bids : List Bid) (coordinators : List Coordinator) : List BidAPI :=
  bids.filterMap fun b =>
    (latestCoordinator coordinators b.bidderAddr).map fun c => ⟨b, c.forgerAddr, c.url⟩

end HermezNode
