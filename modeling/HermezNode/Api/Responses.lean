import HermezNode.Api.HezString
import HermezNode.HistoryDB.Tables
import Mathlib.Data.List.GetD
import Mathlib.Data.List.Sort

namespace HermezNode

/-! The response structs of the API's history endpoints (api/dbtoapistructs.go), package
`api`'s own types, in namespace `Api`. -/

namespace Api

/-- `idxToHez`: `"hez:" + tokenSymbol + ":" + strconv.Itoa(int(idx))`, where `int` reads a
`uint64` of `2^63` or more as negative. -/
def idxToHez (idx : Idx) (tokenSymbol : String) : String :=
  "hez:" ++ tokenSymbol ++ ":" ++ toString (if idx < 2 ^ 63 then (idx : Int) else idx - 2 ^ 64)

/-- `ethAddrToHez`: `"hez:" + addr.String()`.  `Address.String` writes the EIP-55 checksummed
hex, whose Keccak-256 is not in the sources: it is the parameter `addrHex`. -/
def ethAddrToHez (addrHex : EthAddr → String) (addr : EthAddr) : String := "hez:" ++ addrHex addr

/-- `(*big.Int).String`, which writes `<nil>` for a nil pointer. -/
def bigIntString : Option Int → String
  | some n => toString n
  | none => "<nil>"

/-- A `historydb.HistoryTx` row, with the columns `historyTxsToAPI` converts or dereferences;
those it copies as they are (USD values, timestamp, token) are left out. -/
structure HistoryTx where
  isL1 : Bool
  txID : TxID
  itemID : Int
  type : TxType
  position : Int
  fromIdx : Option Idx
  toIdx : Idx
  amount : Option Int
  batchNum : Option Nat
  tokenSymbol : String
  toForgeL1TxsNum : Option Int
  userOrigin : Option Bool
  fromEthAddr : Option EthAddr
  fromBJJ : Option PublicKeyComp
  loadAmount : Option Int
  ethBlockNum : Int
  fee : Option FeeSelector
  nonce : Option Nonce
  deriving DecidableEq

structure L1Info where
  toForgeL1TxsNum : Option Int
  userOrigin : Bool
  fromEthAddr : String
  fromBJJ : String
  loadAmount : String
  ethBlockNum : Int
  deriving DecidableEq

structure L2Info where
  fee : FeeSelector
  nonce : Nonce
  deriving DecidableEq

structure HistoryTxAPI where
  isL1 : String
  txID : String
  itemID : Int
  type : TxType
  position : Int
  fromIdx : Option String
  toIdx : String
  amount : String
  batchNum : Option Nat
  l1Info : Option L1Info
  l2Info : Option L2Info
  deriving DecidableEq

/-- The columns `historyTxsToAPI` dereferences for the row's kind are all set. -/
def HistoryTx.Complete (dbTx : HistoryTx) : Prop :=
  if dbTx.isL1 then dbTx.userOrigin.isSome ∧ dbTx.fromEthAddr.isSome ∧ dbTx.fromBJJ.isSome
  else dbTx.fee.isSome ∧ dbTx.nonce.isSome

instance (dbTx : HistoryTx) : Decidable dbTx.Complete :=
  inferInstanceAs (Decidable (if _ then _ else _))

section Txs

variable (txIDString : TxID → String) (addrHex : EthAddr → String)

/-- One iteration of the loop of `historyTxsToAPI`.  `TxID.String` is not in the sources and
is the parameter `txIDString`. -/
def historyTxToAPI (dbTx : HistoryTx) : Except Failure HistoryTxAPI :=
  let apiTx : HistoryTxAPI := ⟨"", txIDString dbTx.txID, dbTx.itemID, dbTx.type, dbTx.position,
    dbTx.fromIdx.map (idxToHez · dbTx.tokenSymbol), idxToHez dbTx.toIdx dbTx.tokenSymbol,
    bigIntString dbTx.amount, dbTx.batchNum, none, none⟩
  if dbTx.isL1 then
    match dbTx.userOrigin, dbTx.fromEthAddr, dbTx.fromBJJ with
    | some userOrigin, some fromEthAddr, some fromBJJ =>
      .ok { apiTx with isL1 := "L1", l1Info := some ⟨dbTx.toForgeL1TxsNum, userOrigin,
        ethAddrToHez addrHex fromEthAddr, bjjToString fromBJJ, bigIntString dbTx.loadAmount,
        dbTx.ethBlockNum⟩ }
    | _, _, _ => .error nilPointerDereference
  else
    match dbTx.fee, dbTx.nonce with
    | some fee, some nonce => .ok { apiTx with isL1 := "L2", l2Info := some ⟨fee, nonce⟩ }
    | _, _ => .error nilPointerDereference

def historyTxsToAPI (dbTxs : List HistoryTx) : Except Failure (List HistoryTxAPI) :=
  dbTxs.mapM (historyTxToAPI txIDString addrHex)

/-- A row converts exactly when it is complete, keeping its item ID; otherwise its conversion
dereferences a nil pointer. -/
theorem historyTxToAPI_cases (dbTx : HistoryTx) :
    (dbTx.Complete ∧ ∃ apiTx, historyTxToAPI txIDString addrHex dbTx = .ok apiTx ∧
      apiTx.itemID = dbTx.itemID) ∨
    (¬ dbTx.Complete ∧ historyTxToAPI txIDString addrHex dbTx = .error nilPointerDereference) := by
  rcases dbTx with ⟨isL1, txID, itemID, type, position, fromIdx, toIdx, amount, batchNum,
    tokenSymbol, toForgeL1TxsNum, userOrigin, fromEthAddr, fromBJJ, loadAmount, ethBlockNum,
    fee, nonce⟩
  cases isL1
  · -- an L2 row: `Fee` and `Nonce` are dereferenced
    cases fee <;> cases nonce <;> simp [historyTxToAPI, HistoryTx.Complete]
  · -- an L1 row: `UserOrigin`, `FromEthAddr` and `FromBJJ` are dereferenced
    cases userOrigin <;> cases fromEthAddr <;> cases fromBJJ <;>
      simp [historyTxToAPI, HistoryTx.Complete]

theorem historyTxsToAPI_of_complete :
    {dbTxs : List HistoryTx} → (∀ dbTx ∈ dbTxs, dbTx.Complete) →
      ∃ apiTxs, historyTxsToAPI txIDString addrHex dbTxs = .ok apiTxs ∧
        apiTxs.map (·.itemID) = dbTxs.map (·.itemID)
  | [], _ => ⟨[], rfl, rfl⟩
  | dbTx :: dbTxs, h => by
    rcases historyTxToAPI_cases txIDString addrHex dbTx with
      ⟨-, apiTx, hok, hid⟩ | ⟨hnot, -⟩
    · obtain ⟨apiTxs, hrest, hids⟩ :=
        historyTxsToAPI_of_complete fun d hd => h d (List.mem_cons_of_mem _ hd)
      refine ⟨apiTx :: apiTxs, ?_, by rw [List.map_cons, List.map_cons, hid, hids]⟩
      rw [historyTxsToAPI] at hrest
      rw [historyTxsToAPI, List.mapM_cons, hok, ok_bind, hrest]
      rfl
    · exact absurd (h dbTx (List.mem_cons_self _ _)) hnot

theorem historyTxsToAPI_of_incomplete {dbTxs : List HistoryTx}
    (h : ∃ dbTx ∈ dbTxs, ¬ dbTx.Complete) :
    historyTxsToAPI txIDString addrHex dbTxs = .error nilPointerDereference := by
  induction dbTxs with
  | nil => simp at h
  | cons dbTx dbTxs ih =>
    rw [historyTxsToAPI, List.mapM_cons]
    rcases historyTxToAPI_cases txIDString addrHex dbTx with
      ⟨hc, apiTx, hok, -⟩ | ⟨-, herr⟩
    · obtain ⟨bad, hbad, hnot⟩ := h
      have hrest := ih ⟨bad, (List.mem_cons.mp hbad).resolve_left (by rintro rfl; exact hnot hc),
        hnot⟩
      rw [historyTxsToAPI] at hrest
      rw [hok, ok_bind, hrest]
      rfl
    · rw [herr]
      rfl

/-- `historyTxsToAPI` converts a page exactly when every row has the columns its kind
dereferences, one response per row in order; otherwise it panics with a nil pointer
dereference, and fails in no other way. -/
theorem historyTxsToAPI_eq_ok_iff (dbTxs : List HistoryTx) :
    ((∃ apiTxs, historyTxsToAPI txIDString addrHex dbTxs = .ok apiTxs ∧
        apiTxs.map (·.itemID) = dbTxs.map (·.itemID)) ↔ ∀ dbTx ∈ dbTxs, dbTx.Complete) ∧
    (historyTxsToAPI txIDString addrHex dbTxs = .error nilPointerDereference ↔
      ∃ dbTx ∈ dbTxs, ¬ dbTx.Complete) := by
  by_cases hall : ∀ dbTx ∈ dbTxs, dbTx.Complete
  · obtain ⟨apiTxs, hok, hids⟩ := historyTxsToAPI_of_complete txIDString addrHex hall
    refine ⟨⟨fun _ => hall, fun _ => ⟨apiTxs, hok, hids⟩⟩, ⟨fun herr => ?_, ?_⟩⟩
    · rw [hok] at herr
      cases herr
    · rintro ⟨dbTx, hmem, hnot⟩
      exact absurd (hall dbTx hmem) hnot
  · have hbad : ∃ dbTx ∈ dbTxs, ¬ dbTx.Complete := by simpa using hall
    have herr := historyTxsToAPI_of_incomplete txIDString addrHex hbad
    refine ⟨⟨?_, fun h => absurd h hall⟩, ⟨fun _ => hbad, fun _ => herr⟩⟩
    rintro ⟨apiTxs, hok, -⟩
    rw [herr] at hok
    cases hok

end Txs

/-- `historydb.HistoryExit`, with the columns `historyExitsToAPI` converts; the Merkle proof
and the token, copied as they are, are left out. -/
structure HistoryExit where
  itemID : Int
  batchNum : Nat
  accountIdx : Idx
  tokenSymbol : String
  balance : Option Int
  instantWithdrawn : Option Int
  delayedWithdrawRequest : Option Int
  delayedWithdrawn : Option Int
  deriving DecidableEq

structure ExitAPI where
  itemID : Int
  batchNum : Nat
  accountIdx : String
  balance : String
  instantWithdrawn : Option Int
  delayedWithdrawRequest : Option Int
  delayedWithdrawn : Option Int
  deriving DecidableEq

/-- `historyExitsToAPI`, which dereferences nothing. -/
def historyExitsToAPI (dbExits : List HistoryExit) : List ExitAPI :=
  dbExits.map fun e => ⟨e.itemID, e.batchNum, idxToHez e.accountIdx e.tokenSymbol,
    bigIntString e.balance, e.instantWithdrawn, e.delayedWithdrawRequest, e.delayedWithdrawn⟩

/-- `db.Pagination`, with the two fields `GetPagination` writes; the others are left out. -/
structure Pagination where
  firstReturnedItem : Int
  lastReturnedItem : Int
  deriving DecidableEq

/-- The `GetPagination` of `historyTxsAPI` and `exitsAPI`, on the item IDs of the page: it
compares the first and the last row and writes the smaller as the first returned item
through the struct's `*db.Pagination`. -/
def getPaginationOf (itemIDs : List Int) (pagination : Option Pagination) :
    Except Failure Pagination := do
  let first ← index itemIDs 0
  let last ← index itemIDs (itemIDs.length - 1)
  match pagination with
  | none => .error nilPointerDereference
  | some p =>
    if first < last then pure { p with firstReturnedItem := first, lastReturnedItem := last }
    else pure { p with lastReturnedItem := first, firstReturnedItem := last }

structure HistoryTxsAPI where
  txs : List HistoryTxAPI
  pagination : Option Pagination
  deriving DecidableEq

def HistoryTxsAPI.getPagination (htx : HistoryTxsAPI) : Except Failure Pagination :=
  getPaginationOf (htx.txs.map (·.itemID)) htx.pagination

structure ExitsAPI where
  exits : List ExitAPI
  pagination : Option Pagination
  deriving DecidableEq

def ExitsAPI.getPagination (e : ExitsAPI) : Except Failure Pagination :=
  getPaginationOf (e.exits.map (·.itemID)) e.pagination

section Pagination

/-- In a list sorted by a reflexive order, the first element comes before every element and
the last after. -/
theorem getD_bounds_of_sorted {r : Int → Int → Prop} [IsRefl Int r] {l : List Int}
    (h : l.Sorted r) {i : Int} (hi : i ∈ l) :
    r (l.getD 0 0) i ∧ r i (l.getD (l.length - 1) 0) := by
  obtain ⟨k, hk, rfl⟩ := List.getElem_of_mem hi
  rw [List.getD_eq_getElem l 0 (by omega), List.getD_eq_getElem l 0 (by omega)]
  exact ⟨h.rel_get_of_le (a := ⟨0, by omega⟩) (b := ⟨k, hk⟩) (Nat.zero_le k),
    h.rel_get_of_le (a := ⟨k, hk⟩) (b := ⟨l.length - 1, by omega⟩) (Fin.mk_le_mk.mpr (by omega))⟩

theorem getPaginationOf_eq {itemIDs : List Int} (hlen : 0 < itemIDs.length) (p : Pagination) :
    getPaginationOf itemIDs (some p) =
      if itemIDs.getD 0 0 < itemIDs.getD (itemIDs.length - 1) 0 then
        .ok ⟨itemIDs.getD 0 0, itemIDs.getD (itemIDs.length - 1) 0⟩
      else .ok ⟨itemIDs.getD (itemIDs.length - 1) 0, itemIDs.getD 0 0⟩ := by
  have hfirst : index itemIDs 0 = .ok (itemIDs.getD 0 0) := index_getD le_rfl (by omega) 0
  have hlast : index itemIDs (itemIDs.length - 1) = .ok (itemIDs.getD (itemIDs.length - 1) 0) := by
    rw [index_getD (by omega) (by omega) 0]
    congr 2
    omega
  simp only [getPaginationOf, hfirst, hlast, ok_bind]
  rfl

/-- On a page ordered by item ID, ascending or descending, `GetPagination` reports the lowest
item ID of the page as the first returned item and the highest as the last. -/
theorem getPaginationOf_sorted {itemIDs : List Int} (p : Pagination) (hne : itemIDs ≠ [])
    (hsorted : itemIDs.Sorted (· ≤ ·) ∨ itemIDs.Sorted (· ≥ ·)) :
    ∃ p', getPaginationOf itemIDs (some p) = .ok p' ∧
      p'.firstReturnedItem ∈ itemIDs ∧ p'.lastReturnedItem ∈ itemIDs ∧
      ∀ i ∈ itemIDs, p'.firstReturnedItem ≤ i ∧ i ≤ p'.lastReturnedItem := by
  have hlen : 0 < itemIDs.length := List.length_pos.mpr hne
  have hmem_first : itemIDs.getD 0 0 ∈ itemIDs :=
    List.getD_eq_getElem _ _ hlen ▸ List.getElem_mem hlen
  have hlast : itemIDs.length - 1 < itemIDs.length := by omega
  have hmem_last : itemIDs.getD (itemIDs.length - 1) 0 ∈ itemIDs :=
    List.getD_eq_getElem _ _ hlast ▸ List.getElem_mem hlast
  rw [getPaginationOf_eq hlen]
  rcases hsorted with hs | hs
  · -- ascending: the first row is the lowest
    have hb := fun i hi => getD_bounds_of_sorted hs (i := i) hi
    split
    · exact ⟨_, rfl, hmem_first, hmem_last, hb⟩
    · rename_i hnot
      have heq := le_antisymm (hb _ hmem_last).1 (not_lt.mp hnot)
      exact ⟨_, rfl, hmem_last, hmem_first, fun i hi => ⟨heq ▸ (hb i hi).1, heq ▸ (hb i hi).2⟩⟩
  · -- descending: the last row is the lowest
    have hb := fun i hi => getD_bounds_of_sorted hs (i := i) hi
    split
    · rename_i hlt
      exact absurd (hb _ hmem_first).2 (not_le.mpr hlt)
    · exact ⟨_, rfl, hmem_last, hmem_first, fun i hi => ⟨(hb i hi).2, (hb i hi).1⟩⟩

theorem getPaginationOf_sorted_desc :
    ([5, 3, 2] : List Int) ≠ [] ∧
      (([5, 3, 2] : List Int).Sorted (· ≤ ·) ∨ ([5, 3, 2] : List Int).Sorted (· ≥ ·)) ∧
      ∃ p', getPaginationOf [5, 3, 2] (some ⟨0, 0⟩) = .ok p' ∧
        p'.firstReturnedItem ∈ ([5, 3, 2] : List Int) ∧ p'.lastReturnedItem ∈ ([5, 3, 2] : List Int) ∧
        ∀ i ∈ ([5, 3, 2] : List Int), p'.firstReturnedItem ≤ i ∧ i ≤ p'.lastReturnedItem :=
  ⟨by decide, .inr (by decide), getPaginationOf_sorted ⟨0, 0⟩ (by decide) (.inr (by decide))⟩

end Pagination

end Api

end HermezNode
