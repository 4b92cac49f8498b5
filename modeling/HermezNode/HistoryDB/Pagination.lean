import HermezNode.HistoryDB.Tables
import Mathlib.Data.List.Sort
import Mathlib.Data.UInt

namespace HermezNode

/-! The paginated read queries of `HistoryDB` (historydb.go). -/

/-- Modelled from the spec: `OrderAsc`, the `order=ASC` of the query API.  Every other value
of `order` sorts descending. -/
def orderAsc : String := "ASC"

section Page

variable {ρ : Type} (itemID : ρ → Nat)

/-- `ORDER BY item_id ASC` (`asc`) or `DESC`: whether `a` may come before `b`. -/
def sortsBefore (asc : Bool) (a b : ρ) : Bool :=
  if asc then itemID a ≤ itemID b else itemID b ≤ itemID a

/-- The cursor `item_id >= fromItem` (ascending) or `item_id <= fromItem` (descending). -/
def fromItemFilter (asc : Bool) (fromItem : Option Nat) (r : ρ) : Bool :=
  fromItem.all fun f => if asc then f ≤ itemID r else itemID r ≤ f

/-- The rows of the `WHERE` clause: the query's filters `cond` and the cursor. -/
def whereRows (rows : List ρ) (cond : ρ → Bool) (asc : Bool) (fromItem : Option Nat) :
    List ρ :=
  rows.filter fun r => cond r && fromItemFilter itemID asc fromItem r

/-- The rows of the `WHERE` clause in their `ORDER BY` order. -/
def orderedRows (rows : List ρ) (cond : ρ → Bool) (asc : Bool) (fromItem : Option Nat) :
    List ρ :=
  (whereRows itemID rows cond asc fromItem).insertionSort fun a b => sortsBefore itemID asc a b

/-- `SELECT …, COUNT(*) OVER() AS total_items … ORDER BY item_id … LIMIT limit`: the rows
returned and the `total_items` each of them carries. -/
def selectPage (rows : List ρ) (cond : ρ → Bool) (order : String) (fromItem : Option Nat)
    (limit : Nat) : List ρ × Nat :=
  let asc := order == orderAsc
  ((orderedRows itemID rows cond asc fromItem).take limit,
    (whereRows itemID rows cond asc fromItem).length)

/-- The end of every paginated query but `GetTokensAPI`: an empty page has no pending items,
otherwise `items[0].TotalItems - uint64(len(items))`. -/
def paginate (rows : List ρ) (cond : ρ → Bool) (order : String) (fromItem : Option Nat)
    (limit : Nat) : List ρ × UInt64 :=
  let page := selectPage itemID rows cond order fromItem limit
  if page.1.length = 0 then (page.1, 0)
  else (page.1, UInt64.ofNat page.2 - UInt64.ofNat page.1.length)

/-! ### What a page is -/

/-- A row's place in the requested order: its `item_id` ascending, the negation descending. -/
def orderKey (asc : Bool) (r : ρ) : Int :=
  if asc then (itemID r : Int) else -(itemID r : Int)

/-- The rows passing the filters strictly beyond `last` in the requested order. -/
def rowsBeyond (rows : List ρ) (cond : ρ → Bool) (asc : Bool) (last : ρ) : List ρ :=
  rows.filter fun r => cond r && decide (orderKey itemID asc last < orderKey itemID asc r)

/-- The cursor of the following page: `last + 1` ascending, `last - 1` descending. -/
def nextFromItem (asc : Bool) (last : ρ) : Nat :=
  if asc then itemID last + 1 else itemID last - 1

variable {itemID} {rows : List ρ} {cond : ρ → Bool} {asc : Bool} {fromItem : Option Nat}

theorem sortsBefore_iff {a b : ρ} :
    sortsBefore itemID asc a b = true ↔ orderKey itemID asc a ≤ orderKey itemID asc b := by
  cases asc <;> simp [sortsBefore, orderKey]

theorem itemID_eq_of_orderKey_eq {a b : ρ} (h : orderKey itemID asc a = orderKey itemID asc b) :
    itemID a = itemID b := by
  cases asc <;> simp only [orderKey, Bool.false_eq_true, if_false, if_true] at h <;> omega

theorem fromItemFilter_mono {a b : ρ} (ha : fromItemFilter itemID asc fromItem a = true)
    (hab : orderKey itemID asc a ≤ orderKey itemID asc b) :
    fromItemFilter itemID asc fromItem b = true := by
  cases fromItem <;> cases asc <;> simp_all [fromItemFilter, orderKey] <;> omega

theorem fromItemFilter_nextFromItem {last r : ρ} (hnext : asc = true ∨ 0 < itemID last) :
    fromItemFilter itemID asc (some (nextFromItem itemID asc last)) r = true ↔
      orderKey itemID asc last < orderKey itemID asc r := by
  cases asc <;> simp_all [fromItemFilter, nextFromItem, orderKey] <;> omega

theorem mem_whereRows {r : ρ} :
    r ∈ whereRows itemID rows cond asc fromItem ↔
      r ∈ rows ∧ cond r = true ∧ fromItemFilter itemID asc fromItem r = true := by
  simp [whereRows]

theorem mem_rowsBeyond {last r : ρ} :
    r ∈ rowsBeyond itemID rows cond asc last ↔
      r ∈ rows ∧ cond r = true ∧ orderKey itemID asc last < orderKey itemID asc r := by
  simp [rowsBeyond]

theorem orderedRows_perm :
    (orderedRows itemID rows cond asc fromItem).Perm (whereRows itemID rows cond asc fromItem) :=
  List.perm_insertionSort _ _

theorem nodup_whereRows (hids : (rows.map itemID).Nodup) :
    (whereRows itemID rows cond asc fromItem).Nodup :=
  (hids.of_map itemID).filter _

/-- With distinct `item_id`s the result set is strictly ordered. -/
theorem orderedRows_sorted (hids : (rows.map itemID).Nodup) :
    (orderedRows itemID rows cond asc fromItem).Sorted
      fun a b => orderKey itemID asc a < orderKey itemID asc b := by
  have htotal : IsTotal ρ fun a b => sortsBefore itemID asc a b = true :=
    ⟨fun a b => by simp only [sortsBefore_iff]; omega⟩
  have htrans : IsTrans ρ fun a b => sortsBefore itemID asc a b = true :=
    ⟨fun a b c => by simp only [sortsBefore_iff]; omega⟩
  have hle := List.sorted_insertionSort (fun a b => sortsBefore itemID asc a b = true)
    (whereRows itemID rows cond asc fromItem)
  have hne : ((orderedRows itemID rows cond asc fromItem).map itemID).Nodup :=
    (List.Perm.map itemID orderedRows_perm).nodup_iff.mpr (hids.sublist ((List.filter_sublist _).map itemID))
  exact (hle.and (List.pairwise_map.mp hne)).imp fun ⟨hab, hid⟩ =>
    lt_of_le_of_ne (sortsBefore_iff.mp hab) fun h => hid (itemID_eq_of_orderKey_eq h)

/-- In a strictly ordered list, what follows `x` is exactly what lies beyond it. -/
theorem mem_suffix_iff_of_sorted {k : ρ → Int} {t d : List ρ} {x r : ρ}
    (hs : (t ++ x :: d).Sorted fun a b => k a < k b) :
    r ∈ d ↔ r ∈ t ++ x :: d ∧ k x < k r := by
  rw [List.Sorted, List.pairwise_append, List.pairwise_cons] at hs
  obtain ⟨-, ⟨hx, -⟩, hcross⟩ := hs
  constructor
  · intro hr
    exact ⟨by simp [hr], hx r hr⟩
  · rintro ⟨hr, hlt⟩
    simp only [List.mem_append, List.mem_cons] at hr
    rcases hr with hr | rfl | hr
    · exact absurd (hcross r hr x (List.mem_cons_self _ _)) (by omega)
    · exact absurd hlt (lt_irrefl _)
    · exact hr

/-- Past the last row of a page lie exactly the rows the page left out. -/
theorem rowsBeyond_perm_drop (hids : (rows.map itemID).Nodup) {limit : Nat} {last : ρ}
    (hlast : ((orderedRows itemID rows cond asc fromItem).take limit).getLast? = some last) :
    (rowsBeyond itemID rows cond asc last).Perm
      ((orderedRows itemID rows cond asc fromItem).drop limit) := by
  obtain ⟨ys, hys⟩ := List.getLast?_eq_some_iff.mp hlast
  have hsplit : orderedRows itemID rows cond asc fromItem =
      ys ++ last :: (orderedRows itemID rows cond asc fromItem).drop limit := by
    conv_lhs => rw [← List.take_append_drop limit (orderedRows itemID rows cond asc fromItem)]
    rw [hys]
    simp
  have hsorted : (orderedRows itemID rows cond asc fromItem).Sorted _ := orderedRows_sorted hids
  rw [hsplit] at hsorted
  have hlastW : last ∈ whereRows itemID rows cond asc fromItem :=
    orderedRows_perm.subset (by rw [hsplit]; simp)
  have hnodup : (orderedRows itemID rows cond asc fromItem).Nodup :=
    orderedRows_perm.nodup_iff.mpr (nodup_whereRows hids)
  have hbeyond : (rowsBeyond itemID rows cond asc last).Nodup := (hids.of_map itemID).filter _
  refine (List.perm_ext_iff_of_nodup hbeyond
    (hnodup.sublist (List.drop_sublist _ _))).mpr fun r => ?_
  rw [mem_rowsBeyond, mem_suffix_iff_of_sorted hsorted, ← hsplit,
    orderedRows_perm.mem_iff, mem_whereRows]
  have hcursor := (mem_whereRows.mp hlastW).2.2
  constructor
  · rintro ⟨hr, hc, hlt⟩
    exact ⟨⟨hr, hc, fromItemFilter_mono hcursor hlt.le⟩, hlt⟩
  · rintro ⟨⟨hr, hc, -⟩, hlt⟩
    exact ⟨hr, hc, hlt⟩

theorem whereRows_nextFromItem {last : ρ} (hnext : asc = true ∨ 0 < itemID last) :
    whereRows itemID rows cond asc (some (nextFromItem itemID asc last)) =
      rowsBeyond itemID rows cond asc last :=
  List.filter_congr fun r _ =>
    Bool.eq_iff_iff.mpr (by simp [fromItemFilter_nextFromItem hnext])

/-- The query from the cursor after a page's last row orders exactly the rows the page left
out. -/
theorem orderedRows_nextFromItem (hids : (rows.map itemID).Nodup) {limit : Nat} {last : ρ}
    (hlast : ((orderedRows itemID rows cond asc fromItem).take limit).getLast? = some last)
    (hnext : asc = true ∨ 0 < itemID last) :
    orderedRows itemID rows cond asc (some (nextFromItem itemID asc last)) =
      (orderedRows itemID rows cond asc fromItem).drop limit := by
  have hanti : IsAntisymm ρ fun a b => orderKey itemID asc a < orderKey itemID asc b :=
    ⟨fun a b hab hba => absurd (hab.trans hba) (lt_irrefl _)⟩
  refine List.eq_of_perm_of_sorted ?_ (orderedRows_sorted hids)
    ((orderedRows_sorted hids).sublist (List.drop_sublist _ _))
  exact orderedRows_perm.trans
    (by rw [whereRows_nextFromItem hnext]; exact rowsBeyond_perm_drop hids hlast)

end Page

theorem toNat_ofNat_sub_ofNat {a b : Nat} (hba : b ≤ a) (ha : a < UInt64.size) :
    (UInt64.ofNat a - UInt64.ofNat b).toNat = a - b := by
  have hb : b < UInt64.size := by omega
  rw [UInt64.toNat_sub_of_le _ _ (by rw [UInt64.le_def, BitVec.le_def,
    UInt64.toBitVec_eq_of_lt ha, UInt64.toBitVec_eq_of_lt hb]; exact hba),
    UInt64.toNat_ofNat_of_lt ha, UInt64.toNat_ofNat_of_lt hb]

section Paginate

variable {ρ : Type} {itemID : ρ → Nat} {rows : List ρ} {cond : ρ → Bool} {order : String}
  {fromItem : Option Nat} {limit : Nat}

theorem paginate_fst :
    (paginate itemID rows cond order fromItem limit).1 =
      (orderedRows itemID rows cond (order == orderAsc) fromItem).take limit := by
  dsimp only [paginate]
  split <;> rfl

/-- `pendingItems` counts the rows of the result set the page left out. -/
theorem paginate_snd_toNat (hsize : rows.length < UInt64.size) (hlimit : 0 < limit) :
    (paginate itemID rows cond order fromItem limit).2.toNat =
      ((orderedRows itemID rows cond (order == orderAsc) fromItem).drop limit).length := by
  have hlen : (orderedRows itemID rows cond (order == orderAsc) fromItem).length =
      (whereRows itemID rows cond (order == orderAsc) fromItem).length :=
    orderedRows_perm.length_eq
  have hW : (whereRows itemID rows cond (order == orderAsc) fromItem).length ≤ rows.length :=
    List.length_filter_le _ _
  dsimp only [paginate, selectPage]
  split
  · rename_i hempty
    simp only [List.length_take, List.length_drop, UInt64.toNat_zero] at hempty ⊢
    omega
  · rw [toNat_ofNat_sub_ofNat (by simp only [List.length_take]; omega) (by omega)]
    simp only [List.length_take, List.length_drop]
    omega

/-- The pagination law: the page is the first `limit` rows of the result set in the requested
order; `pendingItems` is the number of rows passing the filters beyond the page's last row (0
for an empty page), so it is 0 exactly on the last page; and the query from the cursor after
the last row returns the rows that follow, disjoint from the page. -/
def PaginationLaw {ρ : Type} (itemID : ρ → Nat) (rows : List ρ) (cond : ρ → Bool) (order : String)
    (fromItem : Option Nat) (limit : Nat) : Prop :=
  let asc := order == orderAsc
  let result := whereRows itemID rows cond asc fromItem
  let page := paginate itemID rows cond order fromItem limit
  (∃ rest, (page.1 ++ rest).Perm result ∧
    (page.1 ++ rest).Sorted (fun a b => orderKey itemID asc a < orderKey itemID asc b) ∧
    page.1.length = min limit result.length) ∧
  page.1.getLast?.elim 0 (fun last => (rowsBeyond itemID rows cond asc last).length) =
    page.2.toNat ∧
  (page.2 = 0 ↔ page.1.length = result.length) ∧
  ∀ last ∈ page.1.getLast?, (asc = true ∨ 0 < itemID last) → ∀ limit' : Nat,
    let next := (paginate itemID rows cond order (some (nextFromItem itemID asc last)) limit').1
    page.1.Disjoint next ∧ ∃ rest, (page.1 ++ next ++ rest).Perm result ∧
      (page.1 ++ next ++ rest).Sorted
        (fun a b => orderKey itemID asc a < orderKey itemID asc b) ∧
      next.length = min limit' (result.length - page.1.length)

/-- Every paginated query but `GetTokensAPI` obeys the pagination law, over any rows with
distinct `item_id`s (fewer than `2^64` of them), any filters, cursor and order, and any
`limit ≥ 1`. -/
theorem paginate_spec (hids : (rows.map itemID).Nodup) (hsize : rows.length < UInt64.size)
    (hlimit : 0 < limit) : PaginationLaw itemID rows cond order fromItem limit := by
  unfold PaginationLaw
  intro asc result page
  have hpage : page.1 = (orderedRows itemID rows cond asc fromItem).take limit := paginate_fst
  have hzero : page.2 = 0 ↔ page.2.toNat = 0 :=
    ⟨fun h => by rw [h]; rfl, fun h => UInt64.toNat.inj (h.trans UInt64.toNat_zero.symm)⟩
  have hpending : page.2.toNat = ((orderedRows itemID rows cond asc fromItem).drop limit).length :=
    paginate_snd_toNat hsize hlimit
  have hlen : (orderedRows itemID rows cond asc fromItem).length = result.length :=
    orderedRows_perm.length_eq
  have hsorted : (orderedRows itemID rows cond asc fromItem).Sorted
      (fun a b => orderKey itemID asc a < orderKey itemID asc b) := orderedRows_sorted hids
  have hnodup : (orderedRows itemID rows cond asc fromItem).Nodup :=
    orderedRows_perm.nodup_iff.mpr (nodup_whereRows hids)
  rw [hzero, hpending, hpage]
  refine ⟨⟨_, by rw [List.take_append_drop]; exact orderedRows_perm,
    by rw [List.take_append_drop]; exact hsorted, by rw [List.length_take, hlen]⟩, ?_, ?_, ?_⟩
  · cases hlast : ((orderedRows itemID rows cond asc fromItem).take limit).getLast? with
    | none =>
        rw [List.getLast?_eq_none_iff, List.take_eq_nil_iff] at hlast
        rcases hlast with h | h
        · omega
        · simp [h]
    | some last => exact (rowsBeyond_perm_drop hids hlast).length_eq
  · simp only [List.length_drop, List.length_take]
    omega
  · intro last hlast hnext limit'
    have hfollow : (paginate itemID rows cond order (some (nextFromItem itemID asc last)) limit').1 =
        ((orderedRows itemID rows cond asc fromItem).drop limit).take limit' := by
      rw [paginate_fst]
      exact congrArg _ (orderedRows_nextFromItem hids hlast hnext)
    have hsplit : (orderedRows itemID rows cond asc fromItem).take limit ++
        ((orderedRows itemID rows cond asc fromItem).drop limit).take limit' ++
        ((orderedRows itemID rows cond asc fromItem).drop limit).drop limit' =
        orderedRows itemID rows cond asc fromItem := by
      rw [List.append_assoc, List.take_append_drop, List.take_append_drop]
    have hfront : ((orderedRows itemID rows cond asc fromItem).take limit ++
        ((orderedRows itemID rows cond asc fromItem).drop limit).take limit' ++
        ((orderedRows itemID rows cond asc fromItem).drop limit).drop limit').Nodup := by
      rw [hsplit]
      exact hnodup
    rw [hfollow]
    refine ⟨List.disjoint_of_nodup_append (hfront.sublist (List.sublist_append_left _ _)), _,
      by rw [hsplit]; exact orderedRows_perm, by rw [hsplit]; exact hsorted, ?_⟩
    simp only [List.length_take, List.length_drop]
    omega

theorem paginate_spec_desc :
    PaginationLaw id [3, 1, 4, 2] (fun n => n != 2) "DESC" (some 3) 1 :=
  paginate_spec (by decide) (by decide) (by decide)

end Paginate

/-! ### The queries -/

/-- `if ethAddr != nil && bjj != nil`: the address and key filters exclude each other. -/
def checkOwnerFilters (ethAddr : Option EthAddr) (bjj : Option PublicKeyComp) :
    Except Failure Unit :=
  if ethAddr.isSome && bjj.isSome then .error (.error "ethAddr and bjj are incompatible")
  else .ok ()

/-- `if ethAddr != nil { … } else if bjj != nil { … }`: the address filter when one is given,
otherwise the key filter. -/
def ownerFilter (ethAddr : Option EthAddr) (bjj : Option PublicKeyComp)
    (byAddr : EthAddr → Bool) (byKey : PublicKeyComp → Bool) : Bool :=
  match ethAddr, bjj with
  | some a, _ => byAddr a
  | none, some k => byKey k
  | none, none => true

theorem checkOwnerFilters_eq_ok_iff {ethAddr : Option EthAddr} {bjj : Option PublicKeyComp} :
    checkOwnerFilters ethAddr bjj = .ok () ↔ ethAddr = none ∨ bjj = none := by
  cases ethAddr <;> cases bjj <;> simp [checkOwnerFilters]

/-- A `batch` row joined with its block, with the columns `GetBatchesAPI` filters on. -/
structure BatchAPI where
  itemID : Nat
  batchNum : Nat
  slotNum : Nat
  forgerAddr : EthAddr
  deriving DecidableEq, Repr

def getBatchesAPI (batches : List BatchAPI) (minBatchNum maxBatchNum slotNum : Option Nat)
    (forgerAddr : Option EthAddr) (fromItem : Option Nat) (limit : Nat) (order : String) :
    Except Failure (List BatchAPI × UInt64) :=
  .ok (paginate BatchAPI.itemID batches (fun batch =>
      minBatchNum.all (· < batch.batchNum) && maxBatchNum.all (batch.batchNum < ·) &&
        slotNum.all (· == batch.slotNum) && forgerAddr.all (· == batch.forgerAddr))
    order fromItem limit)

def getBidsAPI (bids : List Bid) (coordinators : List Coordinator) (slotNum : Option Int)
    (bidderAddr : Option EthAddr) (fromItem : Option Nat) (limit : Nat) (order : String) :
    Except Failure (List BidAPI × UInt64) :=
  .ok (paginate (·.bid.itemID) (bidsWithCoordinator bids coordinators) (fun b =>
      slotNum.all (· == b.bid.slotNum) && bidderAddr.all (· == b.bid.bidderAddr))
    order fromItem limit)

/-- A `token` row, with the columns `GetTokensAPI` filters on. -/
structure TokenWithUSD where
  itemID : Nat
  tokenID : TokenID
  symbol : String
  name : String
  deriving DecidableEq, Repr

/-- The filters of `GetTokensAPI`; `nameMatches` is PostgreSQL's regular-expression match
`name ~ ?`. -/
def tokensFilter (nameMatches : String → String → Bool) (ids : List TokenID)
    (symbols : List String) (name : String) (token : TokenWithUSD) : Bool :=
  (ids.isEmpty || ids.contains token.tokenID) && (symbols.isEmpty || symbols.contains token.symbol) &&
    (name == "" || nameMatches token.name name)

/-- `GetTokensAPI`, which computes `uint64(len(tokens)) - tokens[0].TotalItems`. -/
def getTokensAPI (nameMatches : String → String → Bool) (tokens : List TokenWithUSD)
    (ids : List TokenID) (symbols : List String) (name : String) (fromItem : Option Nat)
    (limit : Nat) (order : String) : Except Failure (List TokenWithUSD × UInt64) :=
  let page := selectPage TokenWithUSD.itemID tokens (tokensFilter nameMatches ids symbols name)
    order fromItem limit
  if page.1.length = 0 then .ok (page.1, 0)
  else .ok (page.1, UInt64.ofNat page.1.length - UInt64.ofNat page.2)

/-- `GetTokensAPI` returns the page the other queries would, with `pendingItems` negated
modulo `2^64`. -/
theorem getTokensAPI_eq_neg_paginate (nameMatches : String → String → Bool)
    (tokens : List TokenWithUSD) (ids : List TokenID) (symbols : List String) (name : String)
    (fromItem : Option Nat) (limit : Nat) (order : String) :
    getTokensAPI nameMatches tokens ids symbols name fromItem limit order =
      let page := paginate TokenWithUSD.itemID tokens (tokensFilter nameMatches ids symbols name)
        order fromItem limit
      .ok (page.1, -page.2) := by
  dsimp only [getTokensAPI, paginate]
  split <;> simp [neg_sub]

theorem getTokensAPI_pendingItems_wraps :
    getTokensAPI (fun _ _ => true) [⟨1, 1, "HEZ", "Hermez"⟩, ⟨2, 2, "DAI", "Dai"⟩] [] [] "" none 1
        orderAsc = .ok ([⟨1, 1, "HEZ", "Hermez"⟩], 18446744073709551615) ∧
      (rowsBeyond TokenWithUSD.itemID [⟨1, 1, "HEZ", "Hermez"⟩, ⟨2, 2, "DAI", "Dai"⟩]
        (tokensFilter (fun _ _ => true) [] [] "") true ⟨1, 1, "HEZ", "Hermez"⟩).length = 1 :=
  ⟨rfl, rfl⟩

/-- A transaction row joined with its token and block, with the columns `GetTxsAPI`
filters on; SQL `NULL` is `none`. -/
structure TxAPI where
  itemID : Nat
  fromEthAddr : Option EthAddr
  toEthAddr : Option EthAddr
  fromBJJ : Option PublicKeyComp
  toBJJ : Option PublicKeyComp
  tokenID : TokenID
  effectiveFromIdx : Option Idx
  toIdx : Idx
  batchNum : Option Nat
  type : TxType
  deriving DecidableEq

/-- `GetTxsAPI`: forged transactions only (`tx.batch_num IS NOT NULL`). -/
def getTxsAPI (txs : List TxAPI) (ethAddr : Option EthAddr) (bjj : Option PublicKeyComp)
    (tokenID : Option TokenID) (idx : Option Idx) (batchNum : Option Nat)
    (txType : Option TxType) (fromItem : Option Nat) (limit : Nat) (order : String) :
    Except Failure (List TxAPI × UInt64) := do
  checkOwnerFilters ethAddr bjj
  pure (paginate TxAPI.itemID txs (fun tx =>
      ownerFilter ethAddr bjj (fun a => tx.fromEthAddr == some a || tx.toEthAddr == some a)
          (fun k => tx.fromBJJ == some k || tx.toBJJ == some k) &&
        tokenID.all (· == tx.tokenID) &&
        idx.all (fun i => tx.effectiveFromIdx == some i || tx.toIdx == i) &&
        batchNum.all (fun n => tx.batchNum == some n) && txType.all (· == tx.type) &&
        tx.batchNum.isSome)
    order fromItem limit)

/-- An `exit_tree` row joined with its account and token, with the columns `GetExitsAPI`
filters on. -/
structure ExitAPI where
  itemID : Nat
  batchNum : Nat
  accountIdx : Idx
  ethAddr : EthAddr
  bjj : PublicKeyComp
  tokenID : TokenID
  instantWithdrawn : Option Int
  delayedWithdrawn : Option Int
  deriving DecidableEq

def getExitsAPI (exits : List ExitAPI) (ethAddr : Option EthAddr) (bjj : Option PublicKeyComp)
    (tokenID : Option TokenID) (idx : Option Idx) (batchNum : Option Nat)
    (onlyPendingWithdraws : Option Bool) (fromItem : Option Nat) (limit : Nat) (order : String) :
    Except Failure (List ExitAPI × UInt64) := do
  checkOwnerFilters ethAddr bjj
  pure (paginate ExitAPI.itemID exits (fun exit =>
      ownerFilter ethAddr bjj (· == exit.ethAddr) (· == exit.bjj) &&
        tokenID.all (· == exit.tokenID) && idx.all (· == exit.accountIdx) &&
        batchNum.all (· == exit.batchNum) &&
        (onlyPendingWithdraws != some true ||
          (exit.instantWithdrawn.isNone && exit.delayedWithdrawn.isNone)))
    order fromItem limit)

def getCoordinatorsAPI (coordinators : List Coordinator) (bidderAddr forgerAddr : Option EthAddr)
    (fromItem : Option Nat) (limit : Nat) (order : String) :
    Except Failure (List Coordinator × UInt64) :=
  .ok (paginate Coordinator.itemID (latestCoordinators coordinators) (fun c =>
      bidderAddr.all (· == c.bidderAddr) && forgerAddr.all (· == c.forgerAddr))
    order fromItem limit)

/-- An `account` row joined with its latest update and token, with the columns
`GetAccountsAPI` filters on. -/
structure AccountAPI where
  itemID : Nat
  ethAddr : EthAddr
  bjj : PublicKeyComp
  tokenID : TokenID
  deriving DecidableEq

def getAccountsAPI (accounts : List AccountAPI) (tokenIDs : List TokenID)
    (ethAddr : Option EthAddr) (bjj : Option PublicKeyComp) (fromItem : Option Nat) (limit : Nat)
    (order : String) : Except Failure (List AccountAPI × UInt64) := do
  checkOwnerFilters ethAddr bjj
  pure (paginate AccountAPI.itemID accounts (fun account =>
      ownerFilter ethAddr bjj (· == account.ethAddr) (· == account.bjj) &&
        (tokenIDs.isEmpty || tokenIDs.contains account.tokenID))
    order fromItem limit)

end HermezNode
