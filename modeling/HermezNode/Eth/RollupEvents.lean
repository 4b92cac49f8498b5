import HermezNode.HistoryDB.Tables

namespace HermezNode

/-! The decoding of the rollup contract's logs (`RollupEventsByBlock`, eth/rollup.go);
Keccak-256 and the ABI coding are parameters. -/

/-- `ethCommon.Hash` as a log topic: 32 bytes. -/
structure Topic where
  bytes : List UInt8
  length_eq : bytes.length = 32
  deriving DecidableEq, Repr

/-- `types.Log`, with the fields the decoder reads. -/
structure Log where
  blockHash : Hash
  topics : List Topic
  data : List UInt8
  txHash : Hash
  deriving DecidableEq, Repr

/-- Modelled from the spec: `ErrBlockHashMismatchEvent` is declared outside the sources; the
spec asks to "reject if any event's block hash ≠ b's hash". -/
def errBlockHashMismatchEvent : Failure := .error "block hash mismatch in event log"

/-- The zero `ethCommon.Hash`, the value of `var blockHash ethCommon.Hash`; no block has it. -/
def zeroHash : Hash := []

section Topics

/-- `new(big.Int).SetBytes(b).Uint64()`: the low 64 bits. -/
def bigIntUint64 (b : List UInt8) : Nat := beValue b % 2 ^ 64

/-- `new(big.Int).SetBytes(b).Int64()`: the low 64 bits as a two's-complement `int64`. -/
def bigIntInt64 (b : List UInt8) : Int :=
  if bigIntUint64 b < 2 ^ 63 then bigIntUint64 b else (bigIntUint64 b : Int) - 2 ^ 64

/-- `ethCommon.BytesToAddress(b)`: the last 20 bytes. -/
def bytesToAddress (b : List UInt8) : EthAddr := beValue (b.drop (b.length - 20))

/-- Modelled from the spec: the topic the contract writes for an indexed argument of a value
type, its 32-byte big-endian ABI word. -/
def Topic.ofNat (n : Nat) : Topic := ⟨beBytes 32 n, length_beBytes 32 n⟩

theorem beValue_ofNat (n : Nat) (h : n < 2 ^ 64) : beValue (Topic.ofNat n).bytes = n := by
  rw [Topic.ofNat, beValue_beBytes, Nat.mod_eq_of_lt (h.trans (by norm_num))]

theorem bigIntUint64_ofNat {n : Nat} (h : n < 2 ^ 64) : bigIntUint64 (Topic.ofNat n).bytes = n := by
  rw [bigIntUint64, beValue_ofNat n h, Nat.mod_eq_of_lt h]

theorem bigIntInt64_ofNat {n : Nat} (h : n < 2 ^ 63) : bigIntInt64 (Topic.ofNat n).bytes = n := by
  rw [bigIntInt64, bigIntUint64_ofNat (h.trans (by norm_num)), if_pos h]

/-- A `uint64` of `2^63` or more is read as a negative `int64`. -/
theorem bigIntInt64_ofNat_of_le {n : Nat} (h : 2 ^ 63 ≤ n) (h' : n < 2 ^ 64) :
    bigIntInt64 (Topic.ofNat n).bytes = n - 2 ^ 64 := by
  rw [bigIntInt64, bigIntUint64_ofNat h', if_neg (Nat.not_lt.mpr h)]

theorem bytesToAddress_ofNat {a : EthAddr} (h : a < 2 ^ 160) :
    bytesToAddress (Topic.ofNat a).bytes = a := by
  have hdrop : (beBytes 32 a).drop (32 - 20) = beBytes 20 a := drop_beBytes (by norm_num) a
  rw [bytesToAddress, (Topic.ofNat a).length_eq, Topic.ofNat]
  dsimp only
  rw [hdrop, beValue_beBytes, Nat.mod_eq_of_lt (h.trans_eq (by norm_num))]

end Topics

section Events

variable {Tx : Type}

/-- The event signatures, `crypto.Keccak256Hash([]byte(signature))`. -/
def logHermezL1UserTxEvent (keccak256Hash : String → Topic) : Topic :=
  keccak256Hash "L1UserTxEvent(uint64,uint8,bytes)"

def logHermezAddToken (keccak256Hash : String → Topic) : Topic :=
  keccak256Hash "AddToken(address,uint32)"

def logHermezForgeBatch (keccak256Hash : String → Topic) : Topic :=
  keccak256Hash "ForgeBatch(uint64)"

def logHermezUpdateForgeL1L2BatchTimeout (keccak256Hash : String → Topic) : Topic :=
  keccak256Hash "UpdateForgeL1L2BatchTimeout(uint8)"

def logHermezUpdateFeeAddToken (keccak256Hash : String → Topic) : Topic :=
  keccak256Hash "UpdateFeeAddToken(uint256)"

def logHermezWithdrawEvent (keccak256Hash : String → Topic) : Topic :=
  keccak256Hash "WithdrawEvent(uint48,uint48,bool)"

/-- The six signatures differ, as Keccak-256 makes them; listed from the last case of the
`switch` to the first, each differs from those of the cases before it. -/
def SignaturesDistinct (keccak256Hash : String → Topic) : Prop :=
  [logHermezWithdrawEvent keccak256Hash, logHermezUpdateFeeAddToken keccak256Hash,
    logHermezUpdateForgeL1L2BatchTimeout keccak256Hash, logHermezForgeBatch keccak256Hash,
    logHermezAddToken keccak256Hash, logHermezL1UserTxEvent keccak256Hash].Nodup

instance (keccak256Hash : String → Topic) : Decidable (SignaturesDistinct keccak256Hash) :=
  inferInstanceAs (Decidable (List.Nodup _))

/-- A byte coding that the sources use and do not hold: what the writer emits, and the
function the client reads it back with. -/
structure Codec (α : Type) where
  encode : α → List UInt8
  decode : List UInt8 → Except Failure α

/-- The reader inverts the writer. -/
def Codec.RoundTrip {α : Type} (c : Codec α) : Prop := ∀ a, c.decode (c.encode a) = .ok a

/-- The codings of the log data: the contract ABI's coding of each event's non-indexed
arguments (`contractAbi.Unpack`), and `L1UserTx.Bytes` with `common.L1UserTxFromBytes`. -/
structure RollupCodecs (Tx : Type) where
  l1UserTxEvent : Codec (List UInt8)
  addToken : Codec UInt32
  updateForgeL1L2BatchTimeout : Codec UInt8
  updateFeeAddToken : Codec Nat
  l1UserTx : Codec Tx

/-- Every coding round-trips. -/
structure RollupCodecs.RoundTrip (codecs : RollupCodecs Tx) : Prop where
  l1UserTxEvent : codecs.l1UserTxEvent.RoundTrip
  addToken : codecs.addToken.RoundTrip
  updateForgeL1L2BatchTimeout : codecs.updateForgeL1L2BatchTimeout.RoundTrip
  updateFeeAddToken : codecs.updateFeeAddToken.RoundTrip
  l1UserTx : codecs.l1UserTx.RoundTrip

/-- `RollupEventL1UserTx`: the `common.L1Tx` that `L1UserTxFromBytes` decodes, with the three
fields the decoder then sets. -/
structure RollupEventL1UserTx (Tx : Type) where
  l1UserTx : Tx
  toForgeL1TxsNum : Int
  position : Int
  userOrigin : Bool
  deriving DecidableEq, Repr

structure RollupEventAddToken where
  tokenAddress : EthAddr
  tokenID : UInt32
  deriving DecidableEq, Repr

structure RollupEventForgeBatch where
  batchNum : Int
  ethTxHash : Hash
  deriving DecidableEq, Repr

structure RollupEventUpdateForgeL1L2BatchTimeout where
  newForgeL1L2BatchTimeout : Int
  deriving DecidableEq, Repr

structure RollupEventUpdateFeeAddToken where
  newFeeAddToken : Nat
  deriving DecidableEq, Repr

structure RollupEventWithdrawEvent where
  idx : Nat
  numExitRoot : Nat
  instantWithdraw : Bool
  deriving DecidableEq, Repr

/-- `RollupEvents`, the events of a block kind by kind. -/
structure RollupEvents (Tx : Type) where
  l1UserTx : List (RollupEventL1UserTx Tx)
  addToken : List RollupEventAddToken
  forgeBatch : List RollupEventForgeBatch
  updateForgeL1L2BatchTimeout : List RollupEventUpdateForgeL1L2BatchTimeout
  updateFeeAddToken : List RollupEventUpdateFeeAddToken
  withdrawEvent : List RollupEventWithdrawEvent
  deriving DecidableEq, Repr

/-- The zero value `var rollupEvents RollupEvents`. -/
def RollupEvents.zero : RollupEvents Tx := ⟨[], [], [], [], [], []⟩

/-- The event one case of the `switch` decodes. -/
inductive RollupEvent (Tx : Type) where
  | l1UserTx (e : RollupEventL1UserTx Tx)
  | addToken (e : RollupEventAddToken)
  | forgeBatch (e : RollupEventForgeBatch)
  | updateForgeL1L2BatchTimeout (e : RollupEventUpdateForgeL1L2BatchTimeout)
  | updateFeeAddToken (e : RollupEventUpdateFeeAddToken)
  | withdrawEvent (e : RollupEventWithdrawEvent)
  deriving DecidableEq, Repr

/-- The `append` of a case to the list of its kind. -/
def RollupEvents.push (events : RollupEvents Tx) : RollupEvent Tx → RollupEvents Tx
  | .l1UserTx e => { events with l1UserTx := events.l1UserTx ++ [e] }
  | .addToken e => { events with addToken := events.addToken ++ [e] }
  | .forgeBatch e => { events with forgeBatch := events.forgeBatch ++ [e] }
  | .updateForgeL1L2BatchTimeout e =>
    { events with updateForgeL1L2BatchTimeout := events.updateForgeL1L2BatchTimeout ++ [e] }
  | .updateFeeAddToken e => { events with updateFeeAddToken := events.updateFeeAddToken ++ [e] }
  | .withdrawEvent e => { events with withdrawEvent := events.withdrawEvent ++ [e] }

/-- Events appended in order. -/
def RollupEvents.pushAll (events : RollupEvents Tx) (es : List (RollupEvent Tx)) :
    RollupEvents Tx :=
  es.foldl RollupEvents.push events

variable (keccak256Hash : String → Topic) (codecs : RollupCodecs Tx)

/-- The `switch vLog.Topics[0]` of the loop: the event of one log, `none` for a topic no case
names.  Each case reads its data and topics in the order of the source. -/
def decodeLog (vLog : Log) : Except Failure (Option (RollupEvent Tx)) := do
  let topic0 ← index vLog.topics 0
  if topic0 = logHermezL1UserTxEvent keccak256Hash then
    let l1UserTx ← codecs.l1UserTxEvent.decode vLog.data
    let l1Tx ← codecs.l1UserTx.decode l1UserTx
    let topic1 ← index vLog.topics 1
    let topic2 ← index vLog.topics 2
    pure (some (.l1UserTx ⟨l1Tx, bigIntInt64 topic1.bytes, bigIntInt64 topic2.bytes, true⟩))
  else if topic0 = logHermezAddToken keccak256Hash then
    let tokenID ← codecs.addToken.decode vLog.data
    let topic1 ← index vLog.topics 1
    pure (some (.addToken ⟨bytesToAddress topic1.bytes, tokenID⟩))
  else if topic0 = logHermezForgeBatch keccak256Hash then
    let topic1 ← index vLog.topics 1
    pure (some (.forgeBatch ⟨bigIntInt64 topic1.bytes, vLog.txHash⟩))
  else if topic0 = logHermezUpdateForgeL1L2BatchTimeout keccak256Hash then
    let newForgeL1L2BatchTimeout ← codecs.updateForgeL1L2BatchTimeout.decode vLog.data
    pure (some (.updateForgeL1L2BatchTimeout ⟨newForgeL1L2BatchTimeout.toNat⟩))
  else if topic0 = logHermezUpdateFeeAddToken keccak256Hash then
    let newFeeAddToken ← codecs.updateFeeAddToken.decode vLog.data
    pure (some (.updateFeeAddToken ⟨newFeeAddToken⟩))
  else if topic0 = logHermezWithdrawEvent keccak256Hash then
    let topic1 ← index vLog.topics 1
    let topic2 ← index vLog.topics 2
    let topic3 ← index vLog.topics 3
    pure (some (.withdrawEvent
      ⟨bigIntUint64 topic1.bytes, bigIntUint64 topic2.bytes, bigIntUint64 topic3.bytes = 1⟩))
  else pure none

/-- The loop over the logs, against the block hash of the first. -/
def rollupEventsLoop (blockHash : Hash) : RollupEvents Tx → List Log → Except Failure (RollupEvents Tx)
  | events, [] => .ok events
  | events, vLog :: logs =>
    if vLog.blockHash ≠ blockHash then .error errBlockHashMismatchEvent
    else do
      let event ← decodeLog keccak256Hash codecs vLog
      rollupEventsLoop blockHash (event.elim events events.push) logs

/-- `RollupEventsByBlock`, given the answer of `FilterLogs` for the block's contract logs. -/
def rollupEventsByBlock (filterLogs : Except Failure (List Log)) :
    Except Failure (RollupEvents Tx × Hash) := do
  let logs ← filterLogs
  let blockHash := match logs with
    | vLog :: _ => vLog.blockHash
    | [] => zeroHash
  let events ← rollupEventsLoop keccak256Hash codecs blockHash .zero logs
  pure (events, blockHash)

/-- Modelled from the spec: an event of the rollup contract with its arguments as the
contract's ABI types them (§6, "the core must decode exactly"). -/
inductive ContractEvent (Tx : Type) where
  | l1UserTxEvent (toForgeL1TxsNum position : Nat) (l1UserTx : Tx)
  | addToken (tokenAddress : EthAddr) (tokenID : UInt32)
  | forgeBatch (batchNum : Nat)
  | updateForgeL1L2BatchTimeout (newForgeL1L2BatchTimeout : UInt8)
  | updateFeeAddToken (newFeeAddToken : Nat)
  | withdrawEvent (idx numExitRoot : Nat) (instantWithdraw : Bool)
  deriving DecidableEq, Repr

/-- The arguments fit their ABI types (`uint8`, `address`, `uint48`), and the `uint64`s the
client keeps in an `int64` stay below `2^63`. -/
def ContractEvent.Representable : ContractEvent Tx → Prop
  | .l1UserTxEvent toForgeL1TxsNum position _ => toForgeL1TxsNum < 2 ^ 63 ∧ position < 2 ^ 8
  | .addToken tokenAddress _ => tokenAddress < 2 ^ 160
  | .forgeBatch batchNum => batchNum < 2 ^ 63
  | .updateForgeL1L2BatchTimeout _ | .updateFeeAddToken _ => True
  | .withdrawEvent idx numExitRoot _ => idx < 2 ^ 48 ∧ numExitRoot < 2 ^ 48

instance : (e : ContractEvent Tx) → Decidable e.Representable
  | .l1UserTxEvent .. => inferInstanceAs (Decidable (_ ∧ _))
  | .addToken .. => inferInstanceAs (Decidable (_ < _))
  | .forgeBatch _ => inferInstanceAs (Decidable (_ < _))
  | .updateForgeL1L2BatchTimeout _ | .updateFeeAddToken _ => inferInstanceAs (Decidable True)
  | .withdrawEvent .. => inferInstanceAs (Decidable (_ ∧ _))

/-- Modelled from the spec: the log the contract writes for an event of transaction `txHash`
in block `blockHash`: the signature, the indexed arguments as 32-byte words, and the ABI
coding of the others as data. -/
def ContractEvent.log (blockHash txHash : Hash) : ContractEvent Tx → Log
  | .l1UserTxEvent toForgeL1TxsNum position l1UserTx =>
    ⟨blockHash, [logHermezL1UserTxEvent keccak256Hash, .ofNat toForgeL1TxsNum, .ofNat position],
      codecs.l1UserTxEvent.encode (codecs.l1UserTx.encode l1UserTx), txHash⟩
  | .addToken tokenAddress tokenID =>
    ⟨blockHash, [logHermezAddToken keccak256Hash, .ofNat tokenAddress],
      codecs.addToken.encode tokenID, txHash⟩
  | .forgeBatch batchNum => ⟨blockHash, [logHermezForgeBatch keccak256Hash, .ofNat batchNum], [], txHash⟩
  | .updateForgeL1L2BatchTimeout newForgeL1L2BatchTimeout =>
    ⟨blockHash, [logHermezUpdateForgeL1L2BatchTimeout keccak256Hash],
      codecs.updateForgeL1L2BatchTimeout.encode newForgeL1L2BatchTimeout, txHash⟩
  | .updateFeeAddToken newFeeAddToken =>
    ⟨blockHash, [logHermezUpdateFeeAddToken keccak256Hash],
      codecs.updateFeeAddToken.encode newFeeAddToken, txHash⟩
  | .withdrawEvent idx numExitRoot instantWithdraw =>
    ⟨blockHash, [logHermezWithdrawEvent keccak256Hash, .ofNat idx, .ofNat numExitRoot,
      .ofNat (if instantWithdraw then 1 else 0)], [], txHash⟩

/-- What the client should make of a contract event of transaction `txHash`. -/
def ContractEvent.rollupEvent (txHash : Hash) : ContractEvent Tx → RollupEvent Tx
  | .l1UserTxEvent toForgeL1TxsNum position l1UserTx =>
    .l1UserTx ⟨l1UserTx, toForgeL1TxsNum, position, true⟩
  | .addToken tokenAddress tokenID => .addToken ⟨tokenAddress, tokenID⟩
  | .forgeBatch batchNum => .forgeBatch ⟨batchNum, txHash⟩
  | .updateForgeL1L2BatchTimeout newForgeL1L2BatchTimeout =>
    .updateForgeL1L2BatchTimeout ⟨newForgeL1L2BatchTimeout.toNat⟩
  | .updateFeeAddToken newFeeAddToken => .updateFeeAddToken ⟨newFeeAddToken⟩
  | .withdrawEvent idx numExitRoot instantWithdraw => .withdrawEvent ⟨idx, numExitRoot, instantWithdraw⟩

/-- A stand-in for Keccak-256 to run the decoder on: it keeps the six signatures apart. -/
def signatureLengthHash (signature : String) : Topic :=
  .ofNat (signature.length + 256 * signature.front.toNat)

theorem signatureLengthHash_distinct : SignaturesDistinct signatureLengthHash := by decide

/-- Stand-ins for the ABI coding and the `L1UserTx` bytes, to run the decoder on: a value is
written as that many zero bytes. -/
def lengthCodecs : RollupCodecs Nat where
  l1UserTxEvent := ⟨id, .ok⟩
  addToken := ⟨fun x => List.replicate x.toNat 0, fun b => .ok (UInt32.ofNat b.length)⟩
  updateForgeL1L2BatchTimeout := ⟨fun x => List.replicate x.toNat 0, fun b => .ok (UInt8.ofNat b.length)⟩
  updateFeeAddToken := ⟨fun n => List.replicate n 0, fun b => .ok b.length⟩
  l1UserTx := ⟨fun n => List.replicate n 0, fun b => .ok b.length⟩

theorem lengthCodecs_roundTrip : lengthCodecs.RoundTrip where
  l1UserTxEvent _ := rfl
  addToken x := congrArg Except.ok <|
    (congrArg UInt32.ofNat (List.length_replicate x.toNat 0)).trans
      (UInt32.eq_of_val_eq (Fin.ext (Nat.mod_eq_of_lt x.val.isLt)))
  updateForgeL1L2BatchTimeout x := congrArg Except.ok <|
    (congrArg UInt8.ofNat (List.length_replicate x.toNat 0)).trans
      (UInt8.eq_of_val_eq (Fin.ext (Nat.mod_eq_of_lt x.val.isLt)))
  updateFeeAddToken n := congrArg Except.ok (List.length_replicate n 0)
  l1UserTx n := congrArg Except.ok (List.length_replicate n 0)

theorem pushAll_elim (events : RollupEvents Tx) (event : Option (RollupEvent Tx))
    (es : List (Option (RollupEvent Tx))) :
    (event.elim events events.push).pushAll (es.filterMap id) =
      events.pushAll ((event :: es).filterMap id) := by
  cases event <;> rfl

/-- What the loop accepts: logs of the one block hash, each decoded, the events appended in
log order. -/
theorem rollupEventsLoop_eq_ok {blockHash : Hash} {events events' : RollupEvents Tx}
    {logs : List Log} (h : rollupEventsLoop keccak256Hash codecs blockHash events logs = .ok events') :
    (∀ vLog ∈ logs, vLog.blockHash = blockHash) ∧
      ∃ decoded, logs.mapM (decodeLog keccak256Hash codecs) = .ok decoded ∧
        events' = events.pushAll (decoded.filterMap id) := by
  induction logs generalizing events with
  | nil =>
    cases h
    exact ⟨by simp, [], rfl, rfl⟩
  | cons vLog logs ih =>
    simp only [rollupEventsLoop] at h
    split at h
    · cases h
    · rename_i hhash
      obtain ⟨event, hd, hrest⟩ := bind_eq_ok h
      obtain ⟨hlogs, decoded, hmap, rfl⟩ := ih hrest
      refine ⟨?_, event :: decoded, by rw [List.mapM_cons, hd, hmap]; rfl, pushAll_elim _ _ _⟩
      simpa [not_not.mp hhash] using hlogs

/-- Everything `RollupEventsByBlock` accepts comes from one block: each log carries the
returned hash, and the events are the logs' decodings, appended in log order.  The hash is
the first log's; the call never compares it with the hash of the block it asked for. -/
theorem rollupEventsByBlock_eq_ok {logs : List Log} {events : RollupEvents Tx} {blockHash : Hash}
    (h : rollupEventsByBlock keccak256Hash codecs (.ok logs) = .ok (events, blockHash)) :
    (∀ vLog ∈ logs, vLog.blockHash = blockHash) ∧
      ∃ decoded, logs.mapM (decodeLog keccak256Hash codecs) = .ok decoded ∧
        events = RollupEvents.zero.pushAll (decoded.filterMap id) := by
  rw [rollupEventsByBlock, ok_bind] at h
  obtain ⟨events', hloop, heq⟩ := bind_eq_ok h
  cases heq
  exact rollupEventsLoop_eq_ok keccak256Hash codecs hloop

theorem rollupEventsByBlock_eq_ok_forgeBatch :
    let logs := [(ContractEvent.forgeBatch 3).log signatureLengthHash lengthCodecs [1, 0] [7],
      (ContractEvent.addToken 5 2).log signatureLengthHash lengthCodecs [1, 0] [8]]
    let events : RollupEvents Nat := ⟨[], [⟨5, 2⟩], [⟨3, [7]⟩], [], [], []⟩
    rollupEventsByBlock signatureLengthHash lengthCodecs (.ok logs) = .ok (events, [1, 0]) ∧
      (∀ vLog ∈ logs, vLog.blockHash = [1, 0]) ∧
        ∃ decoded, logs.mapM (decodeLog signatureLengthHash lengthCodecs) = .ok decoded ∧
          events = RollupEvents.zero.pushAll (decoded.filterMap id) := by
  intro logs events
  have h : rollupEventsByBlock signatureLengthHash lengthCodecs (.ok logs) = .ok (events, [1, 0]) :=
    rfl
  exact ⟨h, rollupEventsByBlock_eq_ok signatureLengthHash lengthCodecs h⟩

section RoundTrip

variable {keccak256Hash} {codecs} (hsig : SignaturesDistinct keccak256Hash)
  (hcodecs : codecs.RoundTrip)
include hsig hcodecs

theorem decodeLog_log {e : ContractEvent Tx} (he : e.Representable) (blockHash txHash : Hash) :
    decodeLog keccak256Hash codecs (e.log keccak256Hash codecs blockHash txHash) =
      .ok (some (e.rollupEvent txHash)) := by
  simp only [SignaturesDistinct, List.nodup_cons, List.mem_cons, List.mem_singleton,
    List.not_mem_nil, not_or, or_false] at hsig
  cases e with
  | l1UserTxEvent toForgeL1TxsNum position l1UserTx =>
    obtain ⟨hq, hp⟩ := he
    simp [decodeLog, ContractEvent.log, ContractEvent.rollupEvent, index, hcodecs.l1UserTxEvent _,
      hcodecs.l1UserTx _, bigIntInt64_ofNat hq, bigIntInt64_ofNat (hp.trans (by norm_num))]
  | addToken tokenAddress tokenID =>
    simp [decodeLog, ContractEvent.log, ContractEvent.rollupEvent, index, hcodecs.addToken _,
      bytesToAddress_ofNat he, hsig]
  | forgeBatch batchNum =>
    simp [decodeLog, ContractEvent.log, ContractEvent.rollupEvent, index, bigIntInt64_ofNat he,
      hsig]
  | updateForgeL1L2BatchTimeout newForgeL1L2BatchTimeout =>
    simp [decodeLog, ContractEvent.log, ContractEvent.rollupEvent, index,
      hcodecs.updateForgeL1L2BatchTimeout _, hsig]
  | updateFeeAddToken newFeeAddToken =>
    simp [decodeLog, ContractEvent.log, ContractEvent.rollupEvent, index,
      hcodecs.updateFeeAddToken _, hsig]
  | withdrawEvent idx numExitRoot instantWithdraw =>
    obtain ⟨hi, hn⟩ := he
    have h48 : (2 : Nat) ^ 48 < 2 ^ 64 := by norm_num
    cases instantWithdraw <;>
      simp [decodeLog, ContractEvent.log, ContractEvent.rollupEvent, index,
        bigIntUint64_ofNat (hi.trans h48), bigIntUint64_ofNat (hn.trans h48),
        bigIntUint64_ofNat (show 0 < 2 ^ 64 by norm_num),
        bigIntUint64_ofNat (show 1 < 2 ^ 64 by norm_num), hsig]

theorem rollupEventsLoop_log (blockHash : Hash) (events : RollupEvents Tx)
    (es : List (Hash × ContractEvent Tx)) (hes : ∀ e ∈ es, e.2.Representable) :
    rollupEventsLoop keccak256Hash codecs blockHash events
        (es.map fun e => e.2.log keccak256Hash codecs blockHash e.1) =
      .ok (events.pushAll (es.map fun e => e.2.rollupEvent e.1)) := by
  induction es generalizing events with
  | nil => rfl
  | cons e es ih =>
    have hlog : (e.2.log keccak256Hash codecs blockHash e.1).blockHash = blockHash := by
      cases e.2 <;> rfl
    simp only [List.map_cons, rollupEventsLoop, hlog, ne_eq, not_true_eq_false, if_false,
      decodeLog_log hsig hcodecs (hes e (List.mem_cons_self _ _)), ok_bind, Option.elim]
    exact ih _ fun e' he' => hes e' (List.mem_cons_of_mem _ he')

/-- The logs the contract writes for a block's events decode to those events, kind by kind in
log order, with the block's hash; no events give the zero hash. -/
theorem rollupEventsByBlock_log (blockHash : Hash) (es : List (Hash × ContractEvent Tx))
    (hes : ∀ e ∈ es, e.2.Representable) :
    rollupEventsByBlock keccak256Hash codecs
        (.ok (es.map fun e => e.2.log keccak256Hash codecs blockHash e.1)) =
      .ok (RollupEvents.zero.pushAll (es.map fun e => e.2.rollupEvent e.1),
        if es.isEmpty then zeroHash else blockHash) := by
  have hhash : (match es.map fun e => e.2.log keccak256Hash codecs blockHash e.1 with
      | vLog :: _ => vLog.blockHash
      | [] => zeroHash) = if es.isEmpty then zeroHash else blockHash := by
    rcases es with _ | ⟨⟨txHash, e⟩, es⟩
    · rfl
    · cases e <;> rfl
  simp only [rollupEventsByBlock, ok_bind, hhash]
  split
  · rename_i hnil
    rw [List.isEmpty_iff.mp hnil]
    rfl
  · rw [rollupEventsLoop_log hsig hcodecs blockHash _ es hes]
    rfl

end RoundTrip

theorem rollupEventsByBlock_log_block :
    let es : List (Hash × ContractEvent Nat) := [([7], .forgeBatch 3), ([8], .addToken 5 2),
      ([8], .withdrawEvent 1 2 true), ([9], .l1UserTxEvent 4 0 6)]
    SignaturesDistinct signatureLengthHash ∧ lengthCodecs.RoundTrip ∧
      (∀ e ∈ es, e.2.Representable) ∧
      rollupEventsByBlock signatureLengthHash lengthCodecs
          (.ok (es.map fun e => e.2.log signatureLengthHash lengthCodecs [1, 0] e.1)) =
        .ok (RollupEvents.zero.pushAll (es.map fun e => e.2.rollupEvent e.1),
          if es.isEmpty then zeroHash else [1, 0]) := by
  intro es
  exact ⟨signatureLengthHash_distinct, lengthCodecs_roundTrip, by decide,
    rollupEventsByBlock_log signatureLengthHash_distinct lengthCodecs_roundTrip [1, 0] es
      (by decide)⟩

/-- A `ForgeBatch` event whose `uint64` batch number is `2^63` or more decodes to a negative
batch number. -/
theorem decodeLog_forgeBatch_of_le (hsig : SignaturesDistinct keccak256Hash) {batchNum : Nat}
    (h : 2 ^ 63 ≤ batchNum) (h' : batchNum < 2 ^ 64) (blockHash txHash : Hash) :
    decodeLog keccak256Hash codecs
        ((ContractEvent.forgeBatch batchNum).log keccak256Hash codecs blockHash txHash) =
      .ok (some (.forgeBatch ⟨batchNum - 2 ^ 64, txHash⟩)) := by
  simp only [SignaturesDistinct, List.nodup_cons, List.mem_cons, List.mem_singleton,
    List.not_mem_nil, not_or, or_false] at hsig
  simp [decodeLog, ContractEvent.log, index, bigIntInt64_ofNat_of_le h h', hsig]

end Events

end HermezNode
