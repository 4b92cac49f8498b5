import HermezNode.Common.Codec

namespace HermezNode

/-! `common.L2Tx` and `NewL2Tx` (common/l2tx.go); `NewL2Tx` writes into the caller's
transaction, so the model returns that value next to the result. -/

/-- `common.TxIDLen`: `TxID` is a `[12]byte` (the generators convert a `[12]byte` to it and
`TestNewL1Tx` prints twelve bytes). -/
def txIDLen : Nat := 12

structure TxID where
  bytes : List UInt8
  length_eq : bytes.length = txIDLen
  deriving DecidableEq

namespace TxID

/-- `TxID{}`. -/
def zero : TxID := ⟨List.replicate txIDLen 0, List.length_replicate _ _⟩

/-- A lowercase hexadecimal digit. -/
def hexDigit (n : Nat) : Char :=
  if n < 10 then Char.ofNat (48 + n) else Char.ofNat (87 + n)

/-- `TxID.String`: `0x` and the lowercase hex of the bytes, as `TestNewL1Tx` expects. -/
def string (txID : TxID) : String :=
  "0x" ++ String.mk (txID.bytes.flatMap fun b => [hexDigit (b.toNat / 16), hexDigit (b.toNat % 16)])

/-- `txID[0] = txIDPrefix; copy(txID[1:], r)`. -/
def ofPrefixed (txIDPrefix : UInt8) (r : List UInt8) : TxID :=
  ⟨txIDPrefix :: (r ++ List.replicate (txIDLen - 1) 0).take (txIDLen - 1), by simp [txIDLen]⟩

end TxID

/-- `common.TxIDPrefixL2Tx`, the leading byte of an L2 transaction id. -/
def txIDPrefixL2Tx : UInt8 := 2

/-- `common.TxType`, a string. -/
abbrev TxType := String

def txTypeExit : TxType := "Exit"

def txTypeTransfer : TxType := "Transfer"

abbrev FeeSelector := UInt8

structure L2Tx where
  txID : TxID
  batchNum : Int
  position : Int
  fromIdx : Idx
  toIdx : Idx
  tokenID : TokenID
  amount : Int
  fee : FeeSelector
  nonce : Nonce
  type : TxType
  ethBlockNum : Int
  deriving DecidableEq

namespace L2Tx

/-- `&L2Tx{}`. -/
def empty : L2Tx :=
  ⟨TxID.zero, 0, 0, 0, 0, 0, 0, 0, 0, "", 0⟩

def setType (tx : L2Tx) : Except Failure L2Tx :=
  if tx.toIdx = 1 then .ok { tx with type := txTypeExit }
  else if tx.toIdx ≥ idxUserThreshold then .ok { tx with type := txTypeTransfer }
  else .error (.error ("cannot determine type of L2Tx, invalid ToIdx value: " ++ toString tx.toIdx))

/-- `fmt.Errorf("%s: %d", err, tx.Amount)` around an error of `NewFloat16`. -/
def annotateAmount (amount : Int) : Except Failure Float16 → Except Failure Float16
  | .error (.error msg) => .error (.error (msg ++ ": " ++ toString amount))
  | r => r

/-- `L2Tx.CalculateTxID`.  The SHA-256 implementation is a parameter: no property below
depends on which hash it is. -/
def calculateTxID (sha256 : List UInt8 → List UInt8) (tx : L2Tx) : Except Failure TxID := do
  let fromIdxBytes ← Idx.bytes tx.fromIdx
  let amountFloat16 ← annotateAmount tx.amount (newFloat16 tx.amount)
  let nonceBytes ← Nonce.bytes tx.nonce
  let b := fromIdxBytes ++ TokenID.bytes tx.tokenID ++ amountFloat16.bytes ++ nonceBytes ++ [tx.fee]
  pure (TxID.ofPrefixed txIDPrefixL2Tx (sha256 b))

def setID (sha256 : List UInt8 → List UInt8) (tx : L2Tx) : Except Failure L2Tx := do
  let txID ← tx.calculateTxID sha256
  pure { tx with txID := txID }

end L2Tx

/-- What a call `f(tx *T) (*T, error)` leaves behind: the value `*tx` holds afterwards,
whether the returned pointer is `tx` (rather than nil), and the returned error. -/
structure PtrCall (α : Type) where
  value : α
  returnsTx : Bool
  err : Option Failure
  deriving DecidableEq

def newL2Tx (sha256 : List UInt8 → List UInt8) (tx : L2Tx) : PtrCall L2Tx :=
  let txTypeOld := tx.type
  match tx.setType with
  | .error e => ⟨tx, false, some e⟩
  | .ok tx =>
      if txTypeOld ≠ "" ∧ txTypeOld ≠ tx.type then
        ⟨tx, false, some (.error ("L2Tx.Type: " ++ tx.type ++ ", should be: " ++ txTypeOld))⟩
      else
        let txIDOld := tx.txID
        match tx.setID sha256 with
        | .error e => ⟨tx, false, some e⟩
        | .ok tx =>
            if txIDOld ≠ TxID.zero ∧ txIDOld ≠ tx.txID then
              ⟨tx, true, some (.error ("L2Tx.TxID: " ++ tx.txID.string ++ ", should be: " ++
                txIDOld.string))⟩
            else ⟨tx, true, none⟩

/-! ### Spec lemmas of the helpers -/

namespace L2Tx

variable (sha256 : List UInt8 → List UInt8)

/-- The type `SetType` computes, read off the recipient index. -/
def typeOfToIdx (toIdx : Idx) : TxType :=
  if toIdx = 1 then txTypeExit else txTypeTransfer

/-- A recipient index `SetType` accepts. -/
def ValidToIdx (toIdx : Idx) : Prop :=
  toIdx = 1 ∨ idxUserThreshold ≤ toIdx

instance (toIdx : Idx) : Decidable (ValidToIdx toIdx) :=
  inferInstanceAs (Decidable (_ ∨ _))

theorem setType_of_valid {tx : L2Tx} (h : ValidToIdx tx.toIdx) :
    tx.setType = .ok { tx with type := typeOfToIdx tx.toIdx } := by
  unfold setType typeOfToIdx ValidToIdx at *
  by_cases h1 : tx.toIdx = 1
  · simp [h1]
  · simp only [h1, if_false, ge_iff_le, h.resolve_left h1, if_true]

theorem setType_of_not_valid {tx : L2Tx} (h : ¬ ValidToIdx tx.toIdx) :
    ∃ e, tx.setType = .error e := by
  unfold setType
  unfold ValidToIdx at h
  simp only [ge_iff_le, (not_or.mp h).1, (not_or.mp h).2, if_false]
  exact ⟨_, rfl⟩

@[simp] theorem calculateTxID_with_type_txID (tx : L2Tx) (type : TxType) (txID : TxID) :
    { tx with type := type, txID := txID }.calculateTxID sha256 = tx.calculateTxID sha256 := rfl

@[simp] theorem calculateTxID_with_type (tx : L2Tx) (type : TxType) :
    { tx with type := type }.calculateTxID sha256 = tx.calculateTxID sha256 := rfl

theorem setID_eq (tx : L2Tx) : tx.setID sha256 =
    (tx.calculateTxID sha256).map fun txID => { tx with txID := txID } := by
  unfold setID
  cases tx.calculateTxID sha256 <;> rfl

end L2Tx

/-! ### `NewL2Tx` -/

section NewL2Tx

variable (sha256 : List UInt8 → List UInt8)

theorem newL2Tx_of_not_valid {tx : L2Tx} (hv : ¬ L2Tx.ValidToIdx tx.toIdx) :
    ∃ e, tx.setType = .error e ∧ newL2Tx sha256 tx = ⟨tx, false, some e⟩ := by
  obtain ⟨e, he⟩ := L2Tx.setType_of_not_valid hv
  exact ⟨e, he, by simp only [newL2Tx, he]⟩

theorem newL2Tx_of_type_mismatch {tx : L2Tx} (hv : L2Tx.ValidToIdx tx.toIdx) (hne : tx.type ≠ "")
    (hty : tx.type ≠ L2Tx.typeOfToIdx tx.toIdx) :
    newL2Tx sha256 tx = ⟨{ tx with type := L2Tx.typeOfToIdx tx.toIdx }, false,
      some (.error ("L2Tx.Type: " ++ L2Tx.typeOfToIdx tx.toIdx ++ ", should be: " ++ tx.type))⟩ := by
  simp only [newL2Tx, L2Tx.setType_of_valid hv]
  rw [if_pos ⟨hne, hty⟩]

theorem newL2Tx_of_calculateTxID_error {tx : L2Tx} (hv : L2Tx.ValidToIdx tx.toIdx)
    (hty : tx.type = "" ∨ tx.type = L2Tx.typeOfToIdx tx.toIdx) {e : Failure}
    (he : tx.calculateTxID sha256 = .error e) :
    newL2Tx sha256 tx = ⟨{ tx with type := L2Tx.typeOfToIdx tx.toIdx }, false, some e⟩ := by
  simp only [newL2Tx, L2Tx.setType_of_valid hv, L2Tx.setID_eq, L2Tx.calculateTxID_with_type, he,
    Except.map]
  rw [if_neg (by tauto)]

theorem newL2Tx_of_calculateTxID_ok {tx : L2Tx} (hv : L2Tx.ValidToIdx tx.toIdx)
    (hty : tx.type = "" ∨ tx.type = L2Tx.typeOfToIdx tx.toIdx) {txID : TxID}
    (hid : tx.calculateTxID sha256 = .ok txID) :
    newL2Tx sha256 tx = ⟨{ tx with type := L2Tx.typeOfToIdx tx.toIdx, txID := txID }, true,
      if tx.txID ≠ TxID.zero ∧ tx.txID ≠ txID then
        some (.error ("L2Tx.TxID: " ++ txID.string ++ ", should be: " ++ tx.txID.string))
      else none⟩ := by
  simp only [newL2Tx, L2Tx.setType_of_valid hv, L2Tx.setID_eq, L2Tx.calculateTxID_with_type, hid,
    Except.map]
  rw [if_neg (by tauto)]
  split <;> rfl

/-- The four ways `NewL2Tx` can go, by the step that decides it. -/
theorem newL2Tx_cases (tx : L2Tx) :
    (¬ L2Tx.ValidToIdx tx.toIdx ∧ (newL2Tx sha256 tx).value = tx ∧ (newL2Tx sha256 tx).err ≠ none) ∨
    (L2Tx.ValidToIdx tx.toIdx ∧ tx.type ≠ "" ∧ tx.type ≠ L2Tx.typeOfToIdx tx.toIdx ∧
      newL2Tx sha256 tx = ⟨{ tx with type := L2Tx.typeOfToIdx tx.toIdx }, false,
        some (.error ("L2Tx.Type: " ++ L2Tx.typeOfToIdx tx.toIdx ++ ", should be: " ++ tx.type))⟩) ∨
    (L2Tx.ValidToIdx tx.toIdx ∧ (tx.type = "" ∨ tx.type = L2Tx.typeOfToIdx tx.toIdx) ∧
      ∃ e, tx.calculateTxID sha256 = .error e ∧
        newL2Tx sha256 tx = ⟨{ tx with type := L2Tx.typeOfToIdx tx.toIdx }, false, some e⟩) ∨
    (L2Tx.ValidToIdx tx.toIdx ∧ (tx.type = "" ∨ tx.type = L2Tx.typeOfToIdx tx.toIdx) ∧
      ∃ txID, tx.calculateTxID sha256 = .ok txID ∧
        (newL2Tx sha256 tx).value = { tx with type := L2Tx.typeOfToIdx tx.toIdx, txID := txID } ∧
        (newL2Tx sha256 tx).returnsTx = true ∧
        ((newL2Tx sha256 tx).err = none ↔ tx.txID = TxID.zero ∨ tx.txID = txID)) := by
  by_cases hv : L2Tx.ValidToIdx tx.toIdx
  · by_cases hty : tx.type ≠ "" ∧ tx.type ≠ L2Tx.typeOfToIdx tx.toIdx
    · exact .inr (.inl ⟨hv, hty.1, hty.2, newL2Tx_of_type_mismatch sha256 hv hty.1 hty.2⟩)
    · have hty' : tx.type = "" ∨ tx.type = L2Tx.typeOfToIdx tx.toIdx := by tauto
      cases hid : tx.calculateTxID sha256 with
      | error e =>
        exact .inr (.inr (.inl ⟨hv, hty', e, rfl, newL2Tx_of_calculateTxID_error sha256 hv hty' hid⟩))
      | ok txID =>
        rw [newL2Tx_of_calculateTxID_ok sha256 hv hty' hid]
        refine .inr (.inr (.inr ⟨hv, hty', txID, rfl, rfl, rfl, ?_⟩))
        split <;> simp_all
        tauto
  · obtain ⟨e, -, h⟩ := newL2Tx_of_not_valid sha256 hv
    exact .inl ⟨hv, by rw [h], by simp [h]⟩

theorem newL2Tx_err_eq_none_iff (tx : L2Tx) :
    (newL2Tx sha256 tx).err = none ↔
      L2Tx.ValidToIdx tx.toIdx ∧
      (∃ txID, tx.calculateTxID sha256 = .ok txID ∧ (tx.txID = TxID.zero ∨ tx.txID = txID)) ∧
      ∃ typed, tx.setType = .ok typed ∧ (tx.type = "" ∨ tx.type = typed.type) := by
  rcases newL2Tx_cases sha256 tx with ⟨hv, -, herr⟩ | ⟨hv, hne, hty, h⟩ | ⟨hv, hty, e, he, h⟩ |
      ⟨hv, hty, txID, hid, -, -, herr⟩
  · exact ⟨fun h => absurd h herr, fun h => absurd h.1 hv⟩
  · rw [h, L2Tx.setType_of_valid hv]
    simp [hne, hty]
  · rw [h, he]
    simp
  · rw [herr, hid, L2Tx.setType_of_valid hv]
    simp [hv, hty]

theorem newL2Tx_ok_value (tx : L2Tx) (hok : (newL2Tx sha256 tx).err = none) :
    (newL2Tx sha256 tx).returnsTx = true ∧ ∃ txID, tx.calculateTxID sha256 = .ok txID ∧
      (newL2Tx sha256 tx).value = { tx with type := L2Tx.typeOfToIdx tx.toIdx, txID := txID } := by
  rcases newL2Tx_cases sha256 tx with ⟨-, -, herr⟩ | ⟨-, -, -, h⟩ | ⟨-, -, e, -, h⟩ |
      ⟨-, -, txID, hid, hval, hret, -⟩
  · exact absurd hok herr
  · rw [h] at hok; cases hok
  · rw [h] at hok; cases hok
  · exact ⟨hret, txID, hid, hval⟩

theorem newL2Tx_idempotent (tx : L2Tx) (hok : (newL2Tx sha256 tx).err = none) :
    newL2Tx sha256 (newL2Tx sha256 tx).value = ⟨(newL2Tx sha256 tx).value, true, none⟩ := by
  obtain ⟨-, txID, hid, hval⟩ := newL2Tx_ok_value sha256 tx hok
  have hv : L2Tx.ValidToIdx tx.toIdx := ((newL2Tx_err_eq_none_iff sha256 tx).mp hok).1
  rw [hval]
  set v := { tx with type := L2Tx.typeOfToIdx tx.toIdx, txID := txID }
  rcases newL2Tx_cases sha256 v with ⟨hv', -⟩ | ⟨-, -, hty, -⟩ | ⟨-, -, e, he, -⟩ |
      ⟨-, -, txID', hid', hval', hret', herr'⟩
  · exact absurd hv hv'
  · exact absurd rfl hty
  · rw [L2Tx.calculateTxID_with_type_txID, hid] at he; cases he
  · rw [L2Tx.calculateTxID_with_type_txID, hid] at hid'
    cases hid'
    cases hcall : newL2Tx sha256 v with
    | mk value returnsTx err =>
        rw [hcall] at hval' hret' herr'
        have herr : err = none := herr'.mpr (.inr rfl)
        simp only at hval' hret'
        rw [hval', hret', herr]

/-- `NewL2Tx` succeeds exactly when the recipient index is `1` or a user index,
`CalculateTxID` succeeds, and the supplied `Type` and `TxID` are unset or equal to the
computed ones.  A success changes only `Type` and `TxID`, and is a fixed point.  A failure
leaves the caller's transaction as it was on an invalid recipient index, with the computed
`Type` on a `Type` mismatch or a failed `CalculateTxID`, and with both computed fields on a
`TxID` mismatch, the one failure that also returns `tx`. -/
theorem newL2Tx_spec (tx : L2Tx) :
    ((newL2Tx sha256 tx).err = none ↔
      (tx.toIdx = 1 ∨ 256 ≤ tx.toIdx) ∧
      (∃ txID, tx.calculateTxID sha256 = .ok txID ∧ (tx.txID = TxID.zero ∨ tx.txID = txID)) ∧
      ∃ typed, tx.setType = .ok typed ∧ (tx.type = "" ∨ tx.type = typed.type)) ∧
    ((newL2Tx sha256 tx).err = none →
      (newL2Tx sha256 tx).returnsTx = true ∧
      (∃ type txID, (newL2Tx sha256 tx).value = { tx with type := type, txID := txID }) ∧
      newL2Tx sha256 (newL2Tx sha256 tx).value = ⟨(newL2Tx sha256 tx).value, true, none⟩) ∧
    (¬ (tx.toIdx = 1 ∨ 256 ≤ tx.toIdx) →
      ∃ e, tx.setType = .error e ∧ newL2Tx sha256 tx = ⟨tx, false, some e⟩) ∧
    ((tx.toIdx = 1 ∨ 256 ≤ tx.toIdx) → tx.type ≠ "" → tx.type ≠ L2Tx.typeOfToIdx tx.toIdx →
      newL2Tx sha256 tx = ⟨{ tx with type := L2Tx.typeOfToIdx tx.toIdx }, false,
        some (.error ("L2Tx.Type: " ++ L2Tx.typeOfToIdx tx.toIdx ++ ", should be: " ++ tx.type))⟩) ∧
    (∀ e, (tx.toIdx = 1 ∨ 256 ≤ tx.toIdx) → (tx.type = "" ∨ tx.type = L2Tx.typeOfToIdx tx.toIdx) →
      tx.calculateTxID sha256 = .error e →
      newL2Tx sha256 tx = ⟨{ tx with type := L2Tx.typeOfToIdx tx.toIdx }, false, some e⟩) ∧
    (∀ txID, (tx.toIdx = 1 ∨ 256 ≤ tx.toIdx) →
      (tx.type = "" ∨ tx.type = L2Tx.typeOfToIdx tx.toIdx) → tx.calculateTxID sha256 = .ok txID →
      tx.txID ≠ TxID.zero → tx.txID ≠ txID →
      newL2Tx sha256 tx = ⟨{ tx with type := L2Tx.typeOfToIdx tx.toIdx, txID := txID }, true,
        some (.error ("L2Tx.TxID: " ++ txID.string ++ ", should be: " ++ tx.txID.string))⟩) := by
  refine ⟨newL2Tx_err_eq_none_iff sha256 tx, fun hok => ?_, newL2Tx_of_not_valid sha256,
    newL2Tx_of_type_mismatch sha256, fun e hv hty => newL2Tx_of_calculateTxID_error sha256 hv hty,
    fun txID hv hty hid hz hne => ?_⟩
  · obtain ⟨hret, txID, -, hval⟩ := newL2Tx_ok_value sha256 tx hok
    exact ⟨hret, ⟨_, txID, hval⟩, newL2Tx_idempotent sha256 tx hok⟩
  · rw [newL2Tx_of_calculateTxID_ok sha256 hv hty hid, if_pos ⟨hz, hne⟩]

/-- A rejected transaction is not left as the caller passed it: with recipient index 256
and a supplied `Exit` type, `SetType` has already written `Transfer` when the mismatch is
reported. -/
theorem newL2Tx_failure_overwrites_type :
    ¬ ∀ (sha256 : List UInt8 → List UInt8) (tx : L2Tx),
      (newL2Tx sha256 tx).err ≠ none → (newL2Tx sha256 tx).value = tx := by
  intro h
  have := h (fun _ => []) { L2Tx.empty with toIdx := 256, type := txTypeExit } (by decide)
  revert this
  decide

end NewL2Tx

end HermezNode
