import HermezNode.Common.L2Tx

namespace HermezNode

/-! The data-availability encoding of an L2 transaction (common/l2tx.go). -/

namespace L2Tx

/-- `L2Tx.BytesDataAvailability`.  `nLevels` is a `uint32`: `6-idxLen` and the buffer
length are computed with Go's wrapping arithmetic. -/
def bytesDataAvailability (tx : L2Tx) (nLevels : UInt32) : Except Failure (List UInt8) := do
  let idxLen := nLevels / 8
  let b := List.replicate (((nLevels * 2) + 16 + 8) / 8).toNat (0 : UInt8)
  let fromIdxBytes ← Idx.bytes tx.fromIdx
  let fromSrc ← sliceFrom fromIdxBytes (6 - idxLen).toNat
  let b ← copySlice b 0 idxLen.toNat fromSrc
  let toIdxBytes ← Idx.bytes tx.toIdx
  let toSrc ← sliceFrom toIdxBytes (6 - idxLen).toNat
  let b ← copySlice b idxLen.toNat (idxLen * 2).toNat toSrc
  let amountFloat16 ← newFloat16 tx.amount
  let b ← copySlice b (idxLen * 2).toNat (idxLen * 2 + 2).toNat amountFloat16.bytes
  setIndex b (idxLen * 2 + 2).toNat tx.fee

end L2Tx

/-- `L2TxFromBytesDataAvailability`.  `nLevels` is an `int`; Go's `/` truncates. -/
def l2TxFromBytesDataAvailability (b : List UInt8) (nLevels : Int) : Except Failure L2Tx := do
  let idxLen := nLevels.tdiv 8
  let fromSrc ← slice b 0 idxLen
  let paddedFromIdxBytes ← copySlice (List.replicate 6 0) (6 - idxLen) 6 fromSrc
  let fromIdx ← idxFromBytes paddedFromIdxBytes
  let toSrc ← slice b idxLen (idxLen * 2)
  let paddedToIdxBytes ← copySlice (List.replicate 6 0) (6 - idxLen) 6 toSrc
  let toIdx ← idxFromBytes paddedToIdxBytes
  let amountBytes ← slice b (idxLen * 2) (idxLen * 2 + 2)
  let fee ← index b (idxLen * 2 + 2)
  pure { L2Tx.empty with
    fromIdx := fromIdx, toIdx := toIdx, amount := (float16FromBytes amountBytes).bigInt, fee := fee }

/-! ### Buffer filling -/

section Buffer

variable {α : Type}

theorem copySlice_zeros (pre src : List α) (z : α) (r : Nat) :
    copySlice (pre ++ List.replicate (src.length + r) z) pre.length
      (pre.length + src.length) src = .ok (pre ++ src ++ List.replicate r z) := by
  have h := copySlice_ok (pre ++ List.replicate (src.length + r) z) src
    (Nat.le_add_right pre.length src.length) (by simp) (by omega)
  push_cast at h
  rw [h, List.take_left, List.drop_append_eq_append_drop]
  simp [List.drop_replicate]

theorem setIndex_last (pre : List α) (z x : α) :
    setIndex (pre ++ List.replicate 1 z) pre.length x = .ok (pre ++ [x]) := by
  rw [setIndex_ok (by simp)]
  simp

end Buffer

/-! ### One lemma per direction -/

section Widths

variable {nLevels : UInt32}

private theorem toNat_idxLen : (nLevels / 8).toNat = nLevels.toNat / 8 := by
  rw [UInt32.toNat_div]; rfl

private theorem toNat_bufferLen (hmul : nLevels.toNat % 8 = 0) (hhi : nLevels.toNat ≤ 48) :
    ((nLevels * 2 + 16 + 8) / 8).toNat = 2 * (nLevels.toNat / 8) + 3 := by
  simp only [UInt32.toNat_div, UInt32.toNat_add, UInt32.toNat_mul, UInt32.size,
    UInt32.toNat_ofNat, Nat.reduceMod]
  omega

private theorem toNat_pad (hhi : nLevels.toNat ≤ 48) :
    (6 - nLevels / 8).toNat = 6 - nLevels.toNat / 8 := by
  rw [UInt32.toNat_sub, toNat_idxLen]
  simp only [UInt32.size, UInt32.toNat_ofNat, Nat.reduceMod]
  omega

private theorem toNat_idxLen_two (hhi : nLevels.toNat ≤ 48) :
    (nLevels / 8 * 2).toNat = nLevels.toNat / 8 + nLevels.toNat / 8 := by
  rw [UInt32.toNat_mul, toNat_idxLen]
  simp only [UInt32.size, UInt32.toNat_ofNat, Nat.reduceMod]
  omega

private theorem toNat_idxLen_two_two (hhi : nLevels.toNat ≤ 48) :
    (nLevels / 8 * 2 + 2).toNat = nLevels.toNat / 8 + nLevels.toNat / 8 + 2 := by
  rw [UInt32.toNat_add, toNat_idxLen_two hhi]
  simp only [UInt32.size, UInt32.toNat_ofNat, Nat.reduceMod]
  omega

end Widths

/-- On admissible widths the encoder writes the truncated indexes, the amount's two bytes
and the fee, in that order. -/
theorem bytesDataAvailability_eq (tx : L2Tx) {nLevels : UInt32}
    (hmul : nLevels.toNat % 8 = 0) (hhi : nLevels.toNat ≤ 48)
    (hfrom : tx.fromIdx < 2 ^ nLevels.toNat) (hto : tx.toIdx < 2 ^ nLevels.toNat)
    {f : Float16} (hamount : newFloat16 tx.amount = .ok f) :
    tx.bytesDataAvailability nLevels = .ok (beBytes (nLevels.toNat / 8) tx.fromIdx ++
      beBytes (nLevels.toNat / 8) tx.toIdx ++ f.bytes ++ [tx.fee]) := by
  have h48 : 2 ^ nLevels.toNat ≤ 2 ^ 48 := Nat.pow_le_pow_right (by decide) hhi
  simp only [L2Tx.bytesDataAvailability, toNat_bufferLen hmul hhi, toNat_idxLen,
    toNat_pad hhi, toNat_idxLen_two hhi, toNat_idxLen_two_two hhi,
    Idx.bytes_of_lt (Nat.lt_of_lt_of_le hfrom h48), Idx.bytes_of_lt (Nat.lt_of_lt_of_le hto h48),
    sliceFrom_ok (by simp : 6 - nLevels.toNat / 8 ≤ (beBytes 6 _).length),
    drop_beBytes (by omega : nLevels.toNat / 8 ≤ 6), hamount, bind, Except.bind]
  generalize nLevels.toNat / 8 = k
  have h1 := copySlice_zeros [] (beBytes k tx.fromIdx) 0 (k + 3)
  have h2 := copySlice_zeros (beBytes k tx.fromIdx) (beBytes k tx.toIdx) 0 3
  have h3 := copySlice_zeros (beBytes k tx.fromIdx ++ beBytes k tx.toIdx) f.bytes 0 1
  have h4 := setIndex_last (beBytes k tx.fromIdx ++ beBytes k tx.toIdx ++ f.bytes) 0 tx.fee
  simp only [length_beBytes, List.length_append, Float16.length_bytes, List.nil_append,
    List.length_nil, Nat.zero_add] at h1 h2 h3 h4
  push_cast at h1 h2 h3 h4 ⊢
  rw [zero_add] at h1
  rw [show 2 * k + 3 = k + (k + 3) by omega]
  simp only [h1, h2, h3, h4]

/-- `copy(padded[6-k:], src)` into a zeroed `[6]byte`. -/
theorem copySlice_pad {k : Nat} (hk : k ≤ 6) {src : List UInt8} (hsrc : src.length = k) :
    copySlice (List.replicate 6 0) (6 - (k : Int)) 6 src = .ok (List.replicate (6 - k) 0 ++ src) := by
  have h := copySlice_ok (List.replicate 6 (0 : UInt8)) src (Nat.sub_le 6 k) (by simp)
    (by omega)
  rw [show ((6 - k : Nat) : Int) = 6 - (k : Int) by omega, Nat.cast_ofNat] at h
  rw [h, List.take_replicate, List.drop_replicate, Nat.min_eq_left (Nat.sub_le 6 k)]
  simp

/-- On two `k`-byte indexes, two amount bytes and a fee byte the decoder pads each index
back to six bytes and reads every field. -/
theorem l2TxFromBytesDataAvailability_eq {nLevels : Int} {k : Nat} (hk : nLevels.tdiv 8 = k)
    (hk6 : k ≤ 6) {fromBytes toBytes amountBytes : List UInt8} (fee : UInt8)
    (hfrom : fromBytes.length = k) (hto : toBytes.length = k) (hamount : amountBytes.length = 2) :
    l2TxFromBytesDataAvailability (fromBytes ++ toBytes ++ amountBytes ++ [fee]) nLevels =
      .ok { L2Tx.empty with
        fromIdx := beValue fromBytes, toIdx := beValue toBytes,
        amount := (float16FromBytes amountBytes).bigInt, fee := fee } := by
  have hs1 := slice_append_left fromBytes (toBytes ++ amountBytes ++ [fee])
  have hs2 := slice_append_right fromBytes toBytes (amountBytes ++ [fee])
  have hs3 := slice_append_right (fromBytes ++ toBytes) amountBytes [fee]
  have hget : (fromBytes ++ (toBytes ++ (amountBytes ++ [fee])))[k + k + 2]? = some fee := by
    rw [List.getElem?_append_right (by omega), List.getElem?_append_right (by omega),
      List.getElem?_append_right (by omega)]
    simp [hfrom, hto, hamount, show k + k + 2 - k - k - 2 = 0 by omega]
  have hi := index_of_getElem? hget
  simp only [List.append_assoc] at hs1 hs2 hs3
  simp only [hfrom, hto, hamount, List.length_append] at hs1 hs2 hs3
  push_cast at hs1 hs2 hs3 hi
  simp only [l2TxFromBytesDataAvailability, hk, List.append_assoc, zero_add, hs1, hs2, hs3,
    show (k : Int) * 2 = k + k by ring, hi, copySlice_pad hk6 hfrom, copySlice_pad hk6 hto, bind, Except.bind, pure, Except.pure,
    idxFromBytes_of_length (by simp [hfrom]; omega : (List.replicate (6 - k) 0 ++ fromBytes).length = 6),
    idxFromBytes_of_length (by simp [hto]; omega : (List.replicate (6 - k) 0 ++ toBytes).length = 6),
    beValue_zeros_append]

theorem two_pow_eq_256_pow {n : Nat} (hmul : n % 8 = 0) : 2 ^ n = 256 ^ (n / 8) := by
  rw [show (256 : Nat) = 2 ^ 8 by rfl, ← pow_mul, Nat.mul_div_cancel' (Nat.dvd_of_mod_eq_zero hmul)]

/-- Encoding at an admissible width and decoding at the same width gives the empty
transaction carrying exactly the four encoded fields. -/
theorem l2TxFromBytesDataAvailability_bytesDataAvailability (tx : L2Tx) {nLevels : UInt32}
    (hmul : nLevels.toNat % 8 = 0) (hhi : nLevels.toNat ≤ 48)
    (hfrom : tx.fromIdx < 2 ^ nLevels.toNat) (hto : tx.toIdx < 2 ^ nLevels.toNat)
    {f : Float16} (hamount : newFloat16 tx.amount = .ok f) :
    ∃ b, tx.bytesDataAvailability nLevels = .ok b ∧ b.length = 2 * (nLevels.toNat / 8) + 3 ∧
      l2TxFromBytesDataAvailability b nLevels.toNat = .ok { L2Tx.empty with
        fromIdx := tx.fromIdx, toIdx := tx.toIdx, amount := tx.amount, fee := tx.fee } := by
  have hk : (nLevels.toNat : Int).tdiv 8 = ((nLevels.toNat / 8 : Nat) : Int) :=
    (Int.ofNat_tdiv nLevels.toNat 8).symm
  have hfrom' := hfrom
  have hto' := hto
  rw [two_pow_eq_256_pow hmul] at hfrom' hto'
  refine ⟨_, bytesDataAvailability_eq tx hmul hhi hfrom hto hamount, by simp; omega, ?_⟩
  rw [l2TxFromBytesDataAvailability_eq hk (by omega) tx.fee (length_beBytes _ _)
    (length_beBytes _ _) (Float16.length_bytes f), beValue_beBytes_of_lt hfrom',
    beValue_beBytes_of_lt hto', float16FromBytes_bytes, bigInt_of_newFloat16 hamount]

/-- The data-availability codec round-trips.  For every width `nLevels` that is a multiple
of 8 up to 48, every pair of indexes below `2^nLevels`, every amount `NewFloat16` encodes
exactly and every fee, the encoding has `2·(nLevels/8)+3` bytes, and decoding it at the same
width succeeds, so reads only inside it, and gives back both indexes, the amount and the
fee. -/
theorem l2Tx_dataAvailability_roundTrip (tx : L2Tx) (nLevels : UInt32)
    (hmul : nLevels.toNat % 8 = 0) (hhi : nLevels.toNat ≤ 48)
    (hfrom : tx.fromIdx < 2 ^ nLevels.toNat) (hto : tx.toIdx < 2 ^ nLevels.toNat)
    (f : Float16) (hamount : newFloat16 tx.amount = .ok f) :
    ∃ b, tx.bytesDataAvailability nLevels = .ok b ∧ b.length = 2 * (nLevels.toNat / 8) + 3 ∧
      ∃ tx', l2TxFromBytesDataAvailability b nLevels.toNat = .ok tx' ∧
        tx'.fromIdx = tx.fromIdx ∧ tx'.toIdx = tx.toIdx ∧ tx'.amount = tx.amount ∧
        tx'.fee = tx.fee := by
  obtain ⟨b, henc, hlen, hdec⟩ :=
    l2TxFromBytesDataAvailability_bytesDataAvailability tx hmul hhi hfrom hto hamount
  exact ⟨b, henc, hlen, _, hdec, rfl, rfl, rfl, rfl⟩

/-- The round trip at 32 levels on a transfer between accounts 300 and 301. -/
theorem l2Tx_dataAvailability_roundTrip_at_32 :
    let tx := { L2Tx.empty with fromIdx := 300, toIdx := 301, amount := 1000, fee := 5 }
    newFloat16 tx.amount = .ok ⟨1000⟩ ∧
    ∃ b, tx.bytesDataAvailability 32 = .ok b ∧ b.length = 11 ∧
      ∃ tx', l2TxFromBytesDataAvailability b 32 = .ok tx' ∧
        tx'.fromIdx = 300 ∧ tx'.toIdx = 301 ∧ tx'.amount = 1000 ∧ tx'.fee = 5 :=
  ⟨rfl, l2Tx_dataAvailability_roundTrip _ 32 (by decide) (by decide) (by decide) (by decide)
    ⟨1000⟩ rfl⟩

end HermezNode
