import HermezNode.Common.Codec

namespace HermezNode

/-! The closures `RollupL1UserTxERC20ETH` and `RollupL1UserTxERC777` hand to `CallAuth`
(eth/rollup.go). -/

/-- `ethCommon.LeftPadBytes(slice, l)`: the slice itself when it is at least `l` long,
otherwise zeros in front up to length `l`. -/
def leftPadBytes (slice : List UInt8) (l : Nat) : List UInt8 :=
  if l ≤ slice.length then slice else List.replicate (l - slice.length) 0 ++ slice

/-- `math.U256Bytes`: the 32-byte two's-complement word go-ethereum's `abi` packs an integer
argument of a static type into. -/
def abiWord (n : Int) : List UInt8 := beBytes 32 (n % 2 ^ 256).toNat

/-- `common.Idx(i)` of an `int64`: the conversion to `uint64` wraps. -/
def idxOfInt64 (i : Int) : Idx := (i % 2 ^ 64).toNat

/-- The signature whose Keccak-256 hash starts with the selector of the ERC777 path. -/
def addL1TxFnSignature : String := "addL1Transaction(uint256,uint48,uint16,uint16,uint32,uint48)"

/-- The arguments `RollupL1UserTxERC20ETH` passes to the binding's `AddL1Transaction`. -/
structure AddL1TransactionArgs where
  babyPubKey : Nat
  fromIdx : Int
  loadAmountF : UInt16
  amountF : UInt16
  tokenID : UInt32
  toIdx : Int
  deriving DecidableEq, Repr

/-- The words `abi.Pack` lays out after the selector for the arguments, one per argument. -/
def AddL1TransactionArgs.pack (args : AddL1TransactionArgs) : List UInt8 :=
  abiWord args.babyPubKey ++ abiWord args.fromIdx ++ abiWord args.loadAmountF.toNat ++
    abiWord args.amountF.toNat ++ abiWord args.tokenID.toNat ++ abiWord args.toIdx

section Paths

variable (keccak256 : String → List UInt8) (swapEndianness : List UInt8 → List UInt8)
  (fromBJJ : PublicKeyComp) (fromIdx loadAmount amount : Int) (tokenID : UInt32) (toIdx : Int)

/-- The closure of `RollupL1UserTxERC20ETH`: the arguments of `AddL1Transaction`, and
`auth.Value`, the Ether attached when the token is 0. `common.SwapEndianness` is not in the
sources and is the parameter `swapEndianness`. -/
def rollupL1UserTxERC20ETH : Except Failure (AddL1TransactionArgs × Option Int) := do
  let pkCompB := swapEndianness fromBJJ.bytes
  let babyPubKey := beValue pkCompB
  let loadAmountF ← newFloat16 loadAmount
  let amountF ← newFloat16 amount
  pure (⟨babyPubKey, fromIdx, loadAmountF.bits, amountF.bits, tokenID, toIdx⟩,
    if tokenID = 0 then some loadAmount else none)

/-- The closure of `RollupL1UserTxERC777`: the HEZ amount `tokens.Send` transfers to the
rollup, and the data sent with it. -/
def rollupL1UserTxERC777 : Except Failure (Int × List UInt8) := do
  let methodID := (keccak256 addL1TxFnSignature).take 4
  let pkCompB := swapEndianness fromBJJ.bytes
  let paddedAddress := leftPadBytes pkCompB 32
  let fromIdxB ← Idx.bytes (idxOfInt64 fromIdx)
  let paddedFromIdx := leftPadBytes fromIdxB 32
  let loadAmountF ← newFloat16 loadAmount
  let paddedLoadAmount := leftPadBytes loadAmountF.bytes 32
  let amountF ← newFloat16 amount
  let paddedAmount := leftPadBytes amountF.bytes 32
  let paddedTokenID := leftPadBytes (TokenID.bytes tokenID) 32
  let toIdxB ← Idx.bytes (idxOfInt64 toIdx)
  let paddedToIdx := leftPadBytes toIdxB 32
  pure (loadAmount, methodID ++ paddedAddress ++ paddedFromIdx ++ paddedLoadAmount ++
    paddedAmount ++ paddedTokenID ++ paddedToIdx)

end Paths

section Words

/-- A big-endian value of at most 32 bytes, left-padded to 32, is its ABI word. -/
theorem leftPadBytes_beBytes {w n : Nat} (hw : w ≤ 32) (hn : n < 256 ^ w) :
    leftPadBytes (beBytes w n) 32 = abiWord n := by
  have hword : abiWord n = beBytes 32 n := by
    rw [abiWord, Int.emod_eq_of_lt (by omega)
      (by exact_mod_cast hn.trans_le (Nat.pow_le_pow_right (by norm_num) hw))]
    rfl
  rw [hword, leftPadBytes, length_beBytes]
  split
  · rename_i hle
    obtain rfl : w = 32 := le_antisymm hw hle
    rfl
  · have hsplit : beBytes 32 n = beBytes (32 - w) (n / 256 ^ w) ++ beBytes w n := by
      rw [← beBytes_add, Nat.sub_add_cancel hw]
    rw [hsplit, Nat.div_eq_of_lt hn, beBytes_zero]

/-- A byte string of at most 32 bytes, left-padded to 32, is the ABI word of its value. -/
theorem leftPadBytes_eq_abiWord {b : List UInt8} (h : b.length ≤ 32) :
    leftPadBytes b 32 = abiWord (beValue b) := by
  conv_lhs => rw [← beBytes_beValue b]
  exact leftPadBytes_beBytes h (beValue_lt b)

theorem idxBytes_of_range {i : Int} (h0 : 0 ≤ i) (h48 : i < 2 ^ 48) :
    Idx.bytes (idxOfInt64 i) = .ok (beBytes 6 i.toNat) := by
  have hconv : idxOfInt64 i = i.toNat := by
    rw [idxOfInt64, Int.emod_eq_of_lt h0 (h48.trans (by norm_num))]
  have hlt : i.toNat < 2 ^ 48 := by omega
  rw [hconv, Idx.bytes_of_lt hlt]

/-- The six bytes of an index in `[0, 2^48)`, left-padded, are the ABI word of the `int64`. -/
theorem leftPadBytes_idx {i : Int} (h0 : 0 ≤ i) (h48 : i < 2 ^ 48) :
    leftPadBytes (beBytes 6 i.toNat) 32 = abiWord i := by
  rw [leftPadBytes_beBytes (by norm_num) (by omega), Int.toNat_of_nonneg h0]

theorem leftPadBytes_float16 (f : Float16) : leftPadBytes f.bytes 32 = abiWord f.bits.toNat :=
  leftPadBytes_beBytes (by norm_num) (UInt16.toNat_lt f.bits)

theorem leftPadBytes_tokenID (tokenID : TokenID) :
    leftPadBytes (TokenID.bytes tokenID) 32 = abiWord tokenID.toNat :=
  leftPadBytes_beBytes (by norm_num) (UInt32.toNat_lt tokenID)

end Words

/-- On indexes that fit 48 bits, the data the ERC777 path builds by hand is the selector
followed by the words the binding packs for the arguments of the ERC20/ETH path, and it sends
`loadAmount`; both fail alike when an amount cannot be encoded. -/
theorem rollupL1UserTxERC777_eq_pack (keccak256 : String → List UInt8)
    (swapEndianness : List UInt8 → List UInt8) (fromBJJ : PublicKeyComp)
    {fromIdx toIdx : Int} (loadAmount amount : Int) (tokenID : UInt32)
    (hswap : (swapEndianness fromBJJ.bytes).length ≤ 32)
    (hfrom : 0 ≤ fromIdx ∧ fromIdx < 2 ^ 48) (hto : 0 ≤ toIdx ∧ toIdx < 2 ^ 48) :
    rollupL1UserTxERC777 keccak256 swapEndianness fromBJJ fromIdx loadAmount amount tokenID toIdx =
      (rollupL1UserTxERC20ETH swapEndianness fromBJJ fromIdx loadAmount amount tokenID toIdx).map
        fun r => (loadAmount, (keccak256 addL1TxFnSignature).take 4 ++ r.1.pack) := by
  unfold rollupL1UserTxERC777 rollupL1UserTxERC20ETH
  rw [idxBytes_of_range hfrom.1 hfrom.2, idxBytes_of_range hto.1 hto.2, ok_bind]
  cases newFloat16 loadAmount with
  | error e => rfl
  | ok loadAmountF =>
    cases newFloat16 amount with
    | error e => rfl
    | ok amountF =>
      simp only [ok_bind, pure_eq_ok, map_ok, AddL1TransactionArgs.pack, List.append_assoc,
        leftPadBytes_eq_abiWord hswap, leftPadBytes_idx hfrom.1 hfrom.2,
        leftPadBytes_idx hto.1 hto.2, leftPadBytes_float16, leftPadBytes_tokenID]
      rfl

theorem rollupL1UserTxERC777_eq_pack_reverse :
    let fromBJJ : PublicKeyComp := ⟨List.replicate 32 7, List.length_replicate 32 7⟩
    (List.reverse fromBJJ.bytes).length ≤ 32 ∧ (0 ≤ (256 : Int) ∧ (256 : Int) < 2 ^ 48) ∧
      (0 ≤ (257 : Int) ∧ (257 : Int) < 2 ^ 48) ∧
      rollupL1UserTxERC777 (fun _ => List.replicate 32 1) List.reverse fromBJJ 256 10 3 0 257 =
        (rollupL1UserTxERC20ETH List.reverse fromBJJ 256 10 3 0 257).map
          fun r => (10, ((fun _ => List.replicate 32 1) addL1TxFnSignature).take 4 ++ r.1.pack) := by
  intro fromBJJ
  exact ⟨by simp [fromBJJ], by norm_num, by norm_num,
    rollupL1UserTxERC777_eq_pack (fun _ => List.replicate 32 1) List.reverse fromBJJ 10 3 0
      (by simp [fromBJJ]) (by norm_num) (by norm_num)⟩

/-- An `int64` index outside `[0, 2^48)`, negative ones included, makes the ERC777 path fail
with `ErrNumOverflow` before it reads the amounts. -/
theorem rollupL1UserTxERC777_of_fromIdx (keccak256 : String → List UInt8)
    (swapEndianness : List UInt8 → List UInt8) (fromBJJ : PublicKeyComp) {fromIdx : Int}
    (loadAmount amount : Int) (tokenID : UInt32) (toIdx : Int)
    (h64 : -2 ^ 63 ≤ fromIdx ∧ fromIdx < 2 ^ 63) (hout : fromIdx < 0 ∨ 2 ^ 48 ≤ fromIdx) :
    rollupL1UserTxERC777 keccak256 swapEndianness fromBJJ fromIdx loadAmount amount tokenID toIdx =
      .error (.error errNumOverflow) := by
  have hbig : ¬ (fromIdx % 2 ^ 64).toNat < 2 ^ 48 := by omega
  unfold rollupL1UserTxERC777
  rw [Idx.bytes, idxOfInt64, if_neg hbig]
  rfl

end HermezNode
