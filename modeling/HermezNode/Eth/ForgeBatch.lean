import HermezNode.Common.DataAvailability

namespace HermezNode

/-! The calldata of `forgeBatch` (eth/rollup.go), from the `ForgeBatch` call of the encoder
to the unpacked `RollupForgeBatchArgsAux` of the decoder. -/

def rollupConstMaxFeeIdxCoordinator : Nat := 64

/-- `common.L1CoordinatorTxBytesLen`, the 101 bytes of `RollupConstL1CoordinatorTotalBytes`. -/
def l1CoordinatorTxBytesLen : Nat := 101

/-- `common.L1Tx`, with the fields the coordinator-transaction codec reads and writes. -/
structure L1Tx where
  fromBJJ : PublicKeyComp
  tokenID : TokenID
  deriving DecidableEq

/-- Modelled from the spec: `L1Tx.BytesCoordinatorTx` is absent.  The spec's layout
`v(1)‖r(32)‖s(32)‖FromBJJcompressed(32)‖TokenID(4)`; which bytes of the 65-byte
authorization land in the first 65 is the parameter `sigLayout`. -/
def L1Tx.bytesCoordinatorTx (sigLayout : List UInt8 → List UInt8) (tx : L1Tx)
    (compressedSignatureBytes : List UInt8) : Except Failure (List UInt8) :=
  if compressedSignatureBytes.length = 65 then
    .ok (sigLayout compressedSignatureBytes ++ tx.fromBJJ.bytes ++ tx.tokenID.bytes)
  else .error (.panic "runtime error: index out of range")

/-- Modelled from the spec: `L1CoordinatorTxFromBytes` is absent.  It reads the compressed
key from bytes 65..97 and the token id from bytes 97..101 of a 101-byte record. -/
def l1CoordinatorTxFromBytes (b : List UInt8) : Except Failure L1Tx :=
  if h : b.length = l1CoordinatorTxBytesLen then do
    let tokenID ← tokenIDFromBytes ((b.drop 97).take 4)
    pure ⟨⟨(b.drop 65).take 32, by simp [h, l1CoordinatorTxBytesLen]⟩, tokenID⟩
  else .error (.error "Can not parse L1CoordinatorTx bytes, expected length 101")

/-- Modelled from the spec: `L2Tx.Bytes(nLevels)`, which `RollupForgeBatch` calls, is absent;
the spec's data-availability layout is the one `BytesDataAvailability` writes. -/
def L2Tx.bytes (tx : L2Tx) (nLevels : Nat) : Except Failure (List UInt8) :=
  tx.bytesDataAvailability (UInt32.ofNat nLevels)

/-- Modelled from the spec: `L2TxFromBytes`, which the decoder calls, is absent; it is the
data-availability decoder. -/
def l2TxFromBytes (b : List UInt8) (nLevels : Nat) : Except Failure L2Tx :=
  l2TxFromBytesDataAvailability b nLevels

/-- `RollupVerifierStruct`; `NLevels` comes from the contract's unsigned verifier data. -/
structure RollupVerifierStruct where
  maxTx : Int
  nLevels : Nat

/-- `RollupPublicConstants`, as far as the calldata codec reads them. -/
structure RollupPublicConstants where
  verifiers : List RollupVerifierStruct

structure RollupForgeBatchArgs where
  newLastIdx : Int
  newStRoot : Int
  newExitRoot : Int
  l1CoordinatorTxs : List L1Tx
  l1CoordinatorTxsAuths : List (List UInt8)
  l2TxsData : List L2Tx
  feeIdxCoordinator : List Idx
  verifierIdx : UInt8
  l1Batch : Bool
  proofA : Int × Int
  proofB : (Int × Int) × (Int × Int)
  proofC : Int × Int

/-- `RollupForgeBatchArgsAux`: the `forgeBatch` arguments as the ABI carries them. -/
structure RollupForgeBatchArgsAux where
  newLastIdx : Int
  newStRoot : Int
  newExitRoot : Int
  encodedL1CoordinatorTx : List UInt8
  l2TxsData : List UInt8
  feeIdxCoordinator : List UInt8
  verifierIdx : UInt8
  l1Batch : Bool
  proofA : Int × Int
  proofB : (Int × Int) × (Int × Int)
  proofC : Int × Int

/-! ### Encoder -/

/-- The loop of `RollupForgeBatch` over `args.L1CoordinatorTxs`, indexing the
authorizations in step (a missing authorization panics). -/
def encodeL1CoordinatorTxs (sigLayout : List UInt8 → List UInt8) :
    List L1Tx → List (List UInt8) → Except Failure (List UInt8)
  | [], _ => .ok []
  | _ :: _, [] => .error (.panic "runtime error: index out of range")
  | l1 :: txs, auth :: auths => do
      let bytesl1 ← l1.bytesCoordinatorTx sigLayout auth
      let rest ← encodeL1CoordinatorTxs sigLayout txs auths
      pure (bytesl1 ++ rest)

/-- The fee-recipient loop of `RollupForgeBatch`: 64 slots, the unused ones `Idx(0)`, each
cut to its low `lenBytes` bytes. -/
def encodeFeeIdxCoordinator (feeIdxs : List Idx) (lenBytes : Nat) :
    Except Failure (List UInt8) := do
  let slots ← (List.range rollupConstMaxFeeIdxCoordinator).mapM fun (i : Nat) => do
    let feeIdx := if i < feeIdxs.length then feeIdxs.getD i 0 else 0
    let bytesFeeIdx ← Idx.bytes feeIdx
    sliceFrom bytesFeeIdx ((bytesFeeIdx.length : Int) - lenBytes)
  pure slots.flatten

/-- The body of `RollupForgeBatch` up to the `ForgeBatch` call: the calldata it sends. -/
def rollupForgeBatchCall (consts : RollupPublicConstants) (sigLayout : List UInt8 → List UInt8)
    (args : RollupForgeBatchArgs) : Except Failure RollupForgeBatchArgsAux := do
  let verifier ← index consts.verifiers args.verifierIdx.toNat
  let nLevels := verifier.nLevels
  let lenBytes := nLevels / 8
  let l1CoordinatorBytes ←
    encodeL1CoordinatorTxs sigLayout args.l1CoordinatorTxs args.l1CoordinatorTxsAuths
  let l2DataBytes ← args.l2TxsData.mapM fun l2 => l2.bytes nLevels
  if args.feeIdxCoordinator.length > rollupConstMaxFeeIdxCoordinator then
    .error (.error ("len(args.FeeIdxCoordinator) > " ++ toString rollupConstMaxFeeIdxCoordinator))
  else
    let feeIdxCoordinator ← encodeFeeIdxCoordinator args.feeIdxCoordinator lenBytes
    pure ⟨args.newLastIdx, args.newStRoot, args.newExitRoot, l1CoordinatorBytes,
      l2DataBytes.flatten, feeIdxCoordinator, args.verifierIdx, args.l1Batch, args.proofA,
      args.proofB, args.proofC⟩

/-- `RollupForgeBatch`: the call's errors come back wrapped as `Failed forge batch: …`. -/
def rollupForgeBatch (consts : RollupPublicConstants) (sigLayout : List UInt8 → List UInt8)
    (args : RollupForgeBatchArgs) : Except Failure RollupForgeBatchArgsAux :=
  match rollupForgeBatchCall consts sigLayout args with
  | .error (.error msg) => .error (.error ("Failed forge batch: " ++ msg))
  | r => r

/-! ### Decoder -/

/-- `v := b[0]; s := b[1:33]; r := b[33:65]`, reassembled as `r ‖ s ‖ v`. -/
def reassembleSignature (bytesL1Coordinator : List UInt8) : Except Failure (List UInt8) := do
  let v ← index bytesL1Coordinator 0
  let s ← slice bytesL1Coordinator 1 33
  let r ← slice bytesL1Coordinator 33 65
  pure (r ++ s ++ [v])

/-- One iteration of the decoder's loop over coordinator transactions. -/
def decodeL1CoordinatorTx (bytesL1Coordinator : List UInt8) :
    Except Failure (L1Tx × List UInt8) := do
  let signature ← reassembleSignature bytesL1Coordinator
  let l1Tx ← l1CoordinatorTxFromBytes bytesL1Coordinator
  pure (l1Tx, signature)

/-- One fee slot: `copy` into a zeroed `[6]byte`, right-aligned when the slot is narrower. -/
def decodeFeeIdx (lenFeeIdxCoordinatorBytes : Nat) (slot : List UInt8) : Except Failure Idx := do
  let paddedFeeIdx ←
    if lenFeeIdxCoordinatorBytes < idxBytesLen then
      copySlice (List.replicate 6 0) (6 - (lenFeeIdxCoordinatorBytes : Int)) 6 slot
    else copySlice (List.replicate 6 0) 0 6 slot
  idxFromBytes paddedFeeIdx

/-- Go's integer `/`, which panics on a zero divisor. -/
def goDiv (a b : Nat) : Except Failure Nat :=
  if b = 0 then .error (.panic "runtime error: integer divide by zero") else .ok (a / b)

/-- `RollupForgeBatchArgs` after the ABI unpacking of the transaction's input. -/
def rollupForgeBatchArgs (consts : RollupPublicConstants) (aux : RollupForgeBatchArgsAux) :
    Except Failure RollupForgeBatchArgs := do
  let numTxsL1 := aux.encodedL1CoordinatorTx.length / l1CoordinatorTxBytesLen
  let l1s ← forChunks aux.encodedL1CoordinatorTx l1CoordinatorTxBytesLen numTxsL1
    decodeL1CoordinatorTx
  let verifier ← index consts.verifiers aux.verifierIdx.toNat
  let nLevels := verifier.nLevels
  let lenL2TxsBytes := (nLevels / 8) * 2 + 2 + 1
  let numTxsL2 := aux.l2TxsData.length / lenL2TxsBytes
  let l2s ← forChunks aux.l2TxsData lenL2TxsBytes numTxsL2 fun b => l2TxFromBytes b nLevels
  let lenFeeIdxCoordinatorBytes := nLevels / 8
  let numFeeIdxCoordinator ← goDiv aux.feeIdxCoordinator.length lenFeeIdxCoordinatorBytes
  let feeIdxs ← forChunks aux.feeIdxCoordinator lenFeeIdxCoordinatorBytes numFeeIdxCoordinator
    (decodeFeeIdx lenFeeIdxCoordinatorBytes)
  pure ⟨aux.newLastIdx, aux.newStRoot, aux.newExitRoot, l1s.map Prod.fst, l1s.map Prod.snd, l2s,
    feeIdxs.filter (· ≠ 0), aux.verifierIdx, aux.l1Batch, aux.proofA, aux.proofB, aux.proofC⟩

/-! ### Per-record round trips -/

/-- The proviso on the coordinator-transaction layout: the decoder's reassembly of bytes
`0`, `1..32` and `33..64` recovers every 65-byte authorization. -/
def SignatureLayoutInvertible (sigLayout : List UInt8 → List UInt8) : Prop :=
  ∀ auth : List UInt8, auth.length = 65 →
    (sigLayout auth).length = 65 ∧ reassembleSignature (sigLayout auth) = .ok auth

theorem reassembleSignature_append {x : List UInt8} (y : List UInt8) (hx : x.length = 65) :
    reassembleSignature (x ++ y) = reassembleSignature x := by
  have h0 : index (x ++ y) 0 = index x 0 := index_append_of_lt x y (i := 0) (by omega)
  have h1 : slice (x ++ y) 1 33 = slice x 1 33 := slice_append_of_le x y 1 33 (by omega)
  have h2 : slice (x ++ y) 33 65 = slice x 33 65 := slice_append_of_le x y 33 65 (by omega)
  simp only [reassembleSignature, h0, h1, h2]

theorem l1CoordinatorTxFromBytes_append {x : List UInt8} (hx : x.length = 65) (tx : L1Tx) :
    l1CoordinatorTxFromBytes (x ++ tx.fromBJJ.bytes ++ tx.tokenID.bytes) = .ok tx := by
  have hpk := tx.fromBJJ.length_eq
  have hlen : (x ++ tx.fromBJJ.bytes ++ tx.tokenID.bytes).length = l1CoordinatorTxBytesLen := by
    simp [hx, hpk, TokenID.bytes, l1CoordinatorTxBytesLen]
  have htok : ((x ++ tx.fromBJJ.bytes ++ tx.tokenID.bytes).drop 97).take 4 = tx.tokenID.bytes := by
    rw [List.drop_append_of_le_length (by simp [hx, hpk]), List.drop_eq_nil_of_le (by simp [hx, hpk])]
    simp [TokenID.bytes]
  have hkey : ((x ++ tx.fromBJJ.bytes ++ tx.tokenID.bytes).drop 65).take 32 = tx.fromBJJ.bytes := by
    rw [List.append_assoc, List.drop_append_of_le_length (by simp [hx]), List.drop_eq_nil_of_le (by simp [hx]),
      List.nil_append, List.take_append_of_le_length (by simp [hpk]), List.take_of_length_le (by simp [hpk])]
  simp only [l1CoordinatorTxFromBytes, hlen, dite_true, htok, tokenIDFromBytes_bytes, hkey]
  rfl

/-- A coordinator transaction and its authorization survive the 101-byte record. -/
theorem decodeL1CoordinatorTx_bytesCoordinatorTx {sigLayout : List UInt8 → List UInt8}
    (hlayout : SignatureLayoutInvertible sigLayout) (tx : L1Tx) {auth : List UInt8}
    (hauth : auth.length = 65) :
    ∃ r, tx.bytesCoordinatorTx sigLayout auth = .ok r ∧ r.length = l1CoordinatorTxBytesLen ∧
      decodeL1CoordinatorTx r = .ok (tx, auth) := by
  obtain ⟨hsig, hre⟩ := hlayout auth hauth
  refine ⟨sigLayout auth ++ tx.fromBJJ.bytes ++ tx.tokenID.bytes,
    by simp [L1Tx.bytesCoordinatorTx, hauth], ?_, ?_⟩
  · simp [hsig, tx.fromBJJ.length_eq, TokenID.bytes, l1CoordinatorTxBytesLen]
  · rw [decodeL1CoordinatorTx, List.append_assoc, reassembleSignature_append _ hsig, hre,
      ← List.append_assoc, l1CoordinatorTxFromBytes_append hsig]
    rfl

/-- The layout that the decoder's reassembly inverts: `v ‖ s ‖ r` for an authorization
`r ‖ s ‖ v`. -/
def vsrLayout (auth : List UInt8) : List UInt8 :=
  auth.drop 64 ++ (auth.drop 32).take 32 ++ auth.take 32

theorem reassembleSignature_vsr {r s : List UInt8} (v : UInt8) (hr : r.length = 32)
    (hs : s.length = 32) : reassembleSignature ([v] ++ s ++ r) = .ok (r ++ s ++ [v]) := by
  have h0 : index ([v] ++ s ++ r) 0 = .ok v := index_of_getElem? (i := 0) (by simp)
  have h1 := slice_append_right [v] s r
  have h2 := slice_append_right ([v] ++ s) r []
  simp only [List.append_nil, List.length_append, List.length_singleton, hs, hr, Nat.reduceAdd,
    Nat.cast_ofNat, Nat.cast_one, Int.reduceAdd] at h1 h2
  simp only [reassembleSignature, h0, h1, h2, ok_bind]
  rfl

theorem vsrLayout_invertible : SignatureLayoutInvertible vsrLayout := by
  intro auth hauth
  obtain ⟨v, hv⟩ := List.length_eq_one.mp (by simp [hauth] : (auth.drop 64).length = 1)
  have hsplit : auth = auth.take 32 ++ (auth.drop 32).take 32 ++ [v] := by
    have h64 : auth.drop 64 = (auth.drop 32).drop 32 := by rw [List.drop_drop]
    rw [← hv, h64, List.append_assoc, List.take_append_drop, List.take_append_drop]
  refine ⟨by simp [vsrLayout, hauth], ?_⟩
  rw [vsrLayout, hv, reassembleSignature_vsr v (by simp [hauth]) (by simp [hauth]), ← hsplit]

/-- A fee-recipient index below `256^k` survives its `k`-byte slot. -/
theorem decodeFeeIdx_slot {k : Nat} (hk : 0 < k) (hk6 : k ≤ 6) {idx : Idx} (hidx : idx < 256 ^ k) :
    (do let b ← Idx.bytes idx; sliceFrom b ((b.length : Int) - k)) = .ok (beBytes k idx) ∧
      decodeFeeIdx k (beBytes k idx) = .ok idx := by
  have h48 : idx < 2 ^ 48 := Nat.lt_of_lt_of_le hidx
    (by rw [show (2 : Nat) ^ 48 = 256 ^ 6 by rfl]; exact Nat.pow_le_pow_right (by decide) hk6)
  constructor
  · have hs : sliceFrom (beBytes 6 idx) ((6 - k : Nat) : Int) = .ok (beBytes k idx) := by
      rw [sliceFrom_ok (by simp), drop_beBytes hk6]
    rw [Idx.bytes_of_lt h48, ok_bind, length_beBytes]
    rwa [show ((6 - k : Nat) : Int) = ((6 : Nat) : Int) - k by omega] at hs
  · unfold decodeFeeIdx
    by_cases hlt : k < idxBytesLen
    · rw [if_pos hlt, copySlice_pad hk6 (length_beBytes k idx)]
      simp only [bind, Except.bind, idxFromBytes_of_length (by simp; omega : (List.replicate (6 - k) 0 ++ beBytes k idx).length = 6),
        beValue_zeros_append, beValue_beBytes_of_lt hidx]
    · have h6 : k = 6 := by simp [idxBytesLen] at hlt; omega
      subst h6
      have hc : copySlice (List.replicate 6 (0 : UInt8)) 0 6 (beBytes 6 idx) =
          .ok (beBytes 6 idx) := by
        simpa using copySlice_ok (List.replicate 6 (0 : UInt8)) (beBytes 6 idx)
          (by omega : 0 ≤ 6) (by simp) (by simp)
      simp only [if_neg hlt, hc, ok_bind, idxFromBytes_of_length (length_beBytes 6 idx),
        beValue_beBytes_of_lt hidx]

/-! ### Encoder shapes -/

theorem encodeL1CoordinatorTxs_eq_mapM (sigLayout : List UInt8 → List UInt8) :
    ∀ (txs : List L1Tx) (auths : List (List UInt8)), txs.length ≤ auths.length →
      encodeL1CoordinatorTxs sigLayout txs auths =
        List.flatten <$> (txs.zip auths).mapM fun p => p.1.bytesCoordinatorTx sigLayout p.2
  | [], _, _ => rfl
  | _ :: _, [], h => absurd h (by simp)
  | tx :: txs, auth :: auths, h => by
      rw [encodeL1CoordinatorTxs, encodeL1CoordinatorTxs_eq_mapM sigLayout txs auths
        (Nat.le_of_succ_le_succ h), List.zip_cons_cons, List.mapM_cons]
      cases tx.bytesCoordinatorTx sigLayout auth <;>
        cases (txs.zip auths).mapM (fun p => p.1.bytesCoordinatorTx sigLayout p.2) <;> rfl

/-- The 64 fee slots are the given indexes followed by `Idx(0)` padding. -/
theorem feeSlots_eq {l : List Idx} (h : l.length ≤ rollupConstMaxFeeIdxCoordinator) :
    (List.range rollupConstMaxFeeIdxCoordinator).map
        (fun (i : Nat) => if i < l.length then l.getD i 0 else 0) =
      l ++ List.replicate (rollupConstMaxFeeIdxCoordinator - l.length) 0 := by
  apply List.ext_getElem (by simp; omega)
  intro i h1 h2
  simp only [List.getElem_map, List.getElem_range]
  by_cases hi : i < l.length
  · rw [if_pos hi, List.getElem_append_left hi, List.getD_eq_getElem?_getD, List.getElem?_eq_getElem hi]
    rfl
  · rw [if_neg hi, List.getElem_append_right (by omega)]
    simp

theorem encodeFeeIdxCoordinator_eq_mapM {feeIdxs : List Idx}
    (h : feeIdxs.length ≤ rollupConstMaxFeeIdxCoordinator) (lenBytes : Nat) :
    encodeFeeIdxCoordinator feeIdxs lenBytes =
      List.flatten <$> (feeIdxs ++ List.replicate (rollupConstMaxFeeIdxCoordinator - feeIdxs.length) 0).mapM
        fun idx => Idx.bytes idx >>= fun b => sliceFrom b ((b.length : Int) - lenBytes) := by
  rw [encodeFeeIdxCoordinator, ← feeSlots_eq h, mapM_map_except]
  rfl

/-! ### Round trip -/

section RoundTrip

variable {consts : RollupPublicConstants} {sigLayout : List UInt8 → List UInt8}
  {args : RollupForgeBatchArgs} {verifier : RollupVerifierStruct}

/-- The fee slots `RollupForgeBatch` cuts to `nLevels/8` bytes decode back to the padded
index list. -/
theorem feeIdxCoordinator_roundTrip (hmul : verifier.nLevels % 8 = 0)
    (hlo : 8 ≤ verifier.nLevels) (hhi : verifier.nLevels ≤ 48)
    (hfee : ∀ idx ∈ args.feeIdxCoordinator, 0 < idx ∧ idx < 2 ^ verifier.nLevels) :
    ∃ rs, (args.feeIdxCoordinator ++
        List.replicate (rollupConstMaxFeeIdxCoordinator - args.feeIdxCoordinator.length) 0).mapM
          (fun idx => Idx.bytes idx >>= fun b =>
            sliceFrom b ((b.length : Int) - ((verifier.nLevels / 8 : Nat) : Int))) = .ok rs ∧
      forChunks rs.flatten (verifier.nLevels / 8) (rs.flatten.length / (verifier.nLevels / 8))
        (decodeFeeIdx (verifier.nLevels / 8)) = .ok (args.feeIdxCoordinator ++
          List.replicate (rollupConstMaxFeeIdxCoordinator - args.feeIdxCoordinator.length) 0) := by
  have hpow : 2 ^ verifier.nLevels = 256 ^ (verifier.nLevels / 8) := two_pow_eq_256_pow hmul
  obtain ⟨rs, henc, ys, hdec, hys⟩ := forChunks_mapM_roundTrip
    (fun idx => Idx.bytes idx >>= fun b =>
      sliceFrom b ((b.length : Int) - ((verifier.nLevels / 8 : Nat) : Int)))
    (decodeFeeIdx (verifier.nLevels / 8)) id id (by omega : 0 < verifier.nLevels / 8)
    (l := args.feeIdxCoordinator ++
      List.replicate (rollupConstMaxFeeIdxCoordinator - args.feeIdxCoordinator.length) 0)
    fun idx hidx => by
      have hlt : idx < 256 ^ (verifier.nLevels / 8) := by
        rcases List.mem_append.mp hidx with h | h
        · exact hpow ▸ (hfee idx h).2
        · rw [List.eq_of_mem_replicate h]; exact Nat.pos_pow_of_pos _ (by decide)
      obtain ⟨henc, hdec⟩ := decodeFeeIdx_slot (by omega) (by omega) hlt
      exact ⟨_, henc, length_beBytes _ _, _, hdec, rfl⟩
  rw [List.map_id, List.map_id] at hys
  exact ⟨rs, henc, hys ▸ hdec⟩

/-- The L2 records `RollupForgeBatch` writes decode back to transactions with the same
`FromIdx`, `ToIdx`, `Amount` and `Fee`. -/
theorem l2TxsData_roundTrip (hmul : verifier.nLevels % 8 = 0) (hhi : verifier.nLevels ≤ 48)
    (hl2 : ∀ tx ∈ args.l2TxsData, tx.fromIdx < 2 ^ verifier.nLevels ∧
      tx.toIdx < 2 ^ verifier.nLevels ∧ ∃ f, newFloat16 tx.amount = .ok f) :
    ∃ rs, args.l2TxsData.mapM (fun l2 => l2.bytes verifier.nLevels) = .ok rs ∧ ∃ ys,
      forChunks rs.flatten (verifier.nLevels / 8 * 2 + 2 + 1)
        (rs.flatten.length / (verifier.nLevels / 8 * 2 + 2 + 1))
        (fun b => l2TxFromBytes b verifier.nLevels) = .ok ys ∧
      ys.map (fun tx => (tx.fromIdx, tx.toIdx, tx.amount, tx.fee)) =
        args.l2TxsData.map fun tx => (tx.fromIdx, tx.toIdx, tx.amount, tx.fee) := by
  have hn : (UInt32.ofNat verifier.nLevels).toNat = verifier.nLevels :=
    UInt32.toNat_ofNat_of_lt (by simp only [UInt32.size]; omega)
  refine forChunks_mapM_roundTrip _ _ _ _ (by omega) fun tx hx => ?_
  obtain ⟨hfrom, hto, f, hamount⟩ := hl2 tx hx
  obtain ⟨b, henc, hlen, hdec⟩ := l2TxFromBytesDataAvailability_bytesDataAvailability tx
    (by rw [hn]; exact hmul : (UInt32.ofNat verifier.nLevels).toNat % 8 = 0)
    (by rw [hn]; exact hhi) (by rw [hn]; exact hfrom) (by rw [hn]; exact hto) hamount
  rw [hn] at hlen hdec
  exact ⟨b, henc, by omega, _, hdec, rfl⟩

/-- Calldata round trip of `forgeBatch`: for a verifier whose `NLevels` is a multiple of 8
between 8 and 48, `RollupForgeBatch` succeeds on well-formed arguments, and
`RollupForgeBatchArgs` reads back the same arguments: the coordinator transactions and
their authorizations exactly (whatever order `sigLayout` writes the signature in, as long
as the decoder's reassembly inverts it), the fee-recipient indexes without their zero
padding, and L2 transactions that agree on `FromIdx`, `ToIdx`, `Amount` and `Fee`. -/
theorem rollupForgeBatchArgs_rollupForgeBatch (hlayout : SignatureLayoutInvertible sigLayout)
    (hverifier : consts.verifiers[args.verifierIdx.toNat]? = some verifier)
    (hmul : verifier.nLevels % 8 = 0) (hlo : 8 ≤ verifier.nLevels) (hhi : verifier.nLevels ≤ 48)
    (hfeeLen : args.feeIdxCoordinator.length ≤ rollupConstMaxFeeIdxCoordinator)
    (hfee : ∀ idx ∈ args.feeIdxCoordinator, 0 < idx ∧ idx < 2 ^ verifier.nLevels)
    (hauthsLen : args.l1CoordinatorTxsAuths.length = args.l1CoordinatorTxs.length)
    (hauths : ∀ auth ∈ args.l1CoordinatorTxsAuths, auth.length = 65)
    (hl2 : ∀ tx ∈ args.l2TxsData, tx.fromIdx < 2 ^ verifier.nLevels ∧
      tx.toIdx < 2 ^ verifier.nLevels ∧ ∃ f, newFloat16 tx.amount = .ok f) :
    ∃ aux, rollupForgeBatch consts sigLayout args = .ok aux ∧ ∃ l2Txs : List L2Tx,
      rollupForgeBatchArgs consts aux = .ok { args with l2TxsData := l2Txs } ∧
      l2Txs.map (fun tx => (tx.fromIdx, tx.toIdx, tx.amount, tx.fee)) =
        args.l2TxsData.map fun tx => (tx.fromIdx, tx.toIdx, tx.amount, tx.fee) := by
  obtain ⟨rs1, henc1, ys1, hdec1, hys1⟩ := forChunks_mapM_roundTrip
    (fun p : L1Tx × List UInt8 => p.1.bytesCoordinatorTx sigLayout p.2) decodeL1CoordinatorTx id id
    (w := l1CoordinatorTxBytesLen) (by decide) (l := args.l1CoordinatorTxs.zip args.l1CoordinatorTxsAuths)
    fun p hp => by
      obtain ⟨r, henc, hlen, hdec⟩ :=
        decodeL1CoordinatorTx_bytesCoordinatorTx hlayout p.1 (hauths _ (List.of_mem_zip hp).2)
      exact ⟨r, henc, hlen, _, hdec, rfl⟩
  rw [List.map_id, List.map_id] at hys1
  subst hys1
  obtain ⟨rs2, henc2, ys2, hdec2, hys2⟩ := l2TxsData_roundTrip hmul hhi hl2
  obtain ⟨rs3, henc3, hdec3⟩ := feeIdxCoordinator_roundTrip hmul hlo hhi hfee
  have hcall : rollupForgeBatchCall consts sigLayout args = .ok ⟨args.newLastIdx, args.newStRoot,
      args.newExitRoot, rs1.flatten, rs2.flatten, rs3.flatten, args.verifierIdx, args.l1Batch,
      args.proofA, args.proofB, args.proofC⟩ := by
    simp only [rollupForgeBatchCall, index_of_getElem? hverifier, ok_bind, map_ok,
      encodeL1CoordinatorTxs_eq_mapM sigLayout args.l1CoordinatorTxs
        args.l1CoordinatorTxsAuths (by omega), henc1, henc2,
      encodeFeeIdxCoordinator_eq_mapM hfeeLen, henc3, if_neg (Nat.not_lt.mpr hfeeLen)]
    rfl
  have hdiv : goDiv rs3.flatten.length (verifier.nLevels / 8) =
      .ok (rs3.flatten.length / (verifier.nLevels / 8)) := if_neg (by omega)
  refine ⟨_, by rw [rollupForgeBatch, hcall], ys2, ?_, hys2⟩
  have hpadding : (args.feeIdxCoordinator ++ List.replicate
      (rollupConstMaxFeeIdxCoordinator - args.feeIdxCoordinator.length) 0).filter (· ≠ 0) =
      args.feeIdxCoordinator := by
    rw [List.filter_append, List.filter_eq_self.mpr fun idx h => by simpa using (hfee idx h).1.ne',
      List.filter_eq_nil_iff.mpr fun idx h => by simp [List.eq_of_mem_replicate h], List.append_nil]
  simp only [rollupForgeBatchArgs, hdec1, ok_bind, index_of_getElem? hverifier, hdec2, hdiv, hdec3,
    List.map_fst_zip _ _ (Nat.le_of_eq hauthsLen.symm), List.map_snd_zip _ _ (Nat.le_of_eq hauthsLen),
    hpadding]
  rfl

theorem rollupForgeBatchArgs_rollupForgeBatch_at_32 :
    let consts : RollupPublicConstants := ⟨[⟨2048, 32⟩]⟩
    let args : RollupForgeBatchArgs := ⟨1, 2, 3, [⟨⟨List.replicate 32 7, rfl⟩, 9⟩],
      [(List.range 65).map Nat.toUInt8],
      [{ L2Tx.empty with
          fromIdx := 300, toIdx := 301, amount := 1000, fee := 5 }],
      [300, 257], 0, true, (0, 0), ((0, 0), (0, 0)), (0, 0)⟩
    ∃ aux, rollupForgeBatch consts vsrLayout args = .ok aux ∧ ∃ l2Txs : List L2Tx,
      rollupForgeBatchArgs consts aux = .ok { args with l2TxsData := l2Txs } ∧
      l2Txs.map (fun tx => (tx.fromIdx, tx.toIdx, tx.amount, tx.fee)) =
        args.l2TxsData.map fun tx => (tx.fromIdx, tx.toIdx, tx.amount, tx.fee) :=
  rollupForgeBatchArgs_rollupForgeBatch vsrLayout_invertible rfl (by decide) (by decide)
    (by decide) (by decide) (by decide) rfl (by decide)
    fun tx h => by
      rw [List.mem_singleton.mp h]
      exact ⟨by decide, by decide, ⟨1000⟩, rfl⟩

end RoundTrip

end HermezNode
