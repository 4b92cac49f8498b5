import HermezNode.Go.Bytes

namespace HermezNode

/-! Fixed-width codecs of package `common`; their Go files are not in the sources, so each
follows the spec's codec contracts (§4.A). -/

def errNumOverflow : String := "Value overflows the type"

def idxBytesLen : Nat := 6

/-- `common.IdxUserThreshold`: indexes below 256 are reserved, 1 is the exit index. -/
def idxUserThreshold : Nat := 256

/-- `common.Idx`, a 48-bit account index carried in a `uint64`. -/
abbrev Idx := Nat

/-- `common.Nonce`, a 40-bit counter carried in a `uint64`. -/
abbrev Nonce := Nat

abbrev TokenID := UInt32

/-- A compressed BabyJubJub public key (`babyjub.PublicKeyComp`).  Compression is a
bijection on curve points, so a key is modelled by its 32 compressed bytes. -/
structure PublicKeyComp where
  bytes : List UInt8
  length_eq : bytes.length = 32
  deriving DecidableEq

/-- Modelled from the spec: `Idx.Bytes` is absent.  The six big-endian bytes of a 48-bit
index; a wider value overflows the type. -/
def Idx.bytes (idx : Idx) : Except Failure (List UInt8) :=
  if idx < 2 ^ 48 then .ok (beBytes idxBytesLen idx) else .error (.error errNumOverflow)

/-- Modelled from the spec: `IdxFromBytes` is absent.  Reads six big-endian bytes and
fails on any other length (a codec error of bad length). -/
def idxFromBytes (b : List UInt8) : Except Failure Idx :=
  if b.length = idxBytesLen then .ok (beValue b)
  else .error (.error "can not parse Idx, bytes len is not 6")

/-- Modelled from the spec: `Nonce.Bytes` is absent.  The five big-endian bytes of a
40-bit nonce. -/
def Nonce.bytes (nonce : Nonce) : Except Failure (List UInt8) :=
  if nonce < 2 ^ 40 then .ok (beBytes 5 nonce) else .error (.error errNumOverflow)

/-- Modelled from the spec: `TokenID.Bytes` is absent.  The four big-endian bytes. -/
def TokenID.bytes (tokenID : TokenID) : List UInt8 :=
  beBytes 4 tokenID.toNat

/-- Modelled from the spec: `TokenIDFromBytes` is absent.  Reads four big-endian bytes. -/
def tokenIDFromBytes (b : List UInt8) : Except Failure TokenID :=
  if b.length = 4 then .ok (UInt32.ofNat (beValue b))
  else .error (.error "can not parse TokenID, bytes len is not 4")

@[simp] theorem Idx.bytes_of_lt {idx : Idx} (h : idx < 2 ^ 48) :
    Idx.bytes idx = .ok (beBytes 6 idx) := by
  rw [Idx.bytes, if_pos h]
  rfl

@[simp] theorem idxFromBytes_of_length {b : List UInt8} (h : b.length = 6) :
    idxFromBytes b = .ok (beValue b) := by
  simp [idxFromBytes, h, idxBytesLen]

theorem beValue_beBytes_of_lt {width n : Nat} (h : n < 256 ^ width) :
    beValue (beBytes width n) = n := by
  rw [beValue_beBytes, Nat.mod_eq_of_lt h]

theorem tokenIDFromBytes_bytes (tokenID : TokenID) :
    tokenIDFromBytes tokenID.bytes = .ok tokenID := by
  have hlt : tokenID.toNat < 256 ^ 4 := UInt32.toNat_lt tokenID
  simp only [tokenIDFromBytes, TokenID.bytes, length_beBytes, if_true,
    beValue_beBytes_of_lt hlt]
  exact congrArg Except.ok (UInt32.ext (UInt32.toNat_ofNat_of_lt (UInt32.toNat_lt tokenID)))

/-! ### Float16 -/

/-- Modelled from the spec: `common.Float16` is absent.  A `uint16` holding a decimal
float: the top five bits are the exponent `e`, the next bit a half bit `h` and the low ten
bits the mantissa `m`; it stands for `m·10^e + h·(10^e / 2)`. -/
structure Float16 where
  bits : UInt16
  deriving DecidableEq, Repr

namespace Float16

def mantissa (f : Float16) : Nat := f.bits.toNat % 1024

def half (f : Float16) : Nat := f.bits.toNat / 1024 % 2

def exponent (f : Float16) : Nat := f.bits.toNat / 2048

/-- Modelled from the spec: `Float16.BigInt`, the integer a code stands for. -/
def bigInt (f : Float16) : Nat :=
  f.mantissa * 10 ^ f.exponent + f.half * (10 ^ f.exponent / 2)

/-- Modelled from the spec: `Float16.Bytes`, two big-endian bytes. -/
def bytes (f : Float16) : List UInt8 :=
  beBytes 2 f.bits.toNat

theorem exponent_lt (f : Float16) : f.exponent < 32 := by
  have := UInt16.toNat_lt f.bits
  unfold exponent
  omega

theorem half_lt (f : Float16) : f.half < 2 := Nat.mod_lt _ (by decide)

@[simp] theorem length_bytes (f : Float16) : f.bytes.length = 2 := length_beBytes _ _

end Float16

/-- Modelled from the spec: `Float16FromBytes`, reading the first two bytes big-endian. -/
def float16FromBytes (b : List UInt8) : Float16 :=
  ⟨UInt16.ofNat (beValue (b.take 2))⟩

@[simp] theorem float16FromBytes_bytes (f : Float16) : float16FromBytes f.bytes = f := by
  have hlt : f.bits.toNat < 256 ^ 2 := UInt16.toNat_lt f.bits
  have htake : f.bytes.take 2 = f.bytes := List.take_of_length_le (by simp)
  rw [float16FromBytes, htake, Float16.bytes, beValue_beBytes_of_lt hlt]
  exact congrArg Float16.mk (UInt16.ext (UInt16.toNat_ofNat_of_lt (UInt16.toNat_lt f.bits)))

/-- The code with exponent `e` and half bit `h` that stands for `x`, when there is one. -/
def float16Candidate (x e h : Nat) : Option Float16 :=
  if h * (10 ^ e / 2) ≤ x ∧ (x - h * (10 ^ e / 2)) % 10 ^ e = 0 ∧
      (x - h * (10 ^ e / 2)) / 10 ^ e < 1024 then
    some ⟨UInt16.ofNat (e * 2048 + h * 1024 + (x - h * (10 ^ e / 2)) / 10 ^ e)⟩
  else none

/-- Exponent and half-bit pairs, smallest exponent first. -/
def float16Shapes : List (Nat × Nat) :=
  (List.range 64).map fun k => (k / 2, k % 2)

def errRoundingLoss : String := "input value causes rounding loss"

/-- Modelled from the spec: `NewFloat16` is absent.  "`NewFloat16(x)` fails if `x` cannot be
represented exactly"; otherwise it returns a code standing for `x`, here the one with the
smallest exponent. -/
def newFloat16 (x : Int) : Except Failure Float16 :=
  match x with
  | .ofNat n =>
      match float16Shapes.findSome? (fun s => float16Candidate n s.1 s.2) with
      | some f => .ok f
      | none => .error (.error errRoundingLoss)
  | .negSucc _ => .error (.error errRoundingLoss)

theorem bigInt_of_float16Candidate {x e h : Nat} {f : Float16} (he : e < 32) (hh : h < 2)
    (hc : float16Candidate x e h = some f) : f.bigInt = x := by
  unfold float16Candidate at hc
  split at hc
  · rename_i hfit
    obtain ⟨hoff, hdiv, hm⟩ := hfit
    have hmul : (x - h * (10 ^ e / 2)) / 10 ^ e * 10 ^ e = x - h * (10 ^ e / 2) :=
      Nat.div_mul_cancel (Nat.dvd_of_mod_eq_zero hdiv)
    generalize (x - h * (10 ^ e / 2)) / 10 ^ e = m at hm hc hmul
    cases hc
    have hbits : (UInt16.ofNat (e * 2048 + h * 1024 + m)).toNat = e * 2048 + h * 1024 + m :=
      UInt16.toNat_ofNat_of_lt (by simp only [UInt16.size]; omega)
    have hmant : Float16.mantissa ⟨UInt16.ofNat (e * 2048 + h * 1024 + m)⟩ = m := by
      show (UInt16.ofNat _).toNat % 1024 = m
      rw [hbits]; omega
    have hhalf : Float16.half ⟨UInt16.ofNat (e * 2048 + h * 1024 + m)⟩ = h := by
      show (UInt16.ofNat _).toNat / 1024 % 2 = h
      rw [hbits]; omega
    have hexp : Float16.exponent ⟨UInt16.ofNat (e * 2048 + h * 1024 + m)⟩ = e := by
      show (UInt16.ofNat _).toNat / 2048 = e
      rw [hbits]; omega
    rw [Float16.bigInt, hmant, hhalf, hexp, hmul]
    omega
  · cases hc

theorem float16Candidate_of_bigInt (f : Float16) :
    (float16Candidate f.bigInt f.exponent f.half).isSome := by
  have hpos : 0 < 10 ^ f.exponent := Nat.pos_pow_of_pos _ (by decide)
  have hm : f.mantissa < 1024 := Nat.mod_lt _ (by decide)
  have hsub : f.bigInt - f.half * (10 ^ f.exponent / 2) = f.mantissa * 10 ^ f.exponent := by
    simp only [Float16.bigInt]; omega
  rw [float16Candidate, if_pos ⟨by simp only [Float16.bigInt]; omega,
    by rw [hsub]; exact Nat.mul_mod_left _ _, by rw [hsub, Nat.mul_div_cancel _ hpos]; exact hm⟩]
  rfl

theorem mem_float16Shapes {e h : Nat} (he : e < 32) (hh : h < 2) : (e, h) ∈ float16Shapes := by
  simp only [float16Shapes, List.mem_map, List.mem_range, Prod.mk.injEq]
  exact ⟨2 * e + h, by omega, by omega, by omega⟩

/-- The code `NewFloat16` returns stands for its input. -/
theorem bigInt_of_newFloat16 {x : Int} {f : Float16} (h : newFloat16 x = .ok f) :
    (f.bigInt : Int) = x := by
  match x, h with
  | .ofNat n, h =>
      simp only [newFloat16] at h
      split at h
      · rename_i hfind
        cases h
        obtain ⟨⟨e, b⟩, hmem, hc⟩ := List.exists_of_findSome?_eq_some hfind
        simp only [float16Shapes, List.mem_map, List.mem_range, Prod.mk.injEq] at hmem
        obtain ⟨k, hk, rfl, rfl⟩ := hmem
        exact congrArg Int.ofNat (bigInt_of_float16Candidate (by omega) (by omega) hc)
      · cases h

/-- `NewFloat16` succeeds on every value a code stands for. -/
theorem newFloat16_isOk_of_bigInt (f : Float16) :
    ∃ g, newFloat16 (f.bigInt : Int) = .ok g := by
  simp only [newFloat16, Int.ofNat_eq_coe]
  split
  · exact ⟨_, rfl⟩
  · rename_i hnone
    have hc := (List.findSome?_eq_none_iff.mp hnone) _
      (mem_float16Shapes f.exponent_lt f.half_lt)
    have hs := float16Candidate_of_bigInt f
    simp only [Int.ofNat_eq_coe, Int.toNat_natCast] at hc
    rw [hc] at hs
    cases hs

end HermezNode
