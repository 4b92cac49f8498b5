import HermezNode.Common.Codec
import Mathlib.Data.UInt

namespace HermezNode

/-! The `"hez:"` string form of a BabyJubJub key (`bjjToString`, api/dbtoapistructs.go) and,
modelled from the spec, its ingress parser. -/

/-- The alphabet of `base64.RawURLEncoding`. -/
def base64URLAlphabet : List Char :=
  "ABCDEFGHIJKLMNOPQRSTUVWXYZabcdefghijklmnopqrstuvwxyz0123456789-_".toList

/-- `enc.encode[n]` for a six-bit `n`. -/
def encodeChar (n : Nat) : Char := base64URLAlphabet.getD n 'A'

/-- `enc.decodeMap[c]`: the position of `c` in the alphabet, which runs through `A`–`Z`,
`a`–`z`, `0`–`9`, `-` and `_`; `none` for a character outside it. -/
def decodeChar (c : Char) : Option Nat :=
  if 'A' ≤ c ∧ c ≤ 'Z' then some (c.toNat - 'A'.toNat)
  else if 'a' ≤ c ∧ c ≤ 'z' then some (c.toNat - 'a'.toNat + 26)
  else if '0' ≤ c ∧ c ≤ '9' then some (c.toNat - '0'.toNat + 52)
  else if c = '-' then some 62
  else if c = '_' then some 63
  else none

/-- `base64.RawURLEncoding.EncodeToString` on the bytes: each three bytes
`val = b0<<16 | b1<<8 | b2` give the four six-bit digits `val>>18&0x3F`, `val>>12&0x3F`,
`val>>6&0x3F`, `val&0x3F`; a last one or two bytes give two or three digits, unpadded. -/
def rawURLEncode : List UInt8 → List Char
  | b0 :: b1 :: b2 :: rest =>
    let val := b0.toNat * 65536 + b1.toNat * 256 + b2.toNat
    [encodeChar (val / 262144 % 64), encodeChar (val / 4096 % 64), encodeChar (val / 64 % 64),
      encodeChar (val % 64)] ++ rawURLEncode rest
  | [b0, b1] =>
    let val := b0.toNat * 65536 + b1.toNat * 256
    [encodeChar (val / 262144 % 64), encodeChar (val / 4096 % 64), encodeChar (val / 64 % 64)]
  | [b0] =>
    let val := b0.toNat * 65536
    [encodeChar (val / 262144 % 64), encodeChar (val / 4096 % 64)]
  | [] => []

/-- `base64.RawURLEncoding.DecodeString`: four digits give three bytes, and a last three or
two digits give two or one; a single last digit, or a character outside the alphabet, is an
error. -/
def rawURLDecode : List Char → Option (List UInt8)
  | c0 :: c1 :: c2 :: c3 :: rest => do
    let val := (← decodeChar c0) * 262144 + (← decodeChar c1) * 4096 + (← decodeChar c2) * 64 +
      (← decodeChar c3)
    let bytes ← rawURLDecode rest
    pure ([UInt8.ofNat (val / 65536), UInt8.ofNat (val / 256), UInt8.ofNat val] ++ bytes)
  | [c0, c1, c2] => do
    let val := (← decodeChar c0) * 262144 + (← decodeChar c1) * 4096 + (← decodeChar c2) * 64
    pure [UInt8.ofNat (val / 65536), UInt8.ofNat (val / 256)]
  | [c0, c1] => do
    let val := (← decodeChar c0) * 262144 + (← decodeChar c1) * 4096
    pure [UInt8.ofNat (val / 65536)]
  | [_] => none
  | [] => some []

/-- The loop `sum := pkComp[0]; for i := 1; i < len(pkComp); i++ { sum += pkComp[i] }`, in
wrapping `uint8` arithmetic. -/
def checksum (pkComp : List UInt8) : UInt8 := (pkComp.drop 1).foldl (· + ·) (pkComp.getD 0 0)

def bjjToString (bjj : PublicKeyComp) : String :=
  "hez:" ++ String.mk (rawURLEncode (bjj.bytes ++ [checksum bjj.bytes]))

/-- Modelled from the spec, which names the checks of the parser but no error text: the
check a rejected key string fails. -/
inductive HezBJJError where
  | notHez
  | invalidBase64
  | invalidLength
  | checksumMismatch
  deriving DecidableEq, Repr

/-- Modelled from the spec: the checks of the ingress parser on the decoded bytes, 32 key
bytes and a checksum byte that is "the 8-bit sum of the 32 compressed bytes". -/
def bjjOfDecoded (decoded : List UInt8) : Except HezBJJError PublicKeyComp :=
  if h : decoded.length = 33 then
    if decoded.getD 32 0 = checksum (decoded.take 32) then
      .ok ⟨decoded.take 32, by rw [List.length_take, h]; rfl⟩
    else .error .checksumMismatch
  else .error .invalidLength

/-- Modelled from the spec: the ingress parser of a key in the form
`"hez:<base64url(compressed‖checksumByte)>"`. -/
def hezStringToBJJ (s : String) : Except HezBJJError PublicKeyComp :=
  match s.toList with
  | 'h' :: 'e' :: 'z' :: ':' :: digits =>
    match rawURLDecode digits with
    | some decoded => bjjOfDecoded decoded
    | none => .error .invalidBase64
  | _ => .error .notHez

section Base64

theorem decodeChar_encodeChar {n : Nat} (h : n < 64) : decodeChar (encodeChar n) = some n := by
  have hall : ∀ i : Fin 64, decodeChar (encodeChar i) = some i := by decide
  exact hall ⟨n, h⟩

/-- Three bytes read back from their four digits. -/
theorem rawURLDecode_group (b0 b1 b2 : UInt8) (rest : List Char) :
    let val := b0.toNat * 65536 + b1.toNat * 256 + b2.toNat
    rawURLDecode (encodeChar (val / 262144 % 64) :: encodeChar (val / 4096 % 64) ::
        encodeChar (val / 64 % 64) :: encodeChar (val % 64) :: rest) =
      (rawURLDecode rest).map ([b0, b1, b2] ++ ·) := by
  intro val
  have h0 := toNat_lt_256 b0
  have h1 := toNat_lt_256 b1
  have h2 := toNat_lt_256 b2
  have hval : val / 262144 % 64 * 262144 + val / 4096 % 64 * 4096 + val / 64 % 64 * 64 +
      val % 64 = val := by omega
  simp only [rawURLDecode, decodeChar_encodeChar (Nat.mod_lt _ (by norm_num : 0 < 64)),
    Option.pure_def, Option.bind_eq_bind, Option.some_bind, hval]
  rw [uint8_ofNat_eq (b := b0) (by omega), uint8_ofNat_eq (b := b1) (by omega),
    uint8_ofNat_eq (b := b2) (by omega)]
  cases rawURLDecode rest <;> rfl

/-- Decoding inverts `EncodeToString`. -/
theorem rawURLDecode_rawURLEncode : (bytes : List UInt8) →
    rawURLDecode (rawURLEncode bytes) = some bytes
  | b0 :: b1 :: b2 :: rest => by
    rw [rawURLEncode, List.cons_append, List.cons_append, List.cons_append, List.cons_append,
      List.nil_append, rawURLDecode_group, rawURLDecode_rawURLEncode rest]
    rfl
  | [b0, b1] => by
    have h0 := toNat_lt_256 b0
    have h1 := toNat_lt_256 b1
    simp only [rawURLEncode, rawURLDecode, Option.pure_def, Option.bind_eq_bind,
      decodeChar_encodeChar (Nat.mod_lt _ (by norm_num : 0 < 64)), Option.some_bind]
    rw [uint8_ofNat_eq (b := b0) (by omega), uint8_ofNat_eq (b := b1) (by omega)]
  | [b0] => by
    have h0 := toNat_lt_256 b0
    simp only [rawURLEncode, rawURLDecode, Option.pure_def, Option.bind_eq_bind,
      decodeChar_encodeChar (Nat.mod_lt _ (by norm_num : 0 < 64)), Option.some_bind]
    rw [uint8_ofNat_eq (b := b0) (by omega)]
  | [] => rfl

end Base64

section Checksum

theorem foldl_add_eq (a : UInt8) (l : List UInt8) : l.foldl (· + ·) a = a + l.foldl (· + ·) 0 := by
  induction l generalizing a with
  | nil => simp
  | cons x l ih => rw [List.foldl_cons, List.foldl_cons, ih, ih (0 + x), zero_add, add_assoc]

/-- The Go loop is the wrapping sum of all the bytes. -/
theorem checksum_eq_foldl (pkComp : List UInt8) : checksum pkComp = pkComp.foldl (· + ·) 0 := by
  cases pkComp with
  | nil => rfl
  | cons x l => simp only [checksum, List.drop_one, List.tail_cons, List.getD_cons_zero,
      List.foldl_cons, zero_add]

theorem checksum_append_cons (l r : List UInt8) (x : UInt8) :
    checksum (l ++ x :: r) = checksum l + x + checksum r := by
  rw [checksum_eq_foldl, checksum_eq_foldl, checksum_eq_foldl, List.foldl_append,
    List.foldl_cons, foldl_add_eq]

theorem checksum_ne_of_ne (l r : List UInt8) {x y : UInt8} (h : y ≠ x) :
    checksum (l ++ y :: r) ≠ checksum (l ++ x :: r) := by
  rw [checksum_append_cons, checksum_append_cons]
  exact fun heq => h (add_left_cancel (add_right_cancel heq))

end Checksum

section RoundTrip

theorem length_rawURLEncode_key (bjj : PublicKeyComp) :
    (bjj.bytes ++ [checksum bjj.bytes]).length = 33 := by
  rw [List.length_append, bjj.length_eq]
  rfl

theorem hezStringToBJJ_hez {digits : List Char} {decoded : List UInt8}
    (h : rawURLDecode digits = some decoded) :
    hezStringToBJJ ("hez:" ++ String.mk digits) = bjjOfDecoded decoded := by
  have hchars : ("hez:" ++ String.mk digits).toList = 'h' :: 'e' :: 'z' :: ':' :: digits := rfl
  rw [hezStringToBJJ, hchars]
  simp only [h]

/-- The string `bjjToString` writes parses back to its key. -/
theorem hezStringToBJJ_bjjToString (bjj : PublicKeyComp) :
    hezStringToBJJ (bjjToString bjj) = .ok bjj := by
  have htake : (bjj.bytes ++ [checksum bjj.bytes]).take 32 = bjj.bytes :=
    List.take_left' bjj.length_eq
  have hlast : (bjj.bytes ++ [checksum bjj.bytes]).getD 32 0 = checksum bjj.bytes := by
    rw [List.getD_eq_getElem?_getD, List.getElem?_append_right (by rw [bjj.length_eq]),
      bjj.length_eq]
    rfl
  rw [bjjToString, hezStringToBJJ_hez (rawURLDecode_rawURLEncode _), bjjOfDecoded,
    dif_pos (length_rawURLEncode_key bjj)]
  simp only [htake, hlast, if_true]

/-- A key string whose key bytes differ from the key's in one byte, with the key's checksum,
is rejected: the checksum catches every single-byte error in the key. -/
theorem hezStringToBJJ_single_byte_error (bjj : PublicKeyComp) {l r : List UInt8} {x y : UInt8}
    (hbytes : bjj.bytes = l ++ x :: r) (hy : y ≠ x) :
    hezStringToBJJ ("hez:" ++ String.mk (rawURLEncode ((l ++ y :: r) ++ [checksum bjj.bytes]))) =
      .error .checksumMismatch := by
  have hlen : (l ++ y :: r).length = 32 := by
    rw [← bjj.length_eq, hbytes, List.length_append, List.length_append, List.length_cons,
      List.length_cons]
  have htake : ((l ++ y :: r) ++ [checksum bjj.bytes]).take 32 = l ++ y :: r :=
    List.take_left' hlen
  have hlast : ((l ++ y :: r) ++ [checksum bjj.bytes]).getD 32 0 = checksum bjj.bytes := by
    rw [List.getD_eq_getElem?_getD, List.getElem?_append_right (by rw [hlen]), hlen]
    rfl
  have hne : checksum bjj.bytes ≠ checksum (l ++ y :: r) := by
    rw [hbytes]
    exact (checksum_ne_of_ne l r hy).symm
  have hlen33 : ((l ++ y :: r) ++ [checksum bjj.bytes]).length = 33 := by
    rw [List.length_append, hlen]
    rfl
  rw [hezStringToBJJ_hez (rawURLDecode_rawURLEncode _), bjjOfDecoded, dif_pos hlen33]
  simp only [htake, hlast, hne, if_false]

theorem hezStringToBJJ_single_byte_error_first :
    let bjj : PublicKeyComp := ⟨List.replicate 32 0, List.length_replicate 32 0⟩
    bjj.bytes = [] ++ 0 :: List.replicate 31 0 ∧ (1 : UInt8) ≠ 0 ∧
      hezStringToBJJ ("hez:" ++
          String.mk (rawURLEncode (([] ++ 1 :: List.replicate 31 0) ++ [checksum bjj.bytes]))) =
        .error .checksumMismatch := by
  intro bjj
  exact ⟨rfl, by decide, hezStringToBJJ_single_byte_error bjj rfl (by decide)⟩

end RoundTrip

end HermezNode
