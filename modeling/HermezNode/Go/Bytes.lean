import Mathlib.Data.List.Basic
import Mathlib.Data.String.Basic
import Mathlib.Tactic.Ring
import Mathlib.Tactic.Linarith

namespace HermezNode

/-! Go's failure modes, slices and `copy`, and the big-endian integers of `encoding/binary`. -/

/-- A Go call fails by returning a non-nil `error` or by a run-time panic. -/
inductive Failure where
  | error (msg : String)
  | panic (msg : String)
  deriving DecidableEq, Repr

/-- The runtime panic of a nil pointer dereference. -/
def nilPointerDereference : Failure :=
  .panic "runtime error: invalid memory address or nil pointer dereference"

@[simp] theorem ok_bind {α β : Type} (a : α) (f : α → Except Failure β) :
    (Except.ok a >>= f) = f a := rfl

/-- A bind that succeeds ran its first computation to success. -/
theorem bind_eq_ok {α β : Type} {x : Except Failure α} {f : α → Except Failure β} {b : β}
    (h : x >>= f = .ok b) : ∃ a, x = .ok a ∧ f a = .ok b := by
  cases x with
  | error e => cases h
  | ok a => exact ⟨a, rfl, h⟩

@[simp] theorem pure_eq_ok {α : Type} (a : α) : (pure a : Except Failure α) = .ok a := rfl

@[simp] theorem map_ok {α β : Type} (g : α → β) (a : α) :
    (g <$> (Except.ok a : Except Failure α)) = .ok (g a) := rfl

section Slices

variable {α : Type}

/-- `b[lo:hi]`, which panics unless `0 ≤ lo ≤ hi ≤ len(b)`. -/
def slice (b : List α) (lo hi : Int) : Except Failure (List α) :=
  if 0 ≤ lo ∧ lo ≤ hi ∧ hi ≤ b.length then .ok ((b.drop lo.toNat).take (hi - lo).toNat)
  else .error (.panic "runtime error: slice bounds out of range")

/-- `b[lo:]`. -/
def sliceFrom (b : List α) (lo : Int) : Except Failure (List α) :=
  slice b lo b.length

/-- `b[i]`, which panics unless `0 ≤ i < len(b)`. -/
def index (b : List α) (i : Int) : Except Failure α :=
  match b[i.toNat]? with
  | some x => if 0 ≤ i then .ok x else .error (.panic "runtime error: index out of range")
  | none => .error (.panic "runtime error: index out of range")

/-- `b[i] = x`, returning the updated backing array. -/
def setIndex (b : List α) (i : Int) (x : α) : Except Failure (List α) :=
  if 0 ≤ i ∧ i < b.length then .ok (b.set i.toNat x)
  else .error (.panic "runtime error: index out of range")

/-- `copy(dst[lo:hi], src)` on the backing array `dst`: the first
`min(hi - lo, len(src))` bytes of `src` overwrite `dst` from index `lo` on. -/
def copySlice (dst : List α) (lo hi : Int) (src : List α) : Except Failure (List α) := do
  let window ← slice dst lo hi
  let n := min window.length src.length
  pure (dst.take lo.toNat ++ src.take n ++ dst.drop (lo.toNat + n))

theorem slice_ok {b : List α} {lo hi : Nat} (hle : lo ≤ hi) (hlen : hi ≤ b.length) :
    slice b lo hi = .ok ((b.drop lo).take (hi - lo)) := by
  have hcast : ((hi : Int) - lo).toNat = hi - lo := by omega
  rw [slice, if_pos (by omega)]
  simp [hcast]

theorem slice_append_left (xs ys : List α) :
    slice (xs ++ ys) 0 xs.length = .ok xs := by
  simpa using slice_ok (b := xs ++ ys) (Nat.zero_le xs.length) (by simp)

theorem slice_append_right (xs ys zs : List α) :
    slice (xs ++ ys ++ zs) xs.length (xs.length + ys.length) = .ok ys := by
  have h := slice_ok (b := xs ++ ys ++ zs) (Nat.le_add_right xs.length ys.length)
    (by simp [Nat.add_assoc])
  push_cast at h
  rw [h]
  simp [List.drop_left', Nat.add_sub_cancel_left]

/-- A slice that ends inside `xs` does not see what follows it. -/
theorem slice_append_of_le (xs ys : List α) (lo hi : Nat) (h : hi ≤ xs.length) :
    slice (xs ++ ys) lo hi = slice xs lo hi := by
  unfold slice
  by_cases hle : lo ≤ hi
  · rw [if_pos (by simp; omega), if_pos (by omega), List.drop_append_of_le_length (by omega),
      List.take_append_of_le_length (by simp; omega)]
  · rw [if_neg (by omega), if_neg (by omega)]

theorem sliceFrom_ok {b : List α} {lo : Nat} (hlo : lo ≤ b.length) :
    sliceFrom b lo = .ok (b.drop lo) := by
  simp [sliceFrom, slice_ok hlo le_rfl]

theorem index_ok {b : List α} {i : Nat} (hi : i < b.length) : index b i = .ok b[i] := by
  simp [index, List.getElem?_eq_getElem hi, Int.natCast_nonneg]

theorem index_getD {b : List α} {i : Int} (h0 : 0 ≤ i) (hi : i < b.length) (d : α) :
    index b i = .ok (b.getD i.toNat d) := by
  obtain ⟨n, rfl⟩ := Int.eq_ofNat_of_zero_le h0
  have hn : n < b.length := by omega
  rw [index_ok hn]
  simp [List.getD_eq_getElem?_getD, List.getElem?_eq_getElem hn]

theorem index_append_of_lt (xs ys : List α) {i : Nat} (h : i < xs.length) :
    index (xs ++ ys) i = index xs i := by
  rw [index_ok (by simp; omega), index_ok h, List.getElem_append_left]

theorem index_of_getElem? {b : List α} {i : Nat} {x : α} (h : b[i]? = some x) :
    index b i = .ok x := by
  simp [index, h, Int.natCast_nonneg]

theorem setIndex_ok {b : List α} {i : Nat} (hi : i < b.length) (x : α) :
    setIndex b i x = .ok (b.set i x) := by
  rw [setIndex, if_pos (by omega)]
  simp

theorem copySlice_ok (dst src : List α) {lo hi : Nat} (hle : lo ≤ hi) (hlen : hi ≤ dst.length)
    (hsrc : src.length = hi - lo) :
    copySlice dst lo hi src = .ok (dst.take lo ++ src ++ dst.drop hi) := by
  have hw : ((dst.drop lo).take (hi - lo)).length = hi - lo := by simp; omega
  simp only [copySlice, slice_ok hle hlen, bind, Except.bind, pure, Except.pure, hw, hsrc,
    Int.toNat_natCast, min_self, List.take_length]
  rw [show lo + (hi - lo) = hi by omega, ← hsrc, List.take_length]

end Slices

/-! Go's `int64` arithmetic, which wraps modulo `2^64`. -/

/-- `x` as an `int64`: its residue in `[-2^63, 2^63)`. -/
def toInt64 (x : Int) : Int := (x + 2 ^ 63) % 2 ^ 64 - 2 ^ 63

/-- Go's `int64` addition. -/
def int64Add (a b : Int) : Int := toInt64 (a + b)

theorem toInt64_of_lt {x : Int} (h0 : -2 ^ 63 ≤ x) (h1 : x < 2 ^ 63) : toInt64 x = x := by
  unfold toInt64
  omega

theorem toInt64_mem (x : Int) : -2 ^ 63 ≤ toInt64 x ∧ toInt64 x < 2 ^ 63 := by
  unfold toInt64
  omega

theorem int64Add_of_lt {a b : Int} (h0 : -2 ^ 63 ≤ a + b) (h1 : a + b < 2 ^ 63) :
    int64Add a b = a + b :=
  toInt64_of_lt h0 h1

/-! Decoding loops.  `forChunks data w n f` is
`for i := 0; i < n; i++ { out = append(out, f(data[i*w:(i+1)*w])) }`; on a concatenation of
width-`w` records it reads them back. -/

section Loops

variable {α β γ : Type}

/-- A loop over the first `n` width-`w` chunks of `data`. -/
def forChunks (data : List α) (w n : Nat) (f : List α → Except Failure β) :
    Except Failure (List β) :=
  (List.range n).mapM fun (i : Nat) => do
    let chunk ← slice data ((i * w : Nat) : Int) (((i + 1) * w : Nat) : Int)
    f chunk

theorem length_flatten_uniform {w : Nat} {records : List (List α)}
    (hw : ∀ r ∈ records, r.length = w) : records.flatten.length = records.length * w := by
  induction records with
  | nil => simp
  | cons r rs ih =>
      simp only [List.flatten_cons, List.length_append, List.length_cons,
        hw r (List.mem_cons_self r rs), ih (fun r' h => hw r' (List.mem_cons_of_mem r h))]
      ring

theorem mapM_map_except (g : γ → α) (F : α → Except Failure β) (l : List γ) :
    (l.map g).mapM F = l.mapM (F ∘ g) := by
  induction l with
  | nil => rfl
  | cons x xs ih => rw [List.map_cons, List.mapM_cons, List.mapM_cons, ih]; rfl

theorem mapM_eq_ok_of_forall {F : α → Except Failure β} {g : α → β} {l : List α}
    (h : ∀ x ∈ l, F x = .ok (g x)) : l.mapM F = .ok (l.map g) := by
  induction l with
  | nil => rfl
  | cons x xs ih =>
      rw [List.mapM_cons, h x (List.mem_cons_self x xs),
        ih (fun y hy => h y (List.mem_cons_of_mem x hy))]
      rfl

/-- A loop whose every call succeeds succeeds, with one result per element, each naming its
element through `key`. -/
theorem mapM_eq_ok_of_forall_key {F : α → Except Failure β} {key : β → α} :
    {l : List α} → (∀ x ∈ l, ∃ y, F x = .ok y ∧ key y = x) →
      ∃ ys, l.mapM F = .ok ys ∧ ys.map key = l
  | [], _ => ⟨[], rfl, rfl⟩
  | x :: xs, h => by
    obtain ⟨y, hy, hkey⟩ := h x (List.mem_cons_self x xs)
    obtain ⟨ys, hys, hkeys⟩ :=
      mapM_eq_ok_of_forall_key fun z hz => h z (List.mem_cons_of_mem x hz)
    exact ⟨y :: ys, by rw [List.mapM_cons, hy, hys]; rfl, by rw [List.map_cons, hkey, hkeys]⟩

theorem slice_append_offset (xs ys : List α) (lo hi : Nat) :
    slice (xs ++ ys) ((xs.length + lo : Nat) : Int) ((xs.length + hi : Nat) : Int) =
      slice ys lo hi := by
  unfold slice
  have hlo : (((xs.length + lo : Nat) : Int)).toNat = xs.length + lo := Int.toNat_natCast _
  have hdiff : (((xs.length + hi : Nat) : Int) - ((xs.length + lo : Nat) : Int)).toNat =
      ((hi : Int) - lo).toNat := by omega
  rw [hlo, hdiff, List.drop_append_eq_append_drop, List.drop_eq_nil_of_le (by omega),
    List.nil_append, show xs.length + lo - xs.length = lo by omega]
  simp only [List.length_append]
  split_ifs <;> first | rfl | omega

/-- Reading the chunks of a concatenation of width-`w` records reads the records. -/
theorem forChunks_flatten {w : Nat} {records : List (List α)}
    (hw : ∀ r ∈ records, r.length = w) (f : List α → Except Failure β) :
    forChunks records.flatten w records.length f = records.mapM f := by
  induction records with
  | nil => rfl
  | cons r rs ih =>
      have hr : r.length = w := hw r (List.mem_cons_self r rs)
      have htail := ih (fun r' h => hw r' (List.mem_cons_of_mem r h))
      unfold forChunks at htail ⊢
      rw [List.length_cons, List.range_succ_eq_map, List.mapM_cons, mapM_map_except,
        List.mapM_cons, ← htail, List.flatten_cons]
      have hhead : slice (r ++ rs.flatten) ((0 * w : Nat) : Int) (((0 + 1) * w : Nat) : Int) =
          .ok r := by
        simpa [hr] using slice_append_left r rs.flatten
      have hstep : ∀ i : Nat, slice (r ++ rs.flatten) (((i + 1) * w : Nat) : Int)
          (((i + 1 + 1) * w : Nat) : Int) = slice rs.flatten ((i * w : Nat) : Int)
            (((i + 1) * w : Nat) : Int) := by
        intro i
        have h := slice_append_offset r rs.flatten (i * w) ((i + 1) * w)
        rwa [show r.length + i * w = (i + 1) * w by rw [hr]; ring,
          show r.length + (i + 1) * w = (i + 1 + 1) * w by rw [hr]; ring] at h
      simp only [Function.comp_def, Nat.succ_eq_add_one, hstep, hhead]
      rfl

/-- A record-by-record round trip lifts to a list: encoding each element and decoding the
concatenation chunk by chunk gives back what `proj` sees of every element, in order. -/
theorem forChunks_mapM_roundTrip {δ : Type} (enc : γ → Except Failure (List α))
    (dec : List α → Except Failure β) (proj : γ → δ) (proj' : β → δ) {w : Nat} (hw : 0 < w)
    {l : List γ}
    (h : ∀ x ∈ l, ∃ r, enc x = .ok r ∧ r.length = w ∧ ∃ y, dec r = .ok y ∧ proj' y = proj x) :
    ∃ rs, l.mapM enc = .ok rs ∧ ∃ ys,
      forChunks rs.flatten w (rs.flatten.length / w) dec = .ok ys ∧ ys.map proj' = l.map proj := by
  suffices hall : ∃ rs, l.mapM enc = .ok rs ∧ (∀ r ∈ rs, r.length = w) ∧
      ∃ ys, rs.mapM dec = .ok ys ∧ ys.map proj' = l.map proj by
    obtain ⟨rs, henc, hw', ys, hdec, hproj⟩ := hall
    refine ⟨rs, henc, ys, ?_, hproj⟩
    rw [length_flatten_uniform hw', Nat.mul_div_cancel _ hw, forChunks_flatten hw', hdec]
  induction l with
  | nil => exact ⟨[], rfl, by simp, [], rfl, rfl⟩
  | cons x xs ih =>
      obtain ⟨r, hr, hrw, y, hy, hproj⟩ := h x (List.mem_cons_self x xs)
      obtain ⟨rs, hrs, hrsw, ys, hys, hprojs⟩ := ih (fun x' hx' => h x' (List.mem_cons_of_mem x hx'))
      refine ⟨r :: rs, by rw [List.mapM_cons, hr, hrs]; rfl, ?_, y :: ys,
        by rw [List.mapM_cons, hy, hys]; rfl, by simp [hproj, hprojs]⟩
      intro r' hr'
      rcases List.mem_cons.mp hr' with rfl | hr'
      · exact hrw
      · exact hrsw r' hr'

end Loops

/-! Big-endian integers: `beBytes w n` is the `w` low-order bytes of `n`, most significant
first, as `binary.BigEndian.PutUint*` writes them; `beValue` reads a byte string back. -/

/-- The `width` low-order bytes of `n`, most significant first. -/
def beBytes : Nat → Nat → List UInt8
  | 0, _ => []
  | width + 1, n => beBytes width (n / 256) ++ [UInt8.ofNat n]

/-- The number a big-endian byte string denotes. -/
def beValue (bytes : List UInt8) : Nat :=
  bytes.foldl (fun acc b => acc * 256 + b.toNat) 0

@[simp] theorem length_beBytes (width n : Nat) : (beBytes width n).length = width := by
  induction width generalizing n with
  | zero => rfl
  | succ width ih => simp [beBytes, ih]

private theorem foldl_beValue_acc (acc : Nat) (bytes : List UInt8) :
    bytes.foldl (fun acc b => acc * 256 + b.toNat) acc =
      acc * 256 ^ bytes.length + beValue bytes := by
  induction bytes generalizing acc with
  | nil => simp [beValue]
  | cons b bytes ih =>
      simp only [List.foldl_cons, beValue] at ih ⊢
      rw [ih, ih (0 * 256 + b.toNat), List.length_cons, pow_succ]
      ring

theorem beValue_append (xs ys : List UInt8) :
    beValue (xs ++ ys) = beValue xs * 256 ^ ys.length + beValue ys := by
  rw [beValue, List.foldl_append, foldl_beValue_acc]
  rfl

@[simp] theorem toNat_uint8_ofNat (n : Nat) : (UInt8.ofNat n).toNat = n % 256 := rfl

/-- A byte is its value modulo 256. -/
theorem uint8_ofNat_eq {n : Nat} {b : UInt8} (h : n % 256 = b.toNat) : UInt8.ofNat n = b :=
  UInt8.eq_of_val_eq (Fin.ext h)

theorem toNat_lt_256 (b : UInt8) : b.toNat < 256 := b.val.isLt

@[simp] theorem beValue_nil : beValue [] = 0 := rfl

@[simp] theorem beValue_singleton (b : UInt8) : beValue [b] = b.toNat := by
  simp [beValue]

theorem beValue_beBytes (width n : Nat) : beValue (beBytes width n) = n % 256 ^ width := by
  induction width generalizing n with
  | zero => simp [beBytes, Nat.mod_one]
  | succ width ih =>
      rw [beBytes, beValue_append, ih, beValue_singleton, toNat_uint8_ofNat, pow_succ,
        Nat.mul_comm (256 ^ width) 256, Nat.mod_mul]
      simp only [List.length_singleton, pow_one]
      ring

@[simp] theorem beValue_replicate_zero (k : Nat) : beValue (List.replicate k 0) = 0 := by
  induction k with
  | zero => rfl
  | succ k ih =>
      rw [List.replicate_succ', beValue_append, ih]
      simp

/-- Zero bytes in front do not change a big-endian value: the re-padding of a truncated
index in the data-availability decoders. -/
theorem beValue_zeros_append (k : Nat) (bytes : List UInt8) :
    beValue (List.replicate k 0 ++ bytes) = beValue bytes := by
  rw [beValue_append, beValue_replicate_zero]
  simp

theorem beBytes_add (j k n : Nat) :
    beBytes (j + k) n = beBytes j (n / 256 ^ k) ++ beBytes k n := by
  induction k generalizing n with
  | zero => simp [beBytes]
  | succ k ih =>
      rw [← Nat.add_assoc, beBytes, ih, beBytes, List.append_assoc, Nat.div_div_eq_div_mul,
        ← pow_succ']

/-- Dropping the high `width - k` bytes leaves the `k` low-order bytes: Go's
`b[len(b)-k:]` on a big-endian encoding. -/
theorem drop_beBytes {width k : Nat} (hk : k ≤ width) (n : Nat) :
    (beBytes width n).drop (width - k) = beBytes k n := by
  obtain ⟨j, rfl⟩ := Nat.exists_eq_add_of_le' hk
  rw [beBytes_add, Nat.add_sub_cancel, List.drop_left' (length_beBytes _ _)]

@[simp] theorem beBytes_zero (width : Nat) : beBytes width 0 = List.replicate width 0 := by
  induction width with
  | zero => rfl
  | succ width ih => rw [beBytes, Nat.zero_div, ih, List.replicate_succ']; rfl

theorem beValue_lt (bytes : List UInt8) : beValue bytes < 256 ^ bytes.length := by
  induction bytes using List.reverseRecOn with
  | nil => simp
  | append_singleton bytes b ih =>
      rw [beValue_append, beValue_singleton, List.length_append, List.length_singleton, pow_one,
        pow_succ]
      have hb := toNat_lt_256 b
      generalize 256 ^ bytes.length = p at ih ⊢
      omega

theorem beBytes_beValue (bytes : List UInt8) : beBytes bytes.length (beValue bytes) = bytes := by
  induction bytes using List.reverseRecOn with
  | nil => rfl
  | append_singleton bytes b ih =>
      have hb := toNat_lt_256 b
      have hdiv : (beValue bytes * 256 + b.toNat) / 256 = beValue bytes := by omega
      rw [List.length_append, List.length_singleton, beBytes, beValue_append, beValue_singleton,
        List.length_singleton, pow_one, hdiv, ih, uint8_ofNat_eq (b := b) (by omega)]

end HermezNode
