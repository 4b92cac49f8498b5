import HermezNode.Synchronizer.Machine
import Mathlib.Data.List.Chain
import Mathlib.Data.List.Sort

/-! The stored blocks against a chain that may change at every step of `Sync`. -/

namespace HermezNode

namespace Block

/-- The block a hash determines: its payload is its timestamp and the rest of the hash is its
parent's. -/
def ofHash (hash : Hash) : Block := ⟨hash.length - 1, hash.headD 0, hash, hash.tail⟩

/-- The block is the one its hash determines. -/
def WellFormed (b : Block) : Prop := b = ofHash b.hash

instance (b : Block) : Decidable b.WellFormed := inferInstanceAs (Decidable (_ = _))

@[simp] theorem hash_ofHash (hash : Hash) : (ofHash hash).hash = hash := rfl

end Block

/-- Modelled from the spec: a chain, by the payloads of its blocks from the genesis on. -/
abbrev Chain := List Nat

namespace Chain

/-- The block at height `n`. -/
def block (c : Chain) (n : Int) : Block := Block.ofHash (c.take (n.toNat + 1)).reverse

/-- `c` holds `b` at its height. -/
def Contains (c : Chain) (b : Block) : Prop := 0 ≤ b.num ∧ b.num < c.length ∧ b = c.block b.num

instance (c : Chain) (b : Block) : Decidable (c.Contains b) :=
  inferInstanceAs (Decidable (_ ∧ _ ∧ _))

/-- `b`'s hash is `c`'s hash at `b`'s height. -/
def HashAt (c : Chain) (b : Block) : Prop :=
  0 ≤ b.num ∧ b.num < c.length ∧ b.hash = (c.block b.num).hash

/-- `ethereum.NotFound`. -/
def errNotFound : Failure := .error "not found"

/-- Modelled from the spec: `EthBlockByNumber`, where `0` asks for the head. -/
def ethBlockByNumber (c : Chain) (number : Int) : Except Failure Block :=
  if number = 0 then
    if c = [] then .error errNotFound else .ok (c.block (c.length - 1))
  else if 0 < number ∧ number < c.length then .ok (c.block number) else .error errNotFound

theorem block_wellFormed (c : Chain) (n : Int) : (c.block n).WellFormed := rfl

theorem num_block {c : Chain} {n : Int} (h0 : 0 ≤ n) (hlt : n < c.length) :
    (c.block n).num = n := by
  simp only [block, Block.ofHash, List.length_reverse, List.length_take]
  omega

theorem parentHash_block {c : Chain} {n : Int} (h0 : 0 ≤ n) (hlt : n + 1 < c.length) :
    (c.block (n + 1)).parentHash = (c.block n).hash := by
  obtain ⟨k, rfl⟩ := Int.eq_ofNat_of_zero_le h0
  have hk : k + 1 < c.length := by omega
  have htoNat : ((k : Int) + 1).toNat = k + 1 := by omega
  simp [block, Block.ofHash, htoNat, List.take_succ, List.getElem?_eq_getElem hk]

theorem Contains.hashAt {c : Chain} {b : Block} (h : c.Contains b) : c.HashAt b :=
  ⟨h.1, h.2.1, congrArg Block.hash h.2.2⟩

/-- A well-formed block of non-negative height is a block of the chain its hash spells. -/
theorem block_reverse_hash {b : Block} (hwf : b.WellFormed) (h0 : 0 ≤ b.num) :
    Chain.Contains b.hash.reverse b := by
  have hnum : b.num = b.hash.length - 1 := congrArg Block.num hwf
  have htake : b.hash.reverse.take (b.num.toNat + 1) = b.hash.reverse :=
    List.take_of_length_le (by simp; omega)
  exact ⟨h0, by simp; omega, by rw [block, htake, List.reverse_reverse]; exact hwf⟩

end Chain

/-- What a chain can answer to a request for height `n`: a well-formed block at that height,
or for `0`, its head. -/
def ChainAnswer (n : Int) (b : Block) : Prop := b.WellFormed ∧ 0 ≤ b.num ∧ (n = 0 ∨ b.num = n)

instance (n : Int) (b : Block) : Decidable (ChainAnswer n b) :=
  inferInstanceAs (Decidable (_ ∧ _ ∧ _))

/-- The answers `ChainAnswer` allows are exactly those of `EthBlockByNumber` on some chain. -/
theorem chainAnswer_iff {n : Int} {b : Block} :
    ChainAnswer n b ↔ ∃ c : Chain, c.ethBlockByNumber n = .ok b := by
  constructor
  · rintro ⟨hwf, h0, hn⟩
    obtain ⟨-, hlt, hblock⟩ := Chain.block_reverse_hash hwf h0
    refine ⟨b.hash.reverse, ?_⟩
    rcases hn with rfl | rfl
    · have hne : b.hash.reverse ≠ [] := List.ne_nil_of_length_pos (by omega)
      have hlen : ((b.hash.reverse.length : Int) - 1) = b.num := by
        rw [congrArg Block.num hwf]; simp [Block.ofHash]
      simp only [Chain.ethBlockByNumber, if_true, hne, if_false, hlen, ← hblock]
    · by_cases hz : b.num = 0
      · simp only [Chain.ethBlockByNumber, hz, if_true] at hblock ⊢
        have hne : b.hash.reverse ≠ [] := List.ne_nil_of_length_pos (by omega)
        have hlen : ((b.hash.reverse.length : Int) - 1) = 0 := by
          rw [← hz, congrArg Block.num hwf]; simp [Block.ofHash]
        simp only [hne, if_false, hlen, ← hblock]
      · simp only [Chain.ethBlockByNumber, hz, if_false, ← hblock]
        rw [if_pos ⟨by omega, hlt⟩]
  · rintro ⟨c, hc⟩
    unfold Chain.ethBlockByNumber at hc
    split_ifs at hc with hz hnil hrange <;> cases hc
    · have hlen : 0 < c.length := List.length_pos.mpr hnil
      exact ⟨Chain.block_wellFormed _ _, by rw [Chain.num_block] <;> omega, .inl hz⟩
    · exact ⟨Chain.block_wellFormed _ _, by rw [Chain.num_block] <;> omega,
        .inr (Chain.num_block (by omega) hrange.2)⟩

/-! ## The stored blocks -/

/-- `List.Chain'` decided by structural recursion, which the kernel evaluates. -/
def decideChain' {α : Type} (R : α → α → Prop) [DecidableRel R] : (l : List α) → Decidable (l.Chain' R)
  | [] => isTrue List.chain'_nil
  | [a] => isTrue (List.chain'_singleton a)
  | a :: b :: l =>
    haveI := decideChain' R (b :: l)
    decidable_of_iff (R a b ∧ (b :: l).Chain' R) List.chain'_cons.symm

/-- Consecutive heights from `1` on, in insertion order. -/
def Consecutive (blocks : List Block) : Prop :=
  blocks.Chain' (fun a b => b.num = a.num + 1) ∧ ∀ b ∈ blocks, 0 < b.num

/-- Each stored block is a child of the one stored before it. -/
def Linked (blocks : List Block) : Prop :=
  blocks.Chain' fun a b => b.parentHash = a.hash

instance (blocks : List Block) : Decidable (Consecutive blocks) :=
  haveI := decideChain' (fun a b : Block => b.num = a.num + 1) blocks
  inferInstanceAs (Decidable (_ ∧ _))

instance (blocks : List Block) : Decidable (Linked blocks) := decideChain' _ blocks

section Stored

variable {blocks : List Block}

theorem Consecutive.sorted (h : Consecutive blocks) : blocks.Sorted (·.num < ·.num) := by
  haveI : IsTrans Block (·.num < ·.num) := ⟨fun _ _ _ => lt_trans⟩
  exact List.chain'_iff_pairwise.mp (h.1.imp fun _ _ hab => by omega)

theorem argmax_num_eq_getLast? (h : blocks.Sorted (·.num < ·.num)) :
    blocks.argmax Block.num = blocks.getLast? := by
  induction blocks with
  | nil => rfl
  | cons a l ih =>
    rw [List.sorted_cons] at h
    rw [List.argmax_cons, ih h.2]
    cases l with
    | nil => rfl
    | cons b l =>
      have hz := List.getLast?_eq_getLast (b :: l) (List.cons_ne_nil _ _)
      rw [hz, List.getLast?_cons_cons, hz]
      simp [h.1 _ (List.getLast_mem _)]

/-- On consecutive blocks, `GetLastBlock` reads the block stored last. -/
theorem getLast?_of_getLastBlock {db : HistoryDB} (hc : Consecutive db.blocks) {b : Block}
    (h : db.getLastBlock = .ok b) : db.blocks.getLast? = some b := by
  unfold HistoryDB.getLastBlock at h
  split at h <;> cases h
  rename_i hmax
  rwa [argmax_num_eq_getLast? hc.sorted] at hmax

theorem filter_num_le_eq_takeWhile (h : blocks.Sorted (·.num < ·.num)) (n : Int) :
    blocks.filter (·.num ≤ n) = blocks.takeWhile (·.num ≤ n) := by
  induction blocks with
  | nil => rfl
  | cons a l ih =>
    rw [List.sorted_cons] at h
    by_cases ha : a.num ≤ n
    · simp [List.filter_cons, List.takeWhile_cons, ha, ih h.2]
    · have hl : ∀ b ∈ l, n < b.num := fun b hb => by have := h.1 b hb; omega
      simp [List.filter_cons, List.takeWhile_cons, ha]
      exact hl

/-- On sorted blocks, `Reorg` keeps the blocks in front of the first one above `n`, so it keeps
every relation between neighbours. -/
theorem chain'_reorg {R : Block → Block → Prop} {db : HistoryDB}
    (h : db.blocks.Sorted (·.num < ·.num)) (hc : db.blocks.Chain' R) (n : Int) :
    (db.reorg n).blocks.Chain' R := by
  rw [HistoryDB.reorg, filter_num_le_eq_takeWhile h]
  rw [← List.takeWhile_append_dropWhile (fun b : Block => decide (b.num ≤ n)) db.blocks] at hc
  exact (List.chain'_append.mp hc).1

theorem getLast?_reorg {db : HistoryDB} (h : db.blocks.Sorted (·.num < ·.num)) {b : Block}
    (hb : b ∈ db.blocks) : (db.reorg b.num).blocks.getLast? = some b := by
  obtain ⟨l, r, hlr⟩ := List.append_of_mem hb
  rw [hlr, List.Sorted, List.pairwise_append, List.pairwise_cons] at h
  have hl : ∀ x ∈ l, x.num ≤ b.num := fun x hx => (h.2.2 x hx b (List.mem_cons_self _ _)).le
  have hr : ∀ y ∈ r, ¬ y.num ≤ b.num := fun y hy => not_le.mpr (h.2.1.1 y hy)
  have hl' : l.filter (·.num ≤ b.num) = l := List.filter_eq_self.mpr (by simpa using hl)
  have hr' : r.filter (·.num ≤ b.num) = [] := List.filter_eq_nil_iff.mpr (by simpa using hr)
  simp [HistoryDB.reorg, hlr, List.filter_cons, hl', hr']

theorem Consecutive.reorg {db : HistoryDB} (h : Consecutive db.blocks) (n : Int) :
    Consecutive (db.reorg n).blocks :=
  ⟨chain'_reorg h.sorted h.1 n,
    fun b hb => h.2 b (List.mem_of_mem_filter hb)⟩

theorem Consecutive.append {eb : Block} (h : Consecutive blocks)
    (hlast : ∀ l ∈ blocks.getLast?, eb.num = l.num + 1) (hpos : 0 < eb.num) :
    Consecutive (blocks ++ [eb]) := by
  refine ⟨List.chain'_append.mpr ⟨h.1, List.chain'_singleton _, fun l hl e he => ?_⟩, ?_⟩
  · cases he
    exact hlast l hl
  · intro b hb
    rcases List.mem_append.mp hb with hb | hb
    · exact h.2 b hb
    · cases List.mem_singleton.mp hb
      exact hpos

theorem Linked.append {eb : Block} (h : Linked blocks)
    (hlast : ∀ l ∈ blocks.getLast?, eb.parentHash = l.hash) : Linked (blocks ++ [eb]) :=
  List.chain'_append.mpr ⟨h, List.chain'_singleton _, fun l hl e he => by cases he; exact hlast l hl⟩

/-- Linked, well-formed blocks at consecutive heights whose last one is a block of `c` are all
blocks of `c`. -/
theorem contains_of_linked {c : Chain} (hlink : Linked blocks) (hcons : Consecutive blocks)
    (hwf : ∀ b ∈ blocks, b.WellFormed) {last : Block} (hlast : blocks.getLast? = some last)
    (hc : c.Contains last) : ∀ b ∈ blocks, c.Contains b := by
  induction blocks with
  | nil => simp
  | cons a l ih =>
    cases l with
    | nil =>
      cases hlast
      simpa using hc
    | cons b l =>
      rw [Linked, List.chain'_cons] at hlink
      obtain ⟨hchain, hpos⟩ := hcons
      rw [List.chain'_cons] at hchain
      have htail := ih hlink.2 ⟨hchain.2, fun x hx => hpos x (List.mem_cons_of_mem _ hx)⟩
        (fun x hx => hwf x (List.mem_cons_of_mem _ hx)) (by simpa using hlast)
      obtain ⟨hb0, hblen, hbc⟩ := htail b (List.mem_cons_self _ _)
      have ha0 := hpos a (List.mem_cons_self _ _)
      have hnum : b.num = a.num + 1 := hchain.1
      have hhash : a.hash = (c.block a.num).hash := by
        rw [← Chain.parentHash_block ha0.le (by omega), ← hnum, ← hbc, hlink.1]
      have ha : a = c.block a.num :=
        calc a = Block.ofHash a.hash := hwf a (List.mem_cons_self _ _)
          _ = c.block a.num := by rw [hhash]; exact (Chain.block_wellFormed c a.num).symm
      intro x hx
      rcases List.mem_cons.mp hx with rfl | hx
      · exact ⟨ha0.le, by omega, ha⟩
      · exact htail x hx

end Stored

/-! ## Sync over chains -/

namespace Synchronizer

/-- The world answers every block request of a step as `P` allows. -/
def AnsweredBy (P : Int → Block → Prop) (s : Synchronizer) (i : Input) : Prop :=
  ∀ n ∈ requestedBlockNum s.pc, ∀ b ∈ i.ethBlock.toOption, P n b

instance {P : Int → Block → Prop} [∀ n b, Decidable (P n b)] (s : Synchronizer) (i : Input) :
    Decidable (AnsweredBy P s i) :=
  inferInstanceAs (Decidable (∀ n ∈ requestedBlockNum s.pc, ∀ b ∈ i.ethBlock.toOption, P n b))

/-- Every answer is a block of some chain, which may change at every step. -/
def ChainWorld : Synchronizer → Input → Prop := AnsweredBy ChainAnswer

/-- Every answer is a block of some chain and lies on `c`. -/
def OnChain (c : Chain) : Synchronizer → Input → Prop :=
  AnsweredBy fun n b => ChainAnswer n b ∧ c.Contains b

instance (s : Synchronizer) (i : Input) : Decidable (ChainWorld s i) :=
  inferInstanceAs (Decidable (AnsweredBy _ s i))

instance (c : Chain) (s : Synchronizer) (i : Input) : Decidable (OnChain c s i) :=
  inferInstanceAs (Decidable (AnsweredBy _ s i))

theorem AnsweredBy.answer {P : Int → Block → Prop} {s : Synchronizer} {i : Input}
    (h : AnsweredBy P s i) {n : Int} (hn : requestedBlockNum s.pc = some n) {b : Block}
    (hb : i.ethBlock = .ok b) : P n b :=
  h n hn b (by simp [hb, Except.toOption])

theorem AnsweredBy.mono {P Q : Int → Block → Prop} {s : Synchronizer} {i : Input}
    (h : AnsweredBy P s i) (hPQ : ∀ n b, P n b → Q n b) : AnsweredBy Q s i :=
  fun n hn b hb => hPQ n b (h n hn b hb)

/-- The firstSavedBlock a call reads is a block of height at least `0`. -/
def FirstSavedOK (s : Synchronizer) : Prop := ∀ first, s.firstSavedBlock = some first → 0 ≤ first.num

/-- The heights a call keeps, in a world whose answers come from chains. -/
def HeightInv (s : Synchronizer) : Prop :=
  Consecutive s.historyDB.blocks ∧ (∀ b ∈ s.historyDB.blocks, b.WellFormed) ∧
  match s.pc with
  | .lastSavedBlock => FirstSavedOK s
  | .checkLastSavedBlock last => s.historyDB.getLastBlock = .ok last ∧ FirstSavedOK s
  | .reorgFetch _ n | .reorgGetBlock _ n _ => 0 < n ∧ FirstSavedOK s
  | .currentBlock last | .forwardFetch last _ =>
    0 ≤ last.num ∧ (s.historyDB.blocks = [] ∨ s.historyDB.blocks.getLast? = some last)
  | .addBlock eb _ =>
    eb.WellFormed ∧ 0 < eb.num ∧ ∀ last ∈ s.historyDB.blocks.getLast?, eb.num = last.num + 1
  | _ => True

theorem heightInv_lastBlock {s : Synchronizer} (h : Consecutive s.historyDB.blocks) {b : Block}
    (hb : s.historyDB.getLastBlock = .ok b) :
    0 ≤ b.num ∧ (s.historyDB.blocks = [] ∨ s.historyDB.blocks.getLast? = some b) :=
  ⟨(h.2 b (HistoryDB.getLastBlock_eq_ok hb).1).le, .inr (getLast?_of_getLastBlock h hb)⟩

theorem HeightInv.next {s : Synchronizer} (h : HeightInv s) {i : Input} (hi : ChainWorld s i) :
    HeightInv (step s i) := by
  obtain ⟨hcons, hwf, hpc⟩ := h
  have hm := step_moves s i
  generalize step s i = t at hm
  cases hm with
  | ret | latestBlock | reorgFound | lastBatchNum | noBatch | reset =>
    exact ⟨hcons, hwf, trivial⟩
  | firstSavedBlock hpc' heb =>
    obtain ⟨-, h0, -⟩ := AnsweredBy.answer hi (by rw [hpc']; rfl) heb
    exact ⟨hcons, hwf, fun _ hfirst => by cases hfirst; exact h0⟩
  | fullSync hpc' hfirst _ hget =>
    rw [hpc'] at hpc
    refine ⟨hcons, hwf, hpc _ hfirst, .inl ?_⟩
    rcases hget with hget | ⟨b, hget, hb⟩
    · exact HistoryDB.getLastBlock_eq_errNoRows hget
    · have := hcons.2 b (HistoryDB.getLastBlock_eq_ok hget).1
      omega
  | lastSavedBlock hpc' _ hget _ =>
    rw [hpc'] at hpc
    exact ⟨hcons, hwf, hget, hpc⟩
  | hashMatch hpc' =>
    rw [hpc'] at hpc
    exact ⟨hcons, hwf, heightInv_lastBlock hcons hpc.1⟩
  | reorgStart hpc' =>
    rw [hpc'] at hpc
    exact ⟨hcons, hwf, hcons.2 _ (HistoryDB.getLastBlock_eq_ok hpc.1).1, hpc.2⟩
  | reorgFetch hpc' =>
    rw [hpc'] at hpc
    exact ⟨hcons, hwf, hpc⟩
  | reorgMismatch hpc' _ _ _ hfirst hlt =>
    rw [hpc'] at hpc
    have := hpc.2 _ hfirst
    exact ⟨hcons, hwf, by omega, hpc.2⟩
  | truncate =>
    exact ⟨hcons.reorg _, fun b hb => hwf b (List.mem_of_mem_filter hb), trivial⟩
  | afterReorg _ _ hget => exact ⟨hcons, hwf, heightInv_lastBlock hcons hget⟩
  | forwardStart hpc' =>
    rw [hpc'] at hpc
    exact ⟨hcons, hwf, hpc⟩
  | forwardFetch hpc' heb =>
    rw [hpc'] at hpc
    obtain ⟨hebwf, -, hn⟩ := AnsweredBy.answer hi (by rw [hpc']; rfl) heb
    have hnum : _ = _ := hn.resolve_left (by omega)
    refine ⟨hcons, hwf, hebwf, by omega, fun l hl => ?_⟩
    rcases hpc.2 with hnil | hlast
    · simp [hnil] at hl
    · cases hlast.symm.trans hl
      exact hnum
  | addBlock hpc' =>
    rw [hpc'] at hpc
    refine ⟨hcons.append hpc.2.2 hpc.2.1, fun b hb => ?_, trivial⟩
    rcases List.mem_append.mp hb with hb | hb
    · exact hwf b hb
    · cases List.mem_singleton.mp hb
      exact hpc.1
  | forwardNext _ _ hget => exact ⟨hcons, hwf, heightInv_lastBlock hcons hget⟩

/-- The linkage a call keeps when every block it is answered lies on `c`. -/
def LinkInv (c : Chain) (s : Synchronizer) : Prop :=
  Linked s.historyDB.blocks ∧
  match s.pc with
  | .lastSavedBlock => ∀ first, s.firstSavedBlock = some first → c.Contains first
  | .reorgGetBlock _ n eb => c.Contains eb ∧ eb.num = n
  | .reorgTruncate _ b => b ∈ s.historyDB.blocks ∧ c.HashAt b
  | .reorgLastBatchNum | .reorgReset _ | .afterReorg | .refreshLastSavedBlock _ =>
    ∃ b ∈ s.historyDB.blocks.getLast?, c.HashAt b
  | .currentBlock last | .forwardFetch last _ => c.HashAt last
  | .addBlock eb _ => c.Contains eb ∧ ∀ last ∈ s.historyDB.blocks.getLast?, eb.parentHash = last.hash
  | _ => True

theorem LinkInv.next {c : Chain} {s : Synchronizer} (hh : HeightInv s) (h : LinkInv c s)
    {i : Input} (hi : OnChain c s i) : LinkInv c (step s i) := by
  obtain ⟨hlink, hpc⟩ := h
  obtain ⟨hcons, -, hhpc⟩ := hh
  have hm := step_moves s i
  generalize step s i = t at hm
  cases hm with
  | ret | latestBlock | lastSavedBlock | reorgStart | reorgMismatch => exact ⟨hlink, trivial⟩
  | firstSavedBlock hpc' heb =>
    obtain ⟨-, hc⟩ := AnsweredBy.answer hi (by rw [hpc']; rfl) heb
    exact ⟨hlink, fun _ hfirst => by cases hfirst; exact hc⟩
  | fullSync hpc' hfirst =>
    rw [hpc'] at hpc
    exact ⟨hlink, (hpc _ hfirst).hashAt⟩
  | hashMatch hpc' heb hhash =>
    rw [hpc'] at hhpc
    obtain ⟨⟨-, -, hn⟩, hc⟩ := AnsweredBy.answer hi (by rw [hpc']; rfl) heb
    have hpos := hcons.2 _ (HistoryDB.getLastBlock_eq_ok hhpc.1).1
    have hnum : _ = _ := hn.resolve_left (by omega)
    obtain ⟨-, hlt, heq⟩ := hc
    exact ⟨hlink, by omega, by omega, by rw [← hhash, heq, hnum]⟩
  | reorgFetch hpc' heb =>
    rw [hpc'] at hhpc
    obtain ⟨⟨-, -, hn⟩, hc⟩ := AnsweredBy.answer hi (by rw [hpc']; rfl) heb
    exact ⟨hlink, hc, hn.resolve_left (by omega)⟩
  | reorgFound hpc' _ hget hhash =>
    rw [hpc'] at hpc
    obtain ⟨⟨h0, hlt, heq⟩, hnum⟩ := hpc
    obtain ⟨hmem, hbnum⟩ := HistoryDB.getBlock_eq_ok hget
    refine ⟨hlink, hmem, by omega, by omega, ?_⟩
    rw [hhash, heq, hnum, hbnum]
  | truncate hpc' =>
    rw [hpc'] at hpc
    exact ⟨chain'_reorg hcons.sorted hlink _, _,
      getLast?_reorg hcons.sorted hpc.1, hpc.2⟩
  | lastBatchNum hpc' | noBatch hpc' | reset hpc' =>
    rw [hpc'] at hpc
    exact ⟨hlink, hpc⟩
  | afterReorg hpc' _ hget =>
    rw [hpc'] at hpc
    obtain ⟨b, hb, hhash⟩ := hpc
    cases (getLast?_of_getLastBlock hcons hget).symm.trans hb
    exact ⟨hlink, hhash⟩
  | forwardStart hpc' =>
    rw [hpc'] at hpc
    exact ⟨hlink, hpc⟩
  | forwardFetch hpc' heb =>
    rw [hpc'] at hpc hhpc
    obtain ⟨⟨-, -, hn⟩, hc⟩ := AnsweredBy.answer hi (by rw [hpc']; rfl) heb
    have hnum : _ = _ := hn.resolve_left (by omega)
    refine ⟨hlink, hc, fun l hl => ?_⟩
    rcases hhpc.2 with hnil | hlast
    · simp [hnil] at hl
    · cases hlast.symm.trans hl
      obtain ⟨h0, hlt, heq⟩ := hpc
      obtain ⟨-, hlt', heq'⟩ := hc
      rw [heq', hnum, Chain.parentHash_block h0 (by omega), heq]
  | addBlock hpc' =>
    rw [hpc'] at hpc
    exact ⟨hlink.append hpc.2, _, List.getLast?_concat _, hpc.1.hashAt⟩
  | forwardNext hpc' _ hget =>
    rw [hpc'] at hpc
    obtain ⟨b, hb, hhash⟩ := hpc
    cases (getLast?_of_getLastBlock hcons hget).symm.trans hb
    exact ⟨hlink, hhash⟩

/-- What every state of a call of `Sync` keeps of the stored blocks, in a world whose answers
come from chains: consecutive heights added in ascending order, and well-formed blocks; their
linkage when every answered block lies on one chain `c`; and, while they are linked, when the
last stored block is a chain's block, every stored block is. -/
def LinkageLaw (s0 : Synchronizer) (inputs : List Input) : Prop :=
  let s := s0.sync inputs
  Consecutive s.historyDB.blocks ∧ (∀ b ∈ s.historyDB.blocks, b.WellFormed) ∧
  (∀ c : Chain, RunIn (OnChain c) { s0 with pc := .latestBlock } inputs →
    Linked s0.historyDB.blocks → Linked s.historyDB.blocks) ∧
  (Linked s.historyDB.blocks → ∀ (c : Chain) (last : Block), s.historyDB.getLastBlock = .ok last →
    c.Contains last → ∀ b ∈ s.historyDB.blocks, c.Contains b)

theorem sync_linkage (s0 : Synchronizer) (inputs : List Input)
    (hcons : Consecutive s0.historyDB.blocks) (hwf : ∀ b ∈ s0.historyDB.blocks, b.WellFormed)
    (hworld : RunIn ChainWorld { s0 with pc := .latestBlock } inputs) :
    LinkageLaw s0 inputs := by
  have hh : HeightInv (s0.sync inputs) :=
    RunIn.invariant HeightInv (fun _ _ h hi => h.next hi) ⟨hcons, hwf, trivial⟩ hworld
  refine ⟨hh.1, hh.2.1, fun c hrun hlink => ?_, fun hlink c last hlast hc => ?_⟩
  · have hboth : HeightInv (s0.sync inputs) ∧ LinkInv c (s0.sync inputs) :=
      RunIn.invariant (fun s => HeightInv s ∧ LinkInv c s)
        (fun _ _ h hi => ⟨h.1.next (AnsweredBy.mono hi fun _ _ hb => hb.1), h.2.next h.1 hi⟩)
        ⟨⟨hcons, hwf, trivial⟩, hlink, trivial⟩ hrun
    exact hboth.2.1
  · exact contains_of_linked hlink hh.1 hh.2.1 (getLast?_of_getLastBlock hh.1 hlast) hc

theorem sync_linkage_reorg :
    let c : Chain := List.range 24
    let fork : Chain := List.range 6 ++ [100, 101]
    let s0 : Synchronizer := ⟨⟨[fork.block 4, fork.block 5, fork.block 6], []⟩, ⟨0⟩, none,
      .returned none⟩
    let inputs := [23, 3, 0, 6, 6, 0, 5, 0, 0, 0, 0, 0, 6, 0, 0, 7, 0, 0].map fun (n : Int) =>
      (⟨.ok (c.block n), .ok 7, none⟩ : Input)
    Consecutive s0.historyDB.blocks ∧ (∀ b ∈ s0.historyDB.blocks, b.WellFormed) ∧
      RunIn ChainWorld { s0 with pc := .latestBlock } inputs ∧ LinkageLaw s0 inputs :=
  ⟨by decide, by decide, by decide, sync_linkage _ _ (by decide) (by decide) (by decide)⟩

/-- The chain is replaced, between two iterations of the forward loop, by one that shares its
first two blocks: the call returns successfully with a stored block whose parent is not the
block stored below it, and the last stored block is the new chain's while the one below is
not. -/
theorem sync_fork_between_forward_steps :
    let a : Chain := List.replicate 22 0
    let b : Chain := a.take 2 ++ [1, 1]
    let answer (c : Chain) (n : Int) : Input := ⟨.ok (c.block n), .ok 3, none⟩
    let s0 : Synchronizer := ⟨⟨[], []⟩, ⟨0⟩, none, .returned none⟩
    let inputs := [answer a 21, answer a 1, answer a 0, answer a 0, answer a 2, answer a 0,
      answer a 0, answer b 3, answer b 0, answer b 0]
    let s := s0.sync inputs
    RunIn (fun s i => OnChain a s i ∨ OnChain b s i) { s0 with pc := .latestBlock } inputs ∧
      s.pc = .returned none ∧ ¬ Linked s.historyDB.blocks ∧
      s.historyDB.getLastBlock = .ok (b.block 3) ∧ b.Contains (b.block 3) ∧
      a.block 2 ∈ s.historyDB.blocks ∧ ¬ b.Contains (a.block 2) := by
  decide

end Synchronizer

end HermezNode
