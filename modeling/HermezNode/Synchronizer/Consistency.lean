import HermezNode.Synchronizer.Machine

/-! The history store and the state DB across a call of `Sync` and its `reorg`. -/

namespace HermezNode

/-- The statements of a call up to `historyDB.Reorg`, which read the stores only. -/
def Pc.beforeTruncate : Pc → Bool
  | .latestBlock | .firstSavedBlock _ | .lastSavedBlock | .checkLastSavedBlock _
  | .reorgFetch _ _ | .reorgGetBlock _ _ _ | .reorgTruncate _ _ => true
  | _ => false

namespace Synchronizer

/-- The state DB's current batch is the history's last batch. -/
def Consistent (s : Synchronizer) : Prop :=
  s.stateDB.currentBatch = s.historyDB.lastBatchNum

instance (s : Synchronizer) : Decidable s.Consistent := inferInstanceAs (Decidable (_ = _))

/-- Why the state DB may be ahead of the history: the truncation left no batch above `0`, or
the call stands at `GetLastBatchNum` or `Reset`, or one of them failed and the call returned
the store's error. -/
def ResetOutstanding (s : Synchronizer) : Prop :=
  s.historyDB.lastBatchNum = 0 ∨ s.pc = .reorgLastBatchNum ∨ (∃ n, s.pc = .reorgReset n) ∨
    ∃ msg, s.pc = .returned (some (dbError msg))

/-- Away from `GetLastBatchNum`, `Reset` and a return, the state DB is ahead only of a history
with no batch above `0`. -/
theorem ResetOutstanding.lastBatchNum_eq_zero {s : Synchronizer} (h : s.ResetOutstanding)
    (hpc : s.pc ≠ .reorgLastBatchNum ∧ (∀ n, s.pc ≠ .reorgReset n) ∧ ∀ err, s.pc ≠ .returned err) :
    s.historyDB.lastBatchNum = 0 := by
  rcases h with h0 | h1 | ⟨n, h2⟩ | ⟨msg, h3⟩
  · exact h0
  · exact absurd h1 hpc.1
  · exact absurd h2 (hpc.2.1 n)
  · exact absurd h3 (hpc.2.2 _)

/-- A completed `Reset(batchNum)` of the history's last batch makes the stores consistent. -/
theorem step_reorgReset {s : Synchronizer} {n : Nat} (hpc : s.pc = .reorgReset n)
    (hn : n = s.historyDB.lastBatchNum) {i : Input} (hi : i.dbFailure = none) :
    (step s i).Consistent := by
  simp only [step, hpc, Input.store, hi]
  exact hn

/-- `GetLastBatchNum` and `Reset` return only their store's failure, and a returned call
stays as it is. -/
theorem step_returned_of_resetOutstanding {s : Synchronizer} {i : Input} {err : Option Failure}
    (hpc : s.pc = .reorgLastBatchNum ∨ (∃ n, s.pc = .reorgReset n) ∨
      ∃ msg, s.pc = .returned (some (dbError msg)))
    (h : (step s i).pc = .returned err) : ∃ msg, err = some (dbError msg) := by
  rcases hpc with hpc | ⟨n, hpc⟩ | ⟨msg, hpc⟩
  · simp only [step, hpc] at h
    split at h
    · split at h <;> cases h
    · rename_i e hget
      split at h
      · cases h
      · rename_i hne
        cases h
        rcases Input.store_eq_error hget with ⟨msg, -, rfl⟩ | hget
        · exact ⟨msg, rfl⟩
        · exact absurd (HistoryDB.getLastBatchNum_eq_error hget).1 hne
  · simp only [step, hpc] at h
    split at h
    · cases h
    · rename_i e hfail
      cases h
      rcases Input.store_eq_error hfail with ⟨msg, -, rfl⟩ | hfail
      · exact ⟨msg, rfl⟩
      · cases hfail
  · simp only [step, hpc] at h
    cases h
    exact ⟨msg, rfl⟩

/-- What a call started in the consistent state `s0` keeps at every state it reaches. -/
structure CallInv (s0 s : Synchronizer) : Prop where
  untouched : s.pc.beforeTruncate → s.historyDB = s0.historyDB ∧ s.stateDB = s0.stateDB
  reset : ∀ n, s.pc = .reorgReset n → 0 < n ∧ n = s.historyDB.lastBatchNum
  outcome : s.Consistent ∨ s.stateDB = s0.stateDB ∧
    s.historyDB.lastBatchNum < s.stateDB.currentBatch ∧ s.ResetOutstanding

section CallInv

variable {s0 s : Synchronizer}

/-- A move of the `pc` alone, from a statement that neither reads the last batch nor resets,
keeps `CallInv` when it does not enter the truncation phase from after it and does not
schedule a reset. -/
theorem CallInv.goto (h : CallInv s0 s) {first : Option Block} {pc : Pc}
    (hbt : pc.beforeTruncate → s.pc.beforeTruncate) (hreset : ∀ n, pc ≠ .reorgReset n)
    (hpc : s.pc ≠ .reorgLastBatchNum ∧ (∀ n, s.pc ≠ .reorgReset n) ∧ ∀ err, s.pc ≠ .returned err) :
    CallInv s0 { s with firstSavedBlock := first, pc := pc } :=
  ⟨fun hpc' => h.untouched (hbt hpc'), fun n hpc' => absurd hpc' (hreset n),
    h.outcome.imp_right fun ⟨hstate, hlt, hro⟩ => ⟨hstate, hlt, .inl (hro.lastBatchNum_eq_zero hpc)⟩⟩

theorem CallInv.next (h0 : s0.Consistent) (h : CallInv s0 s) (i : Input) :
    CallInv s0 (step s i) := by
  have hm := step_moves s i
  generalize ht : step s i = t at hm
  cases hm with
  | @truncate _ b hpc _ =>
    obtain ⟨hdb, hstate⟩ := h.untouched (by simp [hpc, Pc.beforeTruncate])
    have hle : (s.historyDB.reorg b.num).lastBatchNum ≤ s.stateDB.currentBatch := by
      rw [hstate, h0, ← hdb]
      exact HistoryDB.lastBatchNum_reorg_le _ _
    refine ⟨by simp [Pc.beforeTruncate], by simp, ?_⟩
    rcases hle.lt_or_eq with hlt | heq
    · exact .inr ⟨hstate, hlt, .inr (.inl rfl)⟩
    · exact .inl heq.symm
  | lastBatchNum _ _ hget hne =>
    refine ⟨by simp [Pc.beforeTruncate], ?_, ?_⟩
    · rintro _ ⟨⟩
      exact ⟨Nat.pos_of_ne_zero hne, HistoryDB.getLastBatchNum_eq_ok hget⟩
    · exact h.outcome.imp_right fun ⟨hstate, hlt, _⟩ => ⟨hstate, hlt, .inr (.inr (.inl ⟨_, rfl⟩))⟩
  | noBatch _ _ hget =>
    have hzero : s.historyDB.lastBatchNum = 0 := hget.elim
      (fun hget => (HistoryDB.getLastBatchNum_eq_error hget).2)
      (fun hget => (HistoryDB.getLastBatchNum_eq_ok hget).symm)
    refine ⟨by simp [Pc.beforeTruncate], by simp, ?_⟩
    exact h.outcome.imp_right fun ⟨hstate, hlt, _⟩ => ⟨hstate, hlt, .inl hzero⟩
  | reset hpc hfail =>
    refine ⟨by simp [Pc.beforeTruncate], by simp, .inl ?_⟩
    rw [← ht]
    exact step_reorgReset hpc (h.reset _ hpc).2 hfail
  | addBlock hpc =>
    refine ⟨by simp [Pc.beforeTruncate], by simp, ?_⟩
    exact h.outcome.imp id fun ⟨hstate, hlt, hro⟩ =>
      ⟨hstate, hlt, .inl (hro.lastBatchNum_eq_zero (by simp [hpc]))⟩
  | ret first err =>
    refine ⟨by simp [Pc.beforeTruncate], by simp, ?_⟩
    refine h.outcome.imp id fun ⟨hstate, hlt, hro⟩ => ⟨hstate, hlt, ?_⟩
    rcases hro with h0 | hpc
    · exact .inl h0
    · obtain ⟨msg, rfl⟩ := step_returned_of_resetOutstanding hpc (by rw [ht])
      exact .inr (.inr (.inr ⟨msg, rfl⟩))
  | latestBlock hpc | firstSavedBlock hpc | fullSync hpc | lastSavedBlock hpc | hashMatch hpc
  | reorgStart hpc | reorgFetch hpc | reorgMismatch hpc | reorgFound hpc | afterReorg hpc
  | forwardStart hpc | forwardFetch hpc | forwardNext hpc =>
    exact h.goto (by simp [hpc, Pc.beforeTruncate]) (by simp [reorgLoop]) (by simp [hpc])

end CallInv

/-! ## The backward walk -/

/-- The walk of `reorg` is answered by `f`: its request for height `n` gets `f n`.  The walk
asks for each height once, so every run's walk is answered by some `f`. -/
def AnswersBy (f : Int → Except Failure Block) (s : Synchronizer) (i : Input) : Prop :=
  ∀ u n, s.pc = .reorgFetch u n → i.ethBlock = f n

/-- Every stored block in `(lo, hi]` exists and differs from the chain's block at its height. -/
def Mismatched (f : Int → Except Failure Block) (db : HistoryDB) (lo hi : Int) : Prop :=
  ∀ h, lo < h → h ≤ hi → ∃ sb eb, db.getBlock h = .ok sb ∧ f h = .ok eb ∧ sb.hash ≠ eb.hash

/-- `b` is the highest stored block in `(first, uncle]` whose hash is the chain's hash at its
height. -/
def HighestMatch (f : Int → Except Failure Block) (db : HistoryDB) (first uncle b : Block) :
    Prop :=
  first.num < b.num ∧ b.num ≤ uncle.num ∧ db.getBlock b.num = .ok b ∧
    (∃ eb, f b.num = .ok eb ∧ eb.hash = b.hash) ∧ Mismatched f db b.num uncle.num

/-- The walk stands at height `n` below `uncle`, above `firstSavedBlock`, every height above
`n` having mismatched. -/
def WalkAt (f : Int → Except Failure Block) (db : HistoryDB) (s : Synchronizer) (u : Block)
    (n : Int) : Prop :=
  ∃ first, s.firstSavedBlock = some first ∧ first.num < n ∧ n ≤ u.num ∧ Mismatched f db n u.num

/-- What the backward walk has established, against the history the call started with. -/
def WalkInv (f : Int → Except Failure Block) (s0 s : Synchronizer) : Prop :=
  match s.pc with
  | .reorgFetch u n => WalkAt f s0.historyDB s u n
  | .reorgGetBlock u n eb => f n = .ok eb ∧ WalkAt f s0.historyDB s u n
  | .reorgTruncate u b =>
    ∃ first, s.firstSavedBlock = some first ∧ HighestMatch f s0.historyDB first u b
  | _ => True

theorem WalkInv.next {f : Int → Except Failure Block} {s0 s : Synchronizer}
    (hcall : CallInv s0 s) (h : WalkInv f s0 s) {i : Input} (hi : AnswersBy f s i) :
    WalkInv f s0 (step s i) := by
  have hm := step_moves s i
  generalize step s i = t at hm
  cases hm with
  | reorgStart _ _ _ hfirst hlt =>
    exact ⟨_, hfirst, hlt, le_rfl, fun _ h₁ h₂ => absurd h₂ (not_le.mpr h₁)⟩
  | reorgFetch hpc heb =>
    rw [WalkInv, hpc] at h
    exact ⟨(hi _ _ hpc).symm.trans heb, h⟩
  | @reorgMismatch _ _ _ _ n hpc _ hget hne hfirst hlt =>
    rw [WalkInv, hpc] at h
    obtain ⟨hf, first, hfirst', _, hle, hmis⟩ := h
    obtain ⟨hdb, -⟩ := hcall.untouched (by simp [hpc, Pc.beforeTruncate])
    refine ⟨_, hfirst, hlt, by omega, fun k hk₁ hk₂ => ?_⟩
    rcases (show k = n ∨ n < k by omega) with rfl | hk
    · exact ⟨_, _, hdb ▸ hget, hf, hne⟩
    · exact hmis k hk hk₂
  | reorgFound hpc _ hget heq =>
    rw [WalkInv, hpc] at h
    obtain ⟨hf, first, hfirst, hlt, hle, hmis⟩ := h
    obtain ⟨hdb, -⟩ := hcall.untouched (by simp [hpc, Pc.beforeTruncate])
    obtain ⟨-, hnum⟩ := HistoryDB.getBlock_eq_ok hget
    subst hnum
    exact ⟨first, hfirst, hlt, hle, hdb ▸ hget, ⟨_, hf, heq.symm⟩, hmis⟩
  | ret | latestBlock | firstSavedBlock | fullSync | lastSavedBlock | hashMatch | truncate
  | lastBatchNum | noBatch | reset | afterReorg | forwardStart | forwardFetch | addBlock
  | forwardNext => trivial

/-! ## A call of `Sync` -/

end Synchronizer

end HermezNode
