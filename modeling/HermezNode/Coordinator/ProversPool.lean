import HermezNode.Go.Bytes

namespace HermezNode

/-! The coordinator's pool of prover clients (coordinator/proverspool.go), a buffered channel;
the scheduler's pick between two ready `select` cases is an input. -/

/-- Modelled from the spec: `common.ErrDone`, what a worker returns once its context is done;
its text is not in the sources. -/
def errDone : Failure := .error "done"

/-- `ProversPool`: the buffer of its channel `pool`, oldest first.  A Go channel never holds
more than its capacity. -/
structure ProversPool (Client : Type) where
  pool : List Client
  capacity : Nat
  pool_le : pool.length ≤ capacity
  deriving DecidableEq, Repr

section Pool

variable {Client : Type}

/-- `NewProversPool`: `make(chan prover.Client, maxServerProofs)`, which panics on a
negative size. -/
def newProversPool (maxServerProofs : Int) : Except Failure (ProversPool Client) :=
  if maxServerProofs < 0 then .error (.panic "makechan: size out of range")
  else .ok ⟨[], maxServerProofs.toNat, Nat.zero_le _⟩

namespace ProversPool

/-- The channel after `p.pool <- serverProof` on a channel with room. -/
def send (p : ProversPool Client) (serverProof : Client) (h : p.pool.length < p.capacity) :
    ProversPool Client :=
  ⟨p.pool ++ [serverProof], p.capacity, by rw [List.length_append]; exact h⟩

/-- `Add`: the send case needs room in the channel, the `ctx.Done()` case a done context;
`pickDone` is the scheduler's pick when both are ready, and `none` is the goroutine blocked.
The flag says whether the send case ran. -/
def add (p : ProversPool Client) (serverProof : Client) (ctxDone pickDone : Bool) :
    Option (ProversPool Client × Bool) :=
  if h : p.pool.length < p.capacity ∧ !(ctxDone && pickDone) then some (p.send serverProof h.1, true)
  else if ctxDone then some (p, false)
  else none

/-- `Get`: the `ctx.Done()` case returns `ErrDone`, the receive case the oldest prover. -/
def get (p : ProversPool Client) (ctxDone pickDone : Bool) :
    Option (ProversPool Client × Except Failure Client) :=
  match p with
  | ⟨serverProof :: rest, capacity, h⟩ =>
    if ctxDone && pickDone then some (p, .error errDone)
    else some (⟨rest, capacity, Nat.le_of_succ_le h⟩, .ok serverProof)
  | ⟨[], _, _⟩ => if ctxDone then some (p, .error errDone) else none

/-- `Add` blocks exactly when the channel is full and its context is not done. -/
theorem add_eq_none_iff (p : ProversPool Client) (serverProof : Client) (ctxDone pickDone : Bool) :
    p.add serverProof ctxDone pickDone = none ↔ p.pool.length = p.capacity ∧ ctxDone = false := by
  have := p.pool_le
  unfold add
  split <;> cases ctxDone <;> cases pickDone <;> simp_all <;> omega

theorem get_eq_none_iff (p : ProversPool Client) (ctxDone pickDone : Bool) :
    p.get ctxDone pickDone = none ↔ p.pool = [] ∧ ctxDone = false := by
  rcases p with ⟨_ | ⟨serverProof, rest⟩, capacity, h⟩ <;> cases ctxDone <;> cases pickDone <;>
    simp [get]

/-- An `Add` drops its prover exactly when its context is done and the channel is full or the
scheduler picks `ctx.Done()`, which it may do while the channel has room; the channel is then
as it was. -/
theorem add_eq_some_false_iff {p p' : ProversPool Client} {serverProof : Client}
    {ctxDone pickDone : Bool} :
    p.add serverProof ctxDone pickDone = some (p', false) ↔
      p' = p ∧ ctxDone = true ∧ (p.pool.length = p.capacity ∨ pickDone = true) := by
  have := p.pool_le
  by_cases hroom : p.pool.length < p.capacity <;> cases ctxDone <;> cases pickDone <;>
    simp [add, hroom, eq_comm] <;> omega

/-- One completed `select`: an `Add` or a `Get` with its context's state and the scheduler's
pick, or an `Add` handing its prover straight to a `Get` blocked on the empty channel. -/
inductive Call (Client : Type) where
  | add (serverProof : Client) (ctxDone pickDone : Bool)
  | get (ctxDone pickDone : Bool)
  | handOver (serverProof : Client)
  deriving DecidableEq, Repr

/-- The provers a call or a run sent into the channel and received out of it, oldest first. -/
structure Transfer (Client : Type) where
  sent : List Client
  received : List Client
  deriving DecidableEq, Repr

/-- One completed call: the channel after it and what it moved. -/
def call (p : ProversPool Client) : Call Client → Option (ProversPool Client × Transfer Client)
  | .add serverProof ctxDone pickDone =>
    (p.add serverProof ctxDone pickDone).map fun r => (r.1, ⟨if r.2 then [serverProof] else [], []⟩)
  | .get ctxDone pickDone => (p.get ctxDone pickDone).map fun r => (r.1, ⟨[], r.2.toOption.toList⟩)
  | .handOver serverProof =>
    if p.pool.isEmpty then some (p, ⟨[serverProof], [serverProof]⟩) else none

/-- The calls in the order they complete; `none` when one of them cannot. -/
def run (p : ProversPool Client) : List (Call Client) → Option (ProversPool Client × Transfer Client)
  | [] => some (p, ⟨[], []⟩)
  | c :: cs => do
    let (p', t) ← p.call c
    let (p'', t') ← p'.run cs
    pure (p'', ⟨t.sent ++ t'.sent, t.received ++ t'.received⟩)

theorem add_conservation {p p' : ProversPool Client} {serverProof : Client}
    {ctxDone pickDone sent : Bool} (h : p.add serverProof ctxDone pickDone = some (p', sent)) :
    p'.capacity = p.capacity ∧
      p.pool ++ (if sent then [serverProof] else []) = p'.pool := by
  cases sent
  · obtain ⟨rfl, -⟩ := add_eq_some_false_iff.mp h
    simp
  · unfold add at h
    split at h
    · cases h
      exact ⟨rfl, rfl⟩
    · split at h <;> cases h

theorem get_conservation {p p' : ProversPool Client} {ctxDone pickDone : Bool}
    {r : Except Failure Client} (h : p.get ctxDone pickDone = some (p', r)) :
    p'.capacity = p.capacity ∧ p.pool = r.toOption.toList ++ p'.pool := by
  rcases p with ⟨_ | ⟨serverProof, rest⟩, capacity, hle⟩ <;> simp only [get] at h <;> split at h <;>
    cases h <;> exact ⟨rfl, rfl⟩

/-- A call moves provers through the channel first in, first out, and keeps its capacity. -/
theorem call_conservation {p p' : ProversPool Client} {c : Call Client} {t : Transfer Client}
    (h : p.call c = some (p', t)) :
    p'.capacity = p.capacity ∧ p.pool ++ t.sent = t.received ++ p'.pool := by
  cases c with
  | add serverProof ctxDone pickDone =>
    obtain ⟨⟨p₁, sent⟩, hadd, heq⟩ := Option.map_eq_some'.mp h
    cases heq
    simpa using add_conservation hadd
  | get ctxDone pickDone =>
    obtain ⟨⟨p₁, r⟩, hget, heq⟩ := Option.map_eq_some'.mp h
    cases heq
    simpa using get_conservation hget
  | handOver serverProof =>
    simp only [call] at h
    split at h
    · cases h
      simp_all
    · cases h

/-- Over every run, the provers received followed by those left in the channel are what the
channel held and the provers sent, in order; the capacity never changes. -/
theorem run_conservation {p p' : ProversPool Client} {cs : List (Call Client)}
    {t : Transfer Client} (h : p.run cs = some (p', t)) :
    p'.capacity = p.capacity ∧ p.pool ++ t.sent = t.received ++ p'.pool := by
  induction cs generalizing p t with
  | nil =>
    cases h
    simp
  | cons c cs ih =>
    simp only [run, Option.bind_eq_bind, Option.bind_eq_some] at h
    obtain ⟨⟨p₁, t₁⟩, hc, ⟨p₂, t₂⟩, hr, heq⟩ := h
    cases heq
    obtain ⟨hcap₁, hpool₁⟩ := call_conservation hc
    obtain ⟨hcap₂, hpool₂⟩ := ih hr
    dsimp only at hcap₂ hpool₂ ⊢
    refine ⟨hcap₂.trans hcap₁, ?_⟩
    calc p.pool ++ (t₁.sent ++ t₂.sent) = t₁.received ++ (p₁.pool ++ t₂.sent) := by
          rw [← List.append_assoc, hpool₁, List.append_assoc]
      _ = (t₁.received ++ t₂.received) ++ p₂.pool := by rw [hpool₂, List.append_assoc]

end ProversPool

/-- From `NewProversPool(maxServerProofs)`, over every interleaving of `Add` and `Get` calls
that complete, `Get` has returned a prefix of the provers `Add` sent, in the order they were
sent, and the rest are in the channel, which holds at most `maxServerProofs`. -/
theorem newProversPool_fifo {maxServerProofs : Int} {p p' : ProversPool Client}
    (cs : List (ProversPool.Call Client)) {t : ProversPool.Transfer Client}
    (hnew : newProversPool maxServerProofs = .ok p) (hrun : p.run cs = some (p', t)) :
    t.received ++ p'.pool = t.sent ∧ p'.pool.length ≤ maxServerProofs.toNat := by
  unfold newProversPool at hnew
  split at hnew
  · cases hnew
  · cases hnew
    obtain ⟨hcap, hpool⟩ := ProversPool.run_conservation hrun
    exact ⟨by simpa using hpool.symm, p'.pool_le.trans_eq hcap⟩

theorem newProversPool_fifo_handOver :
    let cs : List (ProversPool.Call Nat) :=
      [.handOver 8, .add 7 false false, .get true false, .add 9 true true, .add 10 true false]
    ∃ p p' t, newProversPool 2 = .ok p ∧ p.run cs = some (p', t) ∧
      t.received ++ p'.pool = t.sent ∧ p'.pool.length ≤ (2 : Int).toNat := by
  intro cs
  exact ⟨_, _, _, rfl, rfl, newProversPool_fifo cs rfl rfl⟩

end Pool

end HermezNode
