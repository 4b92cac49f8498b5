import HermezNode.Go.Bytes

namespace HermezNode

/-! The reads of the API under the connection controller `apiConnCon` (historydb.go); the
controller is modelled from the spec as a counting semaphore. -/

/-- Modelled from the spec: the error of an `Acquire` whose context's deadline passed,
`context.DeadlineExceeded`. -/
def errDeadlineExceeded : Failure := .error "context deadline exceeded"

/-- Where one read stands. -/
inductive ReadPc where
  | acquiring
  | querying
  | returned (err : Option Failure)
  deriving DecidableEq, Repr

/-- Modelled from the spec: `db.APIConnectionController`, a counting semaphore of `maxConns`
permits of which `inUse` are taken. -/
structure APIConnectionController where
  maxConns : Nat
  inUse : Nat
  inUse_le : inUse ≤ maxConns
  deriving DecidableEq, Repr

/-- The controller and the reads that have started, in the order they started. -/
structure APIReads where
  controller : APIConnectionController
  reads : List ReadPc
  deriving DecidableEq, Repr

/-- One step of one read. -/
inductive ReadEvent where
  | start
  | acquire (i : Nat)
  | timeout (i : Nat)
  | finish (i : Nat) (err : Option Failure)
  deriving DecidableEq, Repr

namespace APIReads

/-- The controller of `maxConns` permits before any read. -/
def init (maxConns : Nat) : APIReads := ⟨⟨maxConns, 0, Nat.zero_le _⟩, []⟩

/-- The reads after one event; `none` when the event cannot happen. -/
def step (s : APIReads) : ReadEvent → Option APIReads
  | .start => some ⟨s.controller, s.reads ++ [.acquiring]⟩
  | .acquire i =>
    if h : s.reads[i]? = some .acquiring ∧ s.controller.inUse < s.controller.maxConns then
      some ⟨⟨s.controller.maxConns, s.controller.inUse + 1, h.2⟩, s.reads.set i .querying⟩
    else none
  | .timeout i =>
    if s.reads[i]? = some .acquiring ∧ s.controller.inUse = s.controller.maxConns then
      some ⟨s.controller, s.reads.set i (.returned (some errDeadlineExceeded))⟩
    else none
  | .finish i err =>
    if s.reads[i]? = some .querying then
      some ⟨⟨s.controller.maxConns, s.controller.inUse - 1,
        (Nat.sub_le _ _).trans s.controller.inUse_le⟩, s.reads.set i (.returned err)⟩
    else none

/-- The reads after the events, in order; `none` when one of them cannot happen. -/
def run (s : APIReads) : List ReadEvent → Option APIReads
  | [] => some s
  | e :: es => (s.step e).bind fun s' => s'.run es

/-- The permits taken are those of the reads holding one, and the controller keeps its size. -/
def PermitsHeld (maxConns : Nat) (s : APIReads) : Prop :=
  s.controller.maxConns = maxConns ∧ s.controller.inUse = s.reads.count .querying

theorem permitsHeld_init (maxConns : Nat) : (init maxConns).PermitsHeld maxConns :=
  ⟨rfl, rfl⟩

/-- Setting read `i` from `old` to `new` changes the number of reads holding a permit as
`old` and `new` say. -/
theorem count_querying_set {reads : List ReadPc} {i : Nat} {old : ReadPc}
    (h : reads[i]? = some old) (new : ReadPc) :
    (reads.set i new).count .querying + (if old = .querying then 1 else 0) =
      reads.count .querying + (if new = .querying then 1 else 0) := by
  obtain ⟨hi, hold⟩ := List.getElem?_eq_some_iff.mp h
  have hle := List.count_pos_iff.mpr (List.getElem_mem hi)
  rw [List.count_set _ _ _ _ hi, hold]
  simp only [beq_iff_eq]
  split <;> split <;> simp_all

variable {maxConns : Nat} {s s' : APIReads} {e : ReadEvent}

theorem PermitsHeld.step (hinv : s.PermitsHeld maxConns) (h : s.step e = some s') :
    s'.PermitsHeld maxConns := by
  obtain ⟨hmax, hheld⟩ := hinv
  cases e with
  | start =>
    cases h
    exact ⟨hmax, by simp [hheld]⟩
  | acquire i =>
    simp only [APIReads.step] at h
    split at h
    · rename_i hguard
      cases h
      have hcount := count_querying_set hguard.1 .querying
      exact ⟨hmax, by simp only [if_true, reduceCtorEq, if_false] at hcount; dsimp only; omega⟩
    · cases h
  | timeout i =>
    simp only [APIReads.step] at h
    split at h
    · rename_i hguard
      cases h
      have hcount := count_querying_set hguard.1 (.returned (some errDeadlineExceeded))
      exact ⟨hmax, by simp only [reduceCtorEq, if_false] at hcount; dsimp only; omega⟩
    · cases h
  | finish i err =>
    simp only [APIReads.step] at h
    split at h
    · rename_i hguard
      cases h
      have hcount := count_querying_set hguard (.returned err)
      exact ⟨hmax, by simp only [if_true, reduceCtorEq, if_false] at hcount; dsimp only; omega⟩
    · cases h

theorem PermitsHeld.run (hinv : s.PermitsHeld maxConns) {events : List ReadEvent}
    (h : s.run events = some s') : s'.PermitsHeld maxConns := by
  induction events generalizing s with
  | nil =>
    cases h
    exact hinv
  | cons e events ih =>
    obtain ⟨s₁, hstep, hrest⟩ := Option.bind_eq_some.mp h
    exact ih (hinv.step hstep) hrest

end APIReads

/-- Over every interleaving of reads under a controller of `maxConns` permits, the permits
taken are exactly those of the reads holding one, at most `maxConns` reads run their query at
once, and once every read has returned no permit is left taken. -/
theorem apiReads_run_permits (maxConns : Nat) (events : List ReadEvent) {s : APIReads}
    (h : (APIReads.init maxConns).run events = some s) :
    s.controller.inUse = s.reads.count .querying ∧ s.reads.count .querying ≤ maxConns ∧
      ((∀ r ∈ s.reads, ∃ err, r = .returned err) → s.controller.inUse = 0) := by
  obtain ⟨hmax, hheld⟩ := (APIReads.permitsHeld_init maxConns).run h
  refine ⟨hheld, hheld ▸ hmax ▸ s.controller.inUse_le, fun hdone => ?_⟩
  rw [hheld, List.count_eq_zero]
  intro hq
  obtain ⟨err, herr⟩ := hdone _ hq
  cases herr

theorem apiReads_run_permits_timeout :
    let events := [ReadEvent.start, .start, .acquire 0, .timeout 1, .finish 0 none]
    ∃ s, (APIReads.init 1).run events = some s ∧
      (s.controller.inUse = s.reads.count .querying ∧ s.reads.count .querying ≤ 1 ∧
        ((∀ r ∈ s.reads, ∃ err, r = .returned err) → s.controller.inUse = 0)) := by
  intro events
  exact ⟨_, rfl, apiReads_run_permits 1 events rfl⟩

end HermezNode
