import Mathlib.Data.Finset.Insert
import Zecurity.Runs

/-!
The durable outbox (`controller/internal/outbox/store.go`, `processor.go`, `recover.go`): workers
that claim batches and dispatch their events one after another, reapers that end expired leases, and
operators who recover events whose retries are used up.

Statements are taken row by row: a batch is claimed event by event, and what the scan of a reaper
has found may be reaped at any later time. `recovered` and `reaped` are no columns; they record that
an event was recovered since its last failure, and the leases that reapers have ended.
-/

namespace Zecurity.OutboxLeases

open Function List Option Runs

abbrev EventId := ℕ

abbrev LeaseId := ℕ

abbrev WorkerId := ℕ

/-! ### Rows -/

inductive Status
  | pending
  | processing
  | done
  | failed
  deriving DecidableEq

/-- The retry policy and the lock window; `delay` is the backoff with its jitter. -/
structure Config where
  maxRetries : ℕ
  lockWindow : ℕ
  delay : ℕ → ℕ
  one_le_maxRetries : 1 ≤ maxRetries

structure Row where
  status : Status
  retryCount : ℕ
  nextAttemptAt : Option ℕ
  leaseId : Option LeaseId
  claimedAt : Option ℕ
  recovered : Bool
  deriving DecidableEq

variable (cfg : Config)

def Config.nextAttemptAt (now retryCount : ℕ) : Option ℕ :=
  if cfg.maxRetries ≤ retryCount then none else some (now + cfg.delay retryCount)

namespace Row

variable (row : Row)

def enqueued (now : ℕ) : Row := ⟨.pending, 0, some now, none, none, false⟩

/-- The condition of `ClaimEvents`. -/
def claimable (now : ℕ) : Bool :=
  (decide (row.status = .pending) ||
    decide (row.status = .failed) && decide (row.retryCount < cfg.maxRetries)) &&
  row.nextAttemptAt.any fun t => decide (t ≤ now)

def claim (lease : LeaseId) (now : ℕ) : Row :=
  { row with status := .processing, leaseId := some lease, claimedAt := some now }

/-- `lease_id = $2 AND status = 'processing'` -/
def leased (lease : LeaseId) : Bool :=
  decide (row.leaseId = some lease) && decide (row.status = .processing)

/-- The condition of the scan of `ReapAbandoned`. -/
def expired (now : ℕ) : Bool :=
  decide (row.status = .processing) &&
    row.claimedAt.any fun t => decide (t + cfg.lockWindow ≤ now)

def markDone : Row := { row with status := .done, leaseId := none, claimedAt := none }

/-- `MarkFailed`, and `ReapAbandoned` -/
def markFailed (nextAttemptAt : Option ℕ) : Row :=
  ⟨.failed, row.retryCount + 1, nextAttemptAt, none, none, false⟩

def markFailedTerminal : Row := ⟨.failed, cfg.maxRetries, none, none, none, false⟩

/-- `Recover`, where it succeeds. -/
def recover (resetRetryBudget : Bool) (now : ℕ) : Option Row :=
  if row.status = .failed ∧ cfg.maxRetries ≤ row.retryCount then
    some ⟨.failed, if resetRetryBudget then 0 else row.retryCount, some now, none, none, true⟩
  else none

end Row

/-! ### The system -/

inductive Outcome
  | ok
  | failed
  | noHandler
  deriving DecidableEq

inductive Phase
  | claiming
  | dispatching
  | returned (o : Outcome)
  /-- `MarkFailed` has read the retry count -/
  | retrying (nextAttemptAt : Option ℕ)
  deriving DecidableEq

structure Worker where
  phase : Phase
  batch : List (EventId × LeaseId)
  deriving DecidableEq

structure State where
  now : ℕ
  rows : EventId → Option Row
  leases : Finset LeaseId
  workers : WorkerId → Worker
  /-- what scans have found: the event, its lease and its retry count -/
  seen : List (EventId × LeaseId × ℕ)
  reaped : List LeaseId

def start (now : ℕ) : State := ⟨now, fun _ => none, ∅, fun _ => ⟨.claiming, []⟩, [], []⟩

inductive Action
  | enqueue (id : EventId)
  | claim (w : WorkerId) (id : EventId) (lease : LeaseId)
  | process (w : WorkerId)
  | handled (w : WorkerId) (o : Outcome)
  | record (w : WorkerId) (ok : Bool)
  | crash (w : WorkerId)
  | scan (id : EventId)
  | reap (id : EventId) (lease : LeaseId) (retryCount : ℕ)
  | recover (id : EventId) (resetRetryBudget : Bool)
  | advance (d : ℕ)

namespace State

variable (s : State)

def setRow (id : EventId) (row : Row) : State :=
  { s with rows := update s.rows id (some row) }

def setWorker (w : WorkerId) (k : Worker) : State :=
  { s with workers := update s.workers w k }

/-- The row that an `UPDATE` under the lease meets. -/
def leasedRow (id : EventId) (lease : LeaseId) : Option Row :=
  (s.rows id).filter fun row => row.leased lease

def updateLeased (id : EventId) (lease : LeaseId) (f : Row → Row) : State :=
  (s.leasedRow id lease).elim s fun row => s.setRow id (f row)

def next (w : WorkerId) (rest : List (EventId × LeaseId)) : State :=
  s.setWorker w ⟨if rest = [] then .claiming else .dispatching, rest⟩

def record (w : WorkerId) (ok : Bool) : Option State :=
  match s.workers w with
  | ⟨.returned o, (id, lease) :: rest⟩ =>
    if ok then
      match o with
      | .ok => some ((s.updateLeased id lease Row.markDone).next w rest)
      | .noHandler =>
        some ((s.updateLeased id lease fun _ => Row.markFailedTerminal cfg).next w rest)
      | .failed => some ((s.leasedRow id lease).elim (s.next w rest) fun row =>
          s.setWorker w ⟨.retrying (cfg.nextAttemptAt s.now (row.retryCount + 1)),
            (id, lease) :: rest⟩)
    else some (s.next w rest)
  | ⟨.retrying nextAttemptAt, (id, lease) :: rest⟩ =>
    some ((if ok then s.updateLeased id lease fun row => row.markFailed nextAttemptAt else s).next
      w rest)
  | _ => none

def reap (id : EventId) (lease : LeaseId) (retryCount : ℕ) : State :=
  { s.updateLeased id lease fun row => row.markFailed (cfg.nextAttemptAt s.now (retryCount + 1))
    with reaped := if (s.leasedRow id lease).isSome then lease :: s.reaped else s.reaped }

end State

def step (s : State) : Action → Option State
  | .enqueue id => if s.rows id = none then some (s.setRow id (.enqueued s.now)) else none
  | .claim w id lease =>
    ((s.rows id).filter fun row => row.claimable cfg s.now).bind fun row =>
      if lease ∉ s.leases ∧ (s.workers w).phase = .claiming then
        some { (s.setRow id (row.claim lease s.now)).setWorker w
            ⟨.claiming, (s.workers w).batch ++ [(id, lease)]⟩ with
          leases := insert lease s.leases }
      else none
  | .process w =>
    if (s.workers w).phase = .claiming ∧ (s.workers w).batch ≠ [] then
      some (s.setWorker w { s.workers w with phase := .dispatching })
    else none
  | .handled w o =>
    if (s.workers w).phase = .dispatching then
      some (s.setWorker w { s.workers w with phase := .returned o })
    else none
  | .record w ok => s.record cfg w ok
  | .crash w => some (s.setWorker w ⟨.claiming, []⟩)
  | .scan id =>
    (((s.rows id).filter fun row => row.expired cfg s.now).bind fun row =>
      row.leaseId.map fun lease => { s with seen := (id, lease, row.retryCount) :: s.seen })
  | .reap id lease retryCount =>
    if (id, lease, retryCount) ∈ s.seen then some (s.reap cfg id lease retryCount) else none
  | .recover id resetRetryBudget =>
    ((s.rows id).bind fun row => row.recover cfg resetRetryBudget s.now).map (s.setRow id)
  | .advance d => some { s with now := s.now + d }

/-! ### The invariant -/

/-- A row that may be claimed again has a time for it, and one that is processed has a lease. -/
structure Row.Ok (row : Row) : Prop where
  waits : row.status = .pending ∨ row.status = .failed ∧ row.retryCount < cfg.maxRetries →
    row.nextAttemptAt.isSome
  held : row.status = .processing → row.leaseId.isSome ∧ row.claimedAt.isSome

structure Inv (s : State) : Prop where
  ok : ∀ id row, s.rows id = some row → row.Ok cfg
  lease : ∀ id row l, s.rows id = some row → row.leased l = true → l ∈ s.leases
  seen : ∀ id l n, (id, l, n) ∈ s.seen → l ∈ s.leases ∧
    ∀ row, s.rows id = some row → row.leased l = true → row.retryCount = n
  /-- a worker holds the current lease, unless it was reaped -/
  work : ∀ w id l, (id, l) ∈ (s.workers w).batch → l ∈ s.leases ∧
    (l ∈ s.reaped ∨ ∃ row, s.rows id = some row ∧ row.leased l = true)
  retrying : ∀ w next id l rest, s.workers w = ⟨.retrying next, (id, l) :: rest⟩ →
    ∀ row, s.rows id = some row → row.leased l = true →
      row.retryCount + 1 < cfg.maxRetries → next.isSome
  once : ∀ w w' id id' l, (id, l) ∈ (s.workers w).batch → (id', l) ∈ (s.workers w').batch → w = w'
  nodup : ∀ w, ((s.workers w).batch.map Prod.snd).Nodup

variable {w : WorkerId} {rest : List (EventId × LeaseId)} {now : ℕ}

lemma inv_start (now : ℕ) : Inv cfg (start now) := by
  constructor <;> simp [start]

variable {cfg} {s s' : State} {a : Action} {id : EventId} {row : Row} {lease : LeaseId}

lemma leased_iff :
    row.leased lease = true ↔ row.leaseId = some lease ∧ row.status = .processing := by
  simp [Row.leased]

lemma leasedRow_eq_some : s.leasedRow id lease = some row ↔
    s.rows id = some row ∧ row.leased lease = true := by
  simp [State.leasedRow, filter_eq_some_iff]

lemma Inv.setWorker (h : Inv cfg s) {k : Worker} (hs : k.batch.Sublist (s.workers w).batch)
    (hr : ∀ next i l rest, k = ⟨.retrying next, (i, l) :: rest⟩ → ∀ r, s.rows i = some r →
      r.leased l = true → r.retryCount + 1 < cfg.maxRetries → next.isSome) :
    Inv cfg (s.setWorker w k) := by
  have hp : ∀ w', ((s.setWorker w k).workers w').batch.Sublist (s.workers w').batch :=
    (forall_update_iff s.workers fun w' k' => k'.batch.Sublist (s.workers w').batch).2
      ⟨hs, fun _ _ => .refl _⟩
  refine { h with work := ?_, retrying := ?_, once := ?_, nodup := ?_ }
  · exact fun w' i l hl => h.work w' i l ((hp w').subset hl)
  · intro w' next i l rest hk
    rcases update_apply_eq_iff.1 hk with ⟨-, hk⟩ | ⟨-, hk⟩
    · exact hr next i l rest hk.symm
    · exact h.retrying w' next i l rest hk
  · exact fun w1 w2 i j l h1 h2 =>
      h.once w1 w2 i j l ((hp w1).subset h1) ((hp w2).subset h2)
  · exact fun w' => (h.nodup w').sublist ((hp w').map Prod.snd)

lemma Inv.next (h : Inv cfg s) {e} (hb : (s.workers w).batch = e :: rest) :
    Inv cfg (s.next w rest) := by
  refine h.setWorker (hb ▸ sublist_cons_self e rest) ?_
  intro next i l rest' hk
  split at hk <;> simp at hk

variable {new : Row} {n : ℕ}

lemma Inv.setRow (h : Inv cfg s) (hok : new.Ok cfg) (hn : new.leaseId = none)
    (hf : ∀ r l, s.rows id = some r → r.leased l = true →
      ∀ w i, (i, l) ∈ (s.workers w).batch → l ∈ s.reaped) :
    Inv cfg (s.setRow id new) := by
  have hold : ∀ i r l, (s.setRow id new).rows i = some r → r.leased l = true →
      s.rows i = some r := by
    intro i r l hr hl
    rcases update_apply_eq_iff.1 hr with ⟨-, ⟨⟩⟩ | ⟨-, hr⟩
    · simp [leased_iff, hn] at hl
    · exact hr
  refine { h with ok := ?_, lease := ?_, seen := ?_, work := ?_, retrying := ?_ }
  · intro i r hr
    rcases update_apply_eq_iff.1 hr with ⟨-, ⟨⟩⟩ | ⟨-, hr⟩
    · exact hok
    · exact h.ok i r hr
  · exact fun i r l hr hl => h.lease i r l (hold i r l hr hl) hl
  · exact fun i l n hs => ⟨(h.seen i l n hs).1, fun r hr hl =>
      (h.seen i l n hs).2 r (hold i r l hr hl) hl⟩
  · intro w i l hl
    obtain ⟨hkn, hrp | ⟨r, hr, hls⟩⟩ := h.work w i l hl
    · exact ⟨hkn, .inl hrp⟩
    · refine ⟨hkn, ?_⟩
      by_cases hi : i = id
      · subst hi
        exact .inl (hf r l hr hls w i hl)
      · exact .inr ⟨r, (update_of_ne hi _ _).trans hr, hls⟩
  · exact fun w next i l rest hk r hr hl => h.retrying w next i l rest hk r (hold i r l hr hl) hl

lemma leased_eq_false_of_claimable (h : row.claimable cfg now = true) (l : LeaseId) :
    row.leased l = false := by
  cases hs : row.status <;> simp_all [Row.claimable, Row.leased]

lemma Inv.claim (h : Inv cfg s) (hrow : s.rows id = some row)
    (hc : row.claimable cfg s.now = true) (hn : lease ∉ s.leases)
    (hw : (s.workers w).phase = .claiming) :
    Inv cfg { (s.setRow id (row.claim lease s.now)).setWorker w
        ⟨.claiming, (s.workers w).batch ++ [(id, lease)]⟩ with
      leases := insert lease s.leases } := by
  have hm : ∀ w' i l, (i, l) ∈ (update s.workers w
      ⟨.claiming, (s.workers w).batch ++ [(id, lease)]⟩ w').batch →
      (i, l) ∈ (s.workers w').batch ∨ w' = w ∧ i = id ∧ l = lease := by
    grind
  -- a lease that was there before is one of the other rows
  have hold : ∀ i r l, l ∈ s.leases →
      update s.rows id (some (row.claim lease s.now)) i = some r → r.leased l = true →
      s.rows i = some r := by
    intro i r l hl hr hls
    rcases update_apply_eq_iff.1 hr with ⟨-, ⟨⟩⟩ | ⟨-, hr⟩
    · obtain rfl : lease = l := by simpa [leased_iff, Row.claim] using hls
      exact absurd hl hn
    · exact hr
  have ho : ∀ w' i, (i, lease) ∉ (s.workers w').batch := fun w' i hl =>
    hn (h.work w' i lease hl).1
  refine ⟨?_, ?_, ?_, ?_, ?_, ?_, ?_⟩
  · intro i r hr
    rcases update_apply_eq_iff.1 hr with ⟨-, ⟨⟩⟩ | ⟨-, hr⟩
    · exact ⟨by simp [Row.claim], by simp [Row.claim]⟩
    · exact h.ok i r hr
  · intro i r l hr hl
    rcases update_apply_eq_iff.1 hr with ⟨-, ⟨⟩⟩ | ⟨-, hr⟩
    · obtain rfl : lease = l := by simpa [leased_iff, Row.claim] using hl
      exact Finset.mem_insert_self ..
    · exact Finset.mem_insert_of_mem (h.lease i r l hr hl)
  · intro i l n hs
    obtain ⟨hl, hcn⟩ := h.seen i l n hs
    exact ⟨Finset.mem_insert_of_mem hl, fun r hr hls =>
      hcn r (hold i r l hl hr hls) hls⟩
  · intro w' i l hl
    rcases hm w' i l hl with hl | ⟨-, rfl, rfl⟩
    · obtain ⟨hkn, hrp | ⟨r, hr, hls⟩⟩ := h.work w' i l hl
      · exact ⟨Finset.mem_insert_of_mem hkn, .inl hrp⟩
      · refine ⟨Finset.mem_insert_of_mem hkn, .inr ⟨r, ?_, hls⟩⟩
        refine (update_of_ne ?_ _ _).trans hr
        rintro rfl
        cases hrow.symm.trans hr
        rw [leased_eq_false_of_claimable hc] at hls
        cases hls
    · exact ⟨by simp, .inr ⟨row.claim l s.now, update_self .., by simp [leased_iff, Row.claim]⟩⟩
  · intro w' next i l rest hk r hr hl
    rcases update_apply_eq_iff.1 hk with ⟨-, ⟨⟩⟩ | ⟨-, hk⟩
    have hk' : s.workers w' = ⟨.retrying next, (i, l) :: rest⟩ := hk
    have hkn := (h.work w' i l (by simp [hk'])).1
    exact h.retrying w' next i l rest hk' r (hold i r l hkn hr hl) hl
  · intro w1 w2 i j l h1 h2
    rcases hm w1 i l h1 with h1 | ⟨hw1, -, hl1⟩ <;>
      rcases hm w2 j l h2 with h2 | ⟨hw2, -, hl2⟩
    · exact h.once w1 w2 i j l h1 h2
    · exact absurd (hl2 ▸ h1) (ho w1 i)
    · exact absurd (hl1 ▸ h2) (ho w2 j)
    · rw [hw1, hw2]
  · intro w'
    by_cases hw' : w' = w
    · subst hw'
      simp only [State.setRow, State.setWorker, update_self, map_append, map_cons, map_nil]
      rw [← concat_eq_append]
      exact List.Nodup.concat (by simpa using ho w') (h.nodup w')
    · simpa [State.setRow, State.setWorker, hw'] using h.nodup w'

/-! ### Steps -/

lemma recover_eq_some {reset row'} (h : row.recover cfg reset now = some row') :
    row.status = .failed ∧ cfg.maxRetries ≤ row.retryCount ∧
      row' = ⟨.failed, if reset then 0 else row.retryCount, some now, none, none, true⟩ := by
  obtain ⟨⟨hs, hc⟩, rfl⟩ := ite_some_none_eq_some.1 h
  exact ⟨hs, hc, rfl⟩

variable (cfg) in
/-- What a step does to the row of an event. -/
inductive RowStep (s : State) (a : Action) (id : EventId) : Option Row → Option Row → Prop
  | same (r : Option Row) : RowStep s a id r r
  | enqueued : RowStep s a id none (some (.enqueued s.now))
  | claimed {row : Row} (lease : LeaseId) (h : row.claimable cfg s.now = true) :
    RowStep s a id (some row) (some (row.claim lease s.now))
  | done {row : Row} (lease : LeaseId) (hl : row.leased lease = true) :
    RowStep s a id (some row) (some row.markDone)
  | terminal {row : Row} (lease : LeaseId) (hl : row.leased lease = true)
    (ha : ∃ w rest, a = .record w true ∧
      s.workers w = ⟨.returned .noHandler, (id, lease) :: rest⟩) :
    RowStep s a id (some row) (some (Row.markFailedTerminal cfg))
  | failed {row : Row} (lease : LeaseId) (next : Option ℕ) (hl : row.leased lease = true)
    (ha : (∃ w rest, a = .record w true ∧ s.workers w = ⟨.retrying next, (id, lease) :: rest⟩) ∨
      ∃ n, a = .reap id lease n) :
    RowStep s a id (some row) (some (row.markFailed next))
  | recovered {row row' : Row} (reset : Bool) (ha : a = .recover id reset)
    (h : row.recover cfg reset s.now = some row') : RowStep s a id (some row) (some row')

variable (cfg) in
structure Good (s : State) (a : Action) (s' : State) : Prop where
  inv : Inv cfg s'
  rows : ∀ i, RowStep cfg s a i (s.rows i) (s'.rows i)

lemma RowStep.setRow (h : RowStep cfg s a id (s.rows id) (some new)) (i : EventId) :
    RowStep cfg s a i (s.rows i) ((s.setRow id new).rows i) := by
  by_cases hi : i = id
  · subst hi
    simpa [State.setRow] using h
  · simpa [State.setRow, hi] using RowStep.same _

lemma Good.outcome (h : Inv cfg s) (hb : (s.workers w).batch = (id, lease) :: rest)
    {f : Row → Row} (hf : ∀ r, s.rows id = some r → r.leased lease = true →
      (f r).Ok cfg ∧ (f r).leaseId = none ∧ RowStep cfg s a id (some r) (some (f r))) :
    Good cfg s a ((s.updateLeased id lease f).next w rest) := by
  unfold State.updateLeased
  cases hls : s.leasedRow id lease with
  | none => exact ⟨h.next hb, fun _ => .same _⟩
  | some r =>
    obtain ⟨hr, hl⟩ := leasedRow_eq_some.1 hls
    obtain ⟨hok, hnn, hs⟩ := hf r hr hl
    refine ⟨(h.next hb).setRow hok hnn fun r' l hr' hl' w' i hm => ?_, .setRow (hr ▸ hs)⟩
    -- the lease was that of the event which is done with
    obtain rfl : r = r' := by simpa [State.next, State.setWorker, hr] using hr'
    obtain rfl : lease = l := by simp_all [leased_iff]
    have hn := h.nodup w
    rw [hb, map_cons, nodup_cons] at hn
    by_cases hw : w' = w
    · subst hw
      have hrs : (i, lease) ∈ rest := by simpa [State.next, State.setWorker] using hm
      exact absurd (List.mem_map_of_mem hrs) hn.1
    · have hm' : (i, lease) ∈ (s.workers w').batch := by
        simpa [State.next, State.setWorker, hw] using hm
      exact absurd (h.once w' w i id lease hm' (by simp [hb])) hw

lemma ok_markFailed {next} (h : row.retryCount + 1 < cfg.maxRetries → next.isSome) :
    (row.markFailed next).Ok cfg := by
  constructor <;> simp_all [Row.markFailed]

lemma isSome_nextAttemptAt (h : n < cfg.maxRetries) : (cfg.nextAttemptAt now n).isSome := by
  simp [Config.nextAttemptAt, Nat.not_le.2 h]

lemma good_record (h : Inv cfg s) {ok} (hs : s.record cfg w ok = some s') :
    Good cfg s (.record w ok) s' := by
  unfold State.record at hs
  split at hs
  · next o i l rest hk =>
    have hb : (s.workers w).batch = (i, l) :: rest := by rw [hk]
    cases ok with
    | false =>
      cases hs
      exact ⟨h.next hb, fun _ => .same _⟩
    | true =>
      cases o with
      | ok =>
        cases hs
        exact .outcome h hb fun r _ hl =>
          ⟨⟨by simp [Row.markDone], by simp [Row.markDone]⟩, rfl, .done l hl⟩
      | noHandler =>
        cases hs
        refine .outcome h hb fun r _ hl =>
          ⟨⟨?_, ?_⟩, rfl, .terminal l hl ⟨w, rest, rfl, hk⟩⟩ <;> simp [Row.markFailedTerminal]
      | failed =>
        cases hs
        cases hls : s.leasedRow i l with
        | none => exact ⟨h.next hb, fun _ => .same _⟩
        | some r =>
          refine ⟨h.setWorker (by simp [hb]) ?_, fun _ => .same _⟩
          rintro next i' l' rest' ⟨⟩ r' hr' - hlt
          obtain rfl : r = r' := by simpa [(leasedRow_eq_some.1 hls).1] using hr'
          exact isSome_nextAttemptAt hlt
  · next next i l rest hk =>
    have hb : (s.workers w).batch = (i, l) :: rest := by rw [hk]
    cases ok <;> cases hs
    · exact ⟨h.next hb, fun _ => .same _⟩
    · exact .outcome h hb fun r hr hl =>
        ⟨ok_markFailed (h.retrying w next i l rest hk r hr hl), rfl,
          .failed l next hl (.inl ⟨w, rest, rfl, hk⟩)⟩
  · cases hs

lemma good_reap (h : Inv cfg s) (hs : (id, lease, n) ∈ s.seen) :
    Good cfg s (.reap id lease n) (s.reap cfg id lease n) := by
  unfold State.reap State.updateLeased
  cases hls : s.leasedRow id lease with
  | none => exact ⟨{ h with }, fun _ => .same _⟩
  | some r =>
    obtain ⟨hr, hl⟩ := leasedRow_eq_some.1 hls
    have hrp : Inv cfg { s with reaped := lease :: s.reaped } :=
      { h with work := fun w i l hm => ⟨(h.work w i l hm).1,
          (h.work w i l hm).2.imp_left (mem_cons_of_mem lease)⟩ }
    obtain rfl := (h.seen id lease n hs).2 r hr hl
    refine ⟨hrp.setRow (ok_markFailed isSome_nextAttemptAt) rfl fun r' l hr' hl' w i _ => ?_,
      .setRow (hr ▸ .failed lease _ hl (.inr ⟨_, rfl⟩))⟩
    obtain rfl : r = r' := by simpa [hr] using hr'
    obtain rfl : lease = l := by simp_all [leased_iff]
    exact mem_cons_self

lemma good_step (h : Inv cfg s) (hs : step cfg s a = some s') : Good cfg s a s' := by
  cases a with
  | enqueue i =>
    obtain ⟨hn, rfl⟩ := ite_some_none_eq_some.1 hs
    refine ⟨h.setRow ⟨?_, ?_⟩ rfl ?_, .setRow (hn ▸ .enqueued)⟩ <;> simp [Row.enqueued, hn]
  | claim w i l =>
    obtain ⟨r, hr, hs⟩ := bind_eq_some_iff.1 hs
    obtain ⟨hr, hc⟩ := filter_eq_some_iff.1 hr
    obtain ⟨⟨hnew, hw⟩, rfl⟩ := ite_some_none_eq_some.1 hs
    exact ⟨h.claim hr hc hnew hw, .setRow (hr ▸ .claimed l hc)⟩
  | process w | handled w o =>
    obtain ⟨-, rfl⟩ := ite_some_none_eq_some.1 hs
    exact ⟨h.setWorker (by simp) (by simp), fun _ => .same _⟩
  | record w ok => exact good_record h hs
  | crash w =>
    cases hs
    exact ⟨h.setWorker (by simp) (by simp), fun _ => .same _⟩
  | scan i =>
    obtain ⟨r, hr, hs⟩ := bind_eq_some_iff.1 hs
    obtain ⟨hr, he⟩ := filter_eq_some_iff.1 hr
    obtain ⟨l, hl, rfl⟩ := map_eq_some_iff.1 hs
    have hls : r.leased l = true := by simp_all [leased_iff, Row.expired]
    refine ⟨{ h with seen := fun i' l' n hm => ?_ }, fun _ => .same _⟩
    rcases mem_cons.1 hm with heq | hm
    · cases heq
      exact ⟨h.lease i r l hr hls, fun r' hr' _ => by simp_all⟩
    · exact h.seen i' l' n hm
  | reap i l n =>
    obtain ⟨hsn, rfl⟩ := ite_some_none_eq_some.1 hs
    exact good_reap h hsn
  | recover i reset =>
    obtain ⟨r', hr', rfl⟩ := map_eq_some_iff.1 hs
    obtain ⟨r, hr, hrec⟩ := bind_eq_some_iff.1 hr'
    refine ⟨?_, .setRow (hr ▸ .recovered reset rfl hrec)⟩
    obtain ⟨hst, -, rfl⟩ := recover_eq_some hrec
    refine h.setRow ⟨by simp, by simp⟩ rfl fun r' l hr' hl => ?_
    obtain rfl : r = r' := by simpa [hr] using hr'
    simp [leased_iff, hst] at hl
  | advance d =>
    cases hs
    exact ⟨{ h with }, fun _ => .same _⟩

/-! ### Leases -/

namespace Row

variable (cfg) (row : Row)

/-- The event has a lease which a reaper finds from a time on. -/
def Held : Prop :=
  ∃ lease t, row.leased lease = true ∧ row.claimedAt = some t ∧
    ∀ now, t + cfg.lockWindow ≤ now → row.expired cfg now = true

end Row

/-- Operators reset the retry budget of the events that they recover. -/
def ResetsBudget (_ : State) : Action → Prop
  | .recover _ reset => reset = true
  | _ => True

instance (s : State) : DecidablePred (ResetsBudget s) := fun a => by
  cases a <;> unfold ResetsBudget <;> infer_instance

variable (cfg) in
/-- A recovered event has retries left. -/
def Budgeted (s : State) : Prop :=
  ∀ id row, s.rows id = some row → row.status = .failed → row.recovered = true →
    row.retryCount < cfg.maxRetries

lemma Budgeted.step (h : Budgeted cfg s) (hr : ResetsBudget s a) (hg : Good cfg s a s') :
    Budgeted cfg s' := by
  intro id row hrow hf hrec
  have hs := hg.rows id
  rw [hrow] at hs
  generalize hold : s.rows id = old at hs
  cases hs with
  | same => exact h id row hold hf hrec
  | enqueued | claimed | done | terminal | failed => cases hf <;> cases hrec
  | recovered reset ha hrow =>
    obtain ⟨-, -, rfl⟩ := recover_eq_some hrow
    subst ha
    obtain rfl : reset = true := hr
    exact cfg.one_le_maxRetries

end Zecurity.OutboxLeases
