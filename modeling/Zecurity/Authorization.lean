import Mathlib.Data.List.Basic
import Mathlib.Order.Lattice

/-!
The connector's authorization bookkeeping and serving-state machine
(`connector/src/authorization.rs`, `AckTracker`).

Instants are readings of the monotonic clock in nanoseconds, durations nanoseconds too;
`saturating_duration_since` is then truncated subtraction. Sequence numbers are `u64`, and
`sent` is the map from a sequence number to the instant of its send.
-/

namespace Zecurity.Authorization

abbrev Instant := ℕ
abbrev Duration := ℕ

/-- An authoritative terminal signal from the controller. -/
inductive TerminalSignal
  | revoked
  | unknownIdentity

inductive ServingState
  | starting
  | serving
  | servingDisconnected
  | disabled
  | recovering
  | revoked
  | unknownIdentity
  deriving DecidableEq

def ServingState.isOpen : ServingState → Bool
  | .serving | .servingDisconnected => true
  | _ => false

def ServingState.isTerminal : ServingState → Bool
  | .revoked | .unknownIdentity => true
  | _ => false

/-- The published `{state, D}` pair, with the number of open-to-closed transitions. -/
structure AuthzSnapshot where
  state : ServingState
  deadline : Option Instant
  closures : UInt64

/-- The admission rule: an open state and `now < D`. -/
def AuthzSnapshot.admits (s : AuthzSnapshot) (now : Instant) : Bool :=
  s.state.isOpen && s.deadline.any fun d => decide (now < d)

/-- Why an acknowledgement was not accepted. -/
inductive AckRejection
  | terminal (signal : TerminalSignal)
  | noCapability
  | zero
  | notNewer (highestAccepted : UInt64)
  | unknown
  | stale (age : Duration)
  | beforeLoss

structure AckTracker where
  freshness : Duration
  lastAssigned : UInt64
  sent : UInt64 → Option Instant
  highestAccepted : UInt64
  latestAcceptedSentAt : Option Instant
  terminal : Option TerminalSignal
  state : ServingState
  deadline : Option Instant
  lostAt : Option Instant
  closures : UInt64
  /-- the value in the `watch` channel, which the gates read -/
  publish : AuthzSnapshot

def new (freshness : Duration) : AckTracker where
  freshness := freshness
  lastAssigned := 0
  sent := fun _ => none
  highestAccepted := 0
  latestAcceptedSentAt := none
  terminal := none
  state := .starting
  deadline := none
  lostAt := none
  closures := 0
  publish := ⟨.starting, none, 0⟩

namespace AckTracker

def snapshot (t : AckTracker) : AuthzSnapshot := ⟨t.state, t.deadline, t.closures⟩

def sentAt (t : AckTracker) (seq : UInt64) : Option Instant := t.sent seq

/-- The only place the state changes: leaving the open states drops the deadline and counts
a closure, and the new `{state, D}` is published. -/
def transition (t : AckTracker) (target : ServingState) : AckTracker :=
  let closures := if t.state.isOpen && !target.isOpen then t.closures + 1 else t.closures
  let deadline := if target.isOpen then t.deadline else none
  { t with closures, state := target, deadline, publish := ⟨target, deadline, closures⟩ }

/-- An open state with `now ≥ D` becomes `disabled`, with `lost_at = D` exactly. -/
def expire (t : AckTracker) (now : Instant) : AckTracker :=
  match t.state.isOpen, t.deadline with
  | true, some d => if d ≤ now then { t with lostAt := some d }.transition .disabled else t
  | _, _ => t

def streamUp (t : AckTracker) (now : Instant) : AckTracker :=
  let t := t.expire now
  if t.state = .disabled then t.transition .recovering else t

def streamDown (t : AckTracker) (now : Instant) : AckTracker :=
  let t := t.expire now
  match t.state with
  | .serving => t.transition .servingDisconnected
  | .recovering => { t with lostAt := some now }.transition .disabled
  | _ => t

def nextSeq (t : AckTracker) : AckTracker × UInt64 :=
  ({ t with lastAssigned := t.lastAssigned + 1 }, t.lastAssigned + 1)

/-- The seq of a renewal replacement's first report: the outstanding one, if any. -/
def seqForReplacement (t : AckTracker) : AckTracker × UInt64 :=
  if t.highestAccepted < t.lastAssigned then (t, t.lastAssigned) else t.nextSeq

/-- Insert if absent, then drop what is at least `H` old. -/
def recordSent (t : AckTracker) (seq : UInt64) (now : Instant) : AckTracker :=
  if seq = 0 then t
  else
    let inserted : UInt64 → Option Instant :=
      fun k => if k = seq then some ((t.sent k).getD now) else t.sent k
    { t with sent := fun k => (inserted k).filter fun s => decide (now < s + t.freshness) }

/-- What an accepted acknowledgement of `seq`, sent at `sentAt`, does. -/
def accept (t : AckTracker) (seq : UInt64) (sentAt : Instant) : AckTracker :=
  let d := sentAt + t.freshness
  { t with
    highestAccepted := seq
    latestAcceptedSentAt := some sentAt
    sent := fun k => (t.sent k).filter fun _ => decide (seq < k)
    deadline := some (t.deadline.elim d fun old => max old d) }.transition .serving

def onAck (t : AckTracker) (seq : UInt64) (capable : Bool) (now : Instant) :
    AckTracker × Except AckRejection Unit :=
  let t := t.expire now
  match t.terminal with
  | some s => (t, .error (.terminal s))
  | none =>
    if capable = false then (t, .error .noCapability)
    else if seq = 0 then (t, .error .zero)
    else if seq ≤ t.highestAccepted then (t, .error (.notNewer t.highestAccepted))
    else match t.sent seq with
      | none => (t, .error .unknown)
      | some sentAt =>
        if t.freshness ≤ now - sentAt then (t, .error (.stale (now - sentAt)))
        else if t.lostAt.any fun lost => decide (sentAt < lost) then (t, .error .beforeLoss)
        else (t.accept seq sentAt, .ok ())

/-- The first terminal signal wins; the result says whether this call set it. -/
def onTerminal (t : AckTracker) (signal : TerminalSignal) : AckTracker × Bool :=
  match t.terminal with
  | some _ => (t, false)
  | none =>
    let t := { t with terminal := some signal }
    match signal with
    | .revoked => (t.transition .revoked, true)
    | .unknownIdentity => (t.transition .unknownIdentity, true)

variable {t : AckTracker} {now : Instant}

@[simp] lemma expire_sent : (t.expire now).sent = t.sent := by
  unfold expire; split
  · split <;> rfl
  · rfl

@[simp] lemma expire_terminal : (t.expire now).terminal = t.terminal := by
  unfold expire; split
  · split <;> rfl
  · rfl

@[simp] lemma expire_freshness : (t.expire now).freshness = t.freshness := by
  unfold expire; split
  · split <;> rfl
  · rfl

lemma expire_cases (t : AckTracker) (now : Instant) :
    t.expire now = t ∨ ∃ d, t.state.isOpen = true ∧ t.deadline = some d ∧ d ≤ now ∧
      t.expire now = { t with lostAt := some d }.transition .disabled := by
  unfold expire
  grind

/-- An acknowledgement is refused, and only the expiry has happened; or it is accepted, and
then it is one that the rules allow. -/
lemma onAck_cases (t : AckTracker) (seq : UInt64) (cap : Bool) (now : Instant) :
    (∃ why, t.onAck seq cap now = (t.expire now, .error why)) ∨
    ∃ s, t.onAck seq cap now = ((t.expire now).accept seq s, .ok ()) ∧
      t.terminal = none ∧ cap = true ∧ t.sent seq = some s ∧ now - s < t.freshness ∧
      ∀ l, (t.expire now).lostAt = some l → l ≤ s := by
  unfold onAck
  simp only [expire_sent, expire_terminal, expire_freshness]
  rcases ht : t.terminal with _ | sig
  · by_cases hc : cap = false
    · exact .inl ⟨.noCapability, by simp [hc]⟩
    by_cases hz : seq = 0
    · exact .inl ⟨_, by simp only [hc, hz, if_true]; rfl⟩
    by_cases hn : seq ≤ (t.expire now).highestAccepted
    · exact .inl ⟨_, by simp only [hc, hz, hn, if_true, if_false]; rfl⟩
    rcases hs : t.sent seq with _ | s
    · exact .inl ⟨_, by simp only [hc, hz, hn, if_false]; rfl⟩
    by_cases ha : t.freshness ≤ now - s
    · exact .inl ⟨_, by simp only [hc, hz, hn, ha, if_true, if_false]; rfl⟩
    by_cases hls : (t.expire now).lostAt.any fun lost => decide (s < lost)
    · exact .inl ⟨_, by simp only [hc, hz, hn, ha, hls, if_true, if_false]; rfl⟩
    grind
  · exact .inl ⟨_, rfl⟩

lemma streamUp_cases (t : AckTracker) (now : Instant) :
    t.streamUp now = t.expire now ∨ ((t.expire now).state = .disabled ∧
      t.streamUp now = (t.expire now).transition .recovering) := by
  unfold streamUp
  simp only
  split
  · next h => exact .inr ⟨h, rfl⟩
  · exact .inl rfl

lemma streamDown_cases (t : AckTracker) (now : Instant) :
    t.streamDown now = t.expire now ∨ ((t.expire now).state = .serving ∧
      t.streamDown now = (t.expire now).transition .servingDisconnected) ∨
    ((t.expire now).state = .recovering ∧
      t.streamDown now = { t.expire now with lostAt := some now }.transition .disabled) := by
  unfold streamDown
  simp only
  split
  · next h => exact .inr (.inl ⟨h, rfl⟩)
  · next h => exact .inr (.inr ⟨h, rfl⟩)
  · exact .inl rfl

lemma onTerminal_cases (t : AckTracker) (signal : TerminalSignal) :
    (t.terminal.isSome ∧ (t.onTerminal signal).1 = t) ∨
    ∃ target : ServingState, target.isOpen = false ∧ target.isTerminal = true ∧
      (t.onTerminal signal).1 = { t with terminal := some signal }.transition target := by
  unfold onTerminal
  split
  · next h => exact .inl ⟨by simp [h], rfl⟩
  · cases signal with
    | revoked => exact .inr ⟨.revoked, rfl, rfl, rfl⟩
    | unknownIdentity => exact .inr ⟨.unknownIdentity, rfl, rfl, rfl⟩

lemma recordSent_eq (t : AckTracker) (seq : UInt64) (now : Instant) :
    t.recordSent seq now = { t with sent := (t.recordSent seq now).sent } := by
  unfold recordSent
  split <;> rfl

lemma seqForReplacement_eq (t : AckTracker) :
    t.seqForReplacement.1 = { t with lastAssigned := t.seqForReplacement.1.lastAssigned } := by
  unfold seqForReplacement nextSeq
  split <;> rfl

end AckTracker

/-- One call on the tracker. -/
inductive Op
  | nextSeq
  | seqForReplacement
  | recordSent (seq : UInt64) (now : Instant)
  | onAck (seq : UInt64) (capable : Bool) (now : Instant)
  | streamUp (now : Instant)
  | streamDown (now : Instant)
  | expire (now : Instant)
  | onTerminal (signal : TerminalSignal)

def step (t : AckTracker) : Op → AckTracker
  | .nextSeq => t.nextSeq.1
  | .seqForReplacement => t.seqForReplacement.1
  | .recordSent seq now => t.recordSent seq now
  | .onAck seq capable now => (t.onAck seq capable now).1
  | .streamUp now => t.streamUp now
  | .streamDown now => t.streamDown now
  | .expire now => t.expire now
  | .onTerminal signal => (t.onTerminal signal).1

def run (t : AckTracker) (ops : List Op) : AckTracker := ops.foldl step t

/-- **The rule for calls.** A call is made of these changes: a number is assigned, a request is
recorded or accepted, and state, loss and terminal signal are set. -/
theorem step_rule {P : AckTracker → Prop} {t : AckTracker} (op : Op) (h : P t)
    (ha : ∀ u n, P u → P { u with lastAssigned := n })
    (hl : ∀ u l, P u → P { u with lostAt := l })
    (htr : ∀ u signal, P u → P { u with terminal := some signal })
    (ht : ∀ u tgt, P u → P (u.transition tgt))
    (hs : ∀ seq now, op = .recordSent seq now → P (t.recordSent seq now))
    (hac : ∀ seq cap now s u, op = .onAck seq cap now →
      (t.onAck seq cap now).2 = .ok () → P u → P (u.accept seq s)) : P (step t op) := by
  have hex : ∀ now, P (t.expire now) := by
    intro now
    rcases t.expire_cases now with he | ⟨d, -, -, -, he⟩ <;> rw [he]
    · exact h
    · exact ht _ _ (hl _ _ h)
  cases op with
  | nextSeq => exact ha t _ h
  | seqForReplacement =>
    rw [step, t.seqForReplacement_eq]
    exact ha t _ h
  | recordSent seq now => exact hs seq now rfl
  | onAck seq cap now =>
    rw [step]
    rcases t.onAck_cases seq cap now with ⟨why, hr⟩ | ⟨s, hr, -⟩ <;> rw [hr]
    · exact hex now
    · exact hac seq cap now s _ rfl (by rw [hr]) (hex now)
  | streamUp now =>
    rw [step]
    rcases t.streamUp_cases now with he | ⟨-, he⟩ <;> rw [he]
    · exact hex now
    · exact ht _ _ (hex now)
  | streamDown now =>
    rw [step]
    rcases t.streamDown_cases now with he | ⟨-, he⟩ | ⟨-, he⟩ <;> rw [he]
    · exact hex now
    · exact ht _ _ (hex now)
    · exact ht _ _ (hl _ _ (hex now))
  | expire now => exact hex now
  | onTerminal signal =>
    rw [step]
    rcases t.onTerminal_cases signal with ⟨-, he⟩ | ⟨tgt, -, -, he⟩ <;> rw [he]
    · exact h
    · exact ht _ _ (htr _ _ h)

@[simp] lemma run_nil (t : AckTracker) : run t [] = t := rfl
@[simp] lemma run_cons (t : AckTracker) (op : Op) (ops : List Op) :
    run t (op :: ops) = run (step t op) ops := rfl
@[simp] lemma run_append (t : AckTracker) (ops ops' : List Op) :
    run t (ops ++ ops') = run (run t ops) ops' := by
  simp [run, List.foldl_append]

end Zecurity.Authorization
