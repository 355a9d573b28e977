import Zecurity.Authorization
import Zecurity.Sessions

/-!
The connector's fail-closed enforcer (`connector/src/fail_closed.rs`) against the admissions
(`connector/src/device_tunnel.rs`, `handle_stream`) and the published serving state.

The tracker publishes into a `watch` channel, which keeps the last value only; the enforcer
learns of the closures in between from their number. It cancels the sessions in one pass over
the registry, shard by shard, while admissions register and leave. An admission checks the gate,
registers, checks the access list again and then the gate again. `shard` is the map's own placing
of the keys, `grace` the time that shield streams outlive a closure.
-/

namespace Zecurity.FailClosed

open Acl Authorization Function Option Runs Sessions

/-! ### The published state -/

/-- `transition`, as the readers of the channel see it. -/
def published (gate : AuthzSnapshot) (target : ServingState) (deadline : Option Instant) :
    AuthzSnapshot where
  state := target
  deadline := if target.isOpen then deadline else none
  closures := if gate.state.isOpen && !target.isOpen then gate.closures + 1 else gate.closures

def publishAll (gate : AuthzSnapshot) (targets : List (ServingState × Option Instant)) :
    AuthzSnapshot :=
  targets.foldl (fun gate target => published gate target.1 target.2) gate

/-- The channel holds what the tracker has. -/
def Coherent (t : AckTracker) : Prop := t.publish = t.snapshot

/-- `t'` is reached from `t` with some values published on the way. -/
def Publishes (t t' : AckTracker) : Prop :=
  Coherent t' ∧ ∃ targets, t'.publish = publishAll t.publish targets

variable {t t' : AckTracker} {key : SessionKey} {x : Registered} {target : ServingState}
  {deadline : Option Instant} {snap : AuthzSnapshot}

lemma Publishes.transition {u v : AckTracker} (h : Publishes t u) (hs : v.state = u.state)
    (hc : v.closures = u.closures) (target : ServingState) : Publishes t (v.transition target) := by
  obtain ⟨hu, targets, hp⟩ := h
  refine ⟨rfl, targets ++ [(target, v.deadline)], ?_⟩
  rw [publishAll, List.foldl_append]
  change _ = published (publishAll t.publish targets) target v.deadline
  rw [← hp, hu, published, AckTracker.transition, hs, hc]
  rfl

/-- **Every call on the tracker** publishes a sequence of transitions. -/
theorem publishes_step (ht : Coherent t) (op : Op) : Publishes t (Authorization.step t op) := by
  refine step_rule (P := Publishes t) op ⟨ht, [], rfl⟩ ?_ ?_ ?_ ?_ ?_ ?_
  · exact fun u n h => h
  · exact fun u l h => h
  · exact fun u signal h => h
  · exact fun u target h => h.transition rfl rfl target
  · intro seq now _
    rw [t.recordSent_eq]
    exact ⟨ht, [], rfl⟩
  · intro seq _ _ s u _ _ h
    unfold AckTracker.accept
    apply h.transition <;> rfl

/-! ### The system -/

/-- The second check of the gate: the snapshot that it read, when, and after how many closures. -/
structure Recheck where
  snapshot : AuthzSnapshot
  now : Instant
  closures : ℕ

/-- What the gate has been to an admission. The numbers of closures are history. -/
structure Gated where
  /-- closures at the first check -/
  checked : ℕ
  /-- closures when the session was registered -/
  born : ℕ
  recheck : Option Recheck
  served : Bool

inductive Stage
  | notStarted
  | top
  /-- in `cancel_every_session`, with the next shard -/
  | cancelling (next : ℕ) (snap : AuthzSnapshot)
  | deciding (snap : AuthzSnapshot)
  /-- in the pass of a terminal state -/
  | ending (next : ℕ)
  | waiting

structure Enforcer where
  stage : Stage
  seenClosures : UInt64
  terminalDone : Bool
  shieldCloseAt : Option Instant
  episodeClosed : Bool

structure State where
  gate : AuthzSnapshot
  /-- the channel has a value that the enforcer has not taken -/
  changed : Bool
  sessions : Sessions.State
  gated : SessionId → Option Gated
  enforcer : Enforcer
  closeAll : ℕ
  /-- history: the number of closures, -/
  closures : ℕ
  /-- the same at the enforcer's last snapshot, -/
  readAt : ℕ
  /-- and at the last snapshot for which the pass over the sessions is over -/
  processed : ℕ

def init : State where
  gate := ⟨.starting, none, 0⟩
  changed := false
  sessions := Sessions.init
  gated _ := none
  enforcer := ⟨.notStarted, 0, false, none, false⟩
  closeAll := 0
  closures := 0
  readAt := 0
  processed := 0

inductive Action
  | publish (target : ServingState) (deadline : Option Instant)
  | gateCheck (id : SessionId) (now : Instant)
  /-- a step of an admission other than those at the gate, or of a message with a new list -/
  | session (a : Sessions.Action)
  | gateRecheck (id : SessionId) (now : Instant)
  | serve (id : SessionId)
  | leave (id : SessionId)
  | enforce (now : Instant)
  | wake
  | graceOver (now : Instant)

section System

variable {n : ℕ} (shard : SessionKey → Fin n) (grace : Duration)

/-- `cancel_every_session` in one shard, which is locked meanwhile. -/
def cancelShard (r : SessionRegistry) (i : ℕ) : SessionRegistry := fun key id =>
  if (shard key : ℕ) = i then (r key id).map fun x => { x with cancelled := true } else r key id

def State.setGated (s : State) (id : SessionId) (g : Option Gated) : State :=
  { s with gated := update s.gated id g }

def State.setRegistry (s : State) (r : SessionRegistry) : State :=
  { s with sessions := { s.sessions with registry := r } }

def State.setStage (s : State) (stage : Stage) : State :=
  { s with enforcer := { s.enforcer with stage := stage } }

/-- `borrow_and_update` and the comparison of the counts. -/
def State.read (s : State) : State :=
  let s := { s with changed := false, readAt := s.closures }
  if s.gate.closures ≠ s.enforcer.seenClosures then
    { s with enforcer := { s.enforcer with
      seenClosures := s.gate.closures, stage := .cancelling 0 s.gate } }
  else s.setStage (.deciding s.gate)

/-- The `match` on the state. -/
def Enforcer.decide (e : Enforcer) (state : ServingState) (now : Instant) : Enforcer :=
  match state with
  | .revoked | .unknownIdentity =>
    if e.terminalDone then { e with shieldCloseAt := none, stage := .waiting }
    else { e with terminalDone := true, stage := .ending 0 }
  | .disabled | .recovering =>
    { e with
      shieldCloseAt :=
        if e.shieldCloseAt = none ∧ e.episodeClosed = false then some (now + grace)
        else e.shieldCloseAt
      stage := .waiting }
  | .serving | .servingDisconnected | .starting =>
    { e with shieldCloseAt := none, episodeClosed := false, stage := .waiting }

def State.enforce (s : State) (now : Instant) : Option State :=
  match s.enforcer.stage with
  | .notStarted =>
    some { s with
      enforcer := { s.enforcer with seenClosures := s.gate.closures, stage := .top }
      readAt := s.closures }
  | .top => some s.read
  | .cancelling i snap =>
    if i < n then
      some ((s.setRegistry (cancelShard shard s.sessions.registry i)).setStage
        (.cancelling (i + 1) snap))
    else some { s.setStage (.deciding snap) with processed := s.readAt }
  | .deciding snap => some { s with enforcer := s.enforcer.decide grace snap.state now }
  | .ending i =>
    if i < n then
      some ((s.setRegistry (cancelShard shard s.sessions.registry i)).setStage (.ending (i + 1)))
    else
      some { s with
        closeAll := s.closeAll + 1
        sessions := { s.sessions with acl := ⟨none⟩ }
        enforcer := { s.enforcer with shieldCloseAt := none, stage := .waiting } }
  | .waiting => none

/-- The steps of an admission between the checks of the gate. -/
def State.session (s : State) (a : Sessions.Action) : Option State :=
  let after := (Sessions.step s.sessions a).map fun sessions => { s with sessions := sessions }
  match a with
  | .resolve id .. => if (s.gated id).isSome then after else none
  | .register id =>
    after.map fun s' =>
      s'.setGated id ((s.gated id).map fun g => ⟨g.checked, s.closures, none, false⟩)
  | .leave _ => none
  | _ => after

def step (s : State) : Action → Option State
  | .publish target deadline =>
    let closing := s.gate.state.isOpen && !target.isOpen
    some { s with
      gate := published s.gate target deadline
      changed := true
      closures := if closing then s.closures + 1 else s.closures }
  | .gateCheck id now =>
    if s.gated id = none ∧ s.gate.admits now then
      some (s.setGated id (some ⟨s.closures, s.closures, none, false⟩))
    else none
  | .session a => s.session a
  | .gateRecheck id now =>
    match s.gated id, s.sessions.admissions id with
    | some g, some (.rechecked, _) =>
      if g.recheck.isNone ∧ s.gate.admits now then
        some (s.setGated id (some { g with recheck := some ⟨s.gate, now, s.closures⟩ }))
      else none
    | _, _ => none
  | .serve id =>
    match s.gated id with
    | some g =>
      if g.recheck.isSome then some (s.setGated id (some { g with served := true })) else none
    | none => none
  | .leave id =>
    let sessions := (Sessions.step s.sessions (.leave id)).getD s.sessions
    some ({ s with sessions := sessions }.setGated id none)
  | .enforce now => s.enforce shard grace now
  | .wake =>
    match s.enforcer.stage with
    | .waiting => if s.changed then some (s.setStage .top) else none
    | _ => none
  | .graceOver now =>
    match s.enforcer.stage, s.enforcer.shieldCloseAt with
    | .waiting, some t =>
      if t ≤ now then
        some { s with
          closeAll := s.closeAll + 1
          enforcer := { s.enforcer with
            shieldCloseAt := none, episodeClosed := true, stage := .top } }
      else none
    | _, _ => none

end System

/-! ### What is to hold -/

/-- A session that was registered before the beginning of a closure which the enforcer has
processed is cancelled. -/
def CancelledWhenProcessed (s : State) : Prop :=
  ∀ key id x, s.sessions.registry key id = some x →
    ∃ g, s.gated id = some g ∧ ∀ k ≤ s.processed, g.born < k → x.cancelled = true

/-- A session that is served was checked again, with the gate open, after it was registered. -/
def RecheckedWhenServed (s : State) : Prop :=
  ∀ id g, s.gated id = some g → g.served = true → ∃ recheck, g.recheck = some recheck ∧
    g.born ≤ recheck.closures ∧ recheck.snapshot.admits recheck.now = true

/-! ### Registries that lose entries and gain cancellations -/

/-- Every entry was there before, and is cancelled if it was. -/
def Kept (r r' : SessionRegistry) : Prop :=
  ∀ key id x', r' key id = some x' →
    ∃ x, r key id = some x ∧ (x.cancelled = true → x'.cancelled = true)

variable {i : ℕ} {id : SessionId} {g : Gated} {now : Instant} {sessions : Sessions.State}

lemma Kept.refl (r : SessionRegistry) : Kept r r := fun _ _ x' h => ⟨x', h, id⟩

lemma kept_ite_cancel (r : SessionRegistry) (p : SessionKey → SessionId → Prop)
    [∀ key id, Decidable (p key id)] :
    Kept r fun key id =>
      if p key id then (r key id).map fun x => { x with cancelled := true } else r key id := by
  intro key id x' h
  by_cases hp : p key id
  · simp only [if_pos hp, map_eq_some_iff] at h
    obtain ⟨x, hx, rfl⟩ := h
    exact ⟨x, hx, fun _ => rfl⟩
  · simp only [if_neg hp] at h
    exact ⟨x', h, fun hc => hc⟩

lemma kept_cancelAll (r : SessionRegistry) (key : SessionKey) : Kept r (r.cancelAll key) :=
  kept_ite_cancel r fun k _ => k = key

lemma kept_cancelShard {n} (shard : SessionKey → Fin n) (r : SessionRegistry) (i : ℕ) :
    Kept r (cancelShard shard r i) := kept_ite_cancel r fun k _ => (shard k : ℕ) = i

lemma cancelled_cancelShard {n} {shard : SessionKey → Fin n} {r}
    (h : cancelShard shard r i key id = some x) (hi : (shard key : ℕ) = i) :
    x.cancelled = true := by
  unfold cancelShard at h
  rw [if_pos hi] at h
  obtain ⟨y, -, rfl⟩ := map_eq_some_iff.1 h
  rfl

/-! ### The invariant -/

/-- The sessions at these keys that were registered before that many closures are cancelled. -/
def CancelledBelow (s : State) (bound : ℕ) (at_ : SessionKey → Prop) : Prop :=
  ∀ key id x g, s.sessions.registry key id = some x → s.gated id = some g → g.born < bound →
    at_ key → x.cancelled = true

/-- The second check comes after the registration and finds the gate open, and nothing is served
without it. -/
def Gated.Sound (g : Gated) (closures : ℕ) : Prop :=
  g.born ≤ closures ∧
  (∀ re, g.recheck = some re → g.born ≤ re.closures ∧ re.snapshot.admits re.now = true) ∧
  (g.served = true → g.recheck.isSome)

lemma Gated.Sound.mono {closures closures'} (h : g.Sound closures) (hle : closures ≤ closures') :
    g.Sound closures' := ⟨h.1.trans hle, h.2⟩

structure Inv {n : ℕ} (shard : SessionKey → Fin n) (s : State) : Prop where
  entry : ∀ key id x, s.sessions.registry key id = some x →
    ∃ phase a, s.sessions.admissions id = some (phase, a) ∧ phase ≠ .resolved ∧ a.key = key
  passed : ∀ id p, s.sessions.admissions id = some p → (s.gated id).isSome
  gates : ∀ id g, s.gated id = some g → g.Sound s.closures
  readAt_le : s.readAt ≤ s.closures
  processed_le : s.processed ≤ s.readAt
  processed : CancelledBelow s s.processed fun _ => True
  pass : ∀ i snap, s.enforcer.stage = .cancelling i snap →
    CancelledBelow s s.readAt fun key => (shard key : ℕ) < i

variable {a : Sessions.Action}

section Invariant

variable {n : ℕ} {shard : SessionKey → Fin n} {grace : Duration} {s s' : State}

lemma inv_init : Inv shard init where
  entry _ _ _ h := by cases h
  passed _ _ h := by cases h
  gates _ _ h := by cases h
  readAt_le := le_rfl
  processed_le := le_rfl
  processed _ _ _ _ h := by cases h
  pass _ _ h := by cases h

lemma CancelledBelow.of_kept {bound : ℕ} {at_ : SessionKey → Prop} (h : CancelledBelow s bound at_)
    (hk : Kept s.sessions.registry s'.sessions.registry)
    (hb : ∀ key id x g', s'.sessions.registry key id = some x → s'.gated id = some g' →
      ∃ g, s.gated id = some g ∧ g.born = g'.born) : CancelledBelow s' bound at_ := by
  intro key id x' g' hx' hg' hlt hkey
  obtain ⟨x, hx, hc⟩ := hk key id x' hx'
  obtain ⟨g, hg, hs⟩ := hb key id x' g' hx' hg'
  exact hc (h key id x g hx hg (hs ▸ hlt) hkey)

/-- The enforcer does not move. -/
structure EnforcerStays (s s' : State) : Prop where
  closures : s.closures ≤ s'.closures
  readAt : s'.readAt = s.readAt
  processed : s'.processed = s.processed
  stage : s'.enforcer.stage = s.enforcer.stage

lemma Inv.of_kept (h : Inv shard s) (hs : EnforcerStays s s')
    (hk : Kept s.sessions.registry s'.sessions.registry)
    (hb : ∀ key id x g', s'.sessions.registry key id = some x → s'.gated id = some g' →
      ∃ g, s.gated id = some g ∧ g.born = g'.born)
    (he : ∀ key id x, s'.sessions.registry key id = some x →
      ∃ phase a, s'.sessions.admissions id = some (phase, a) ∧ phase ≠ .resolved ∧ a.key = key)
    (hp : ∀ id p, s'.sessions.admissions id = some p → (s'.gated id).isSome)
    (hg : ∀ id g, s'.gated id = some g → g.Sound s'.closures) : Inv shard s' where
  entry := he
  passed := hp
  gates := hg
  readAt_le := hs.readAt ▸ h.readAt_le.trans hs.closures
  processed_le := by
    rw [hs.readAt, hs.processed]
    exact h.processed_le
  processed := by
    rw [hs.processed]
    exact h.processed.of_kept hk hb
  pass i snap hi := by
    rw [hs.stage] at hi
    rw [hs.readAt]
    exact (h.pass i snap hi).of_kept hk hb

lemma isSome_setGated {i} (h : i ≠ id → (s.gated i).isSome) :
    ((s.setGated id (some g)).gated i).isSome := by
  by_cases hi : i = id
  · subst hi
    simp [State.setGated]
  · simp only [State.setGated, update_of_ne hi]
    exact h hi

/-! ### The gate -/

section

variable (h : Inv shard s)
include h

lemma Inv.no_entry (hid : s.gated id = none) (key : SessionKey) :
    s.sessions.registry key id = none := by
  cases hx : s.sessions.registry key id with
  | none => rfl
  | some x =>
    obtain ⟨phase, a, ha, -⟩ := h.entry key id x hx
    have hp := h.passed id _ ha
    rw [hid] at hp
    cases hp

lemma Inv.setGated {g'} (hg : s.gated id = some g) (hb : g'.born = g.born)
    (hs : g'.Sound s.closures) : Inv shard (s.setGated id (some g')) := by
  refine h.of_kept ⟨le_rfl, rfl, rfl, rfl⟩ (.refl _) (fun key i x gi hx hgi => ?_) h.entry
    (fun i p hp => isSome_setGated fun _ => h.passed i p hp) fun i gi hgi => ?_
  · rcases update_apply_eq_iff.1 hgi with ⟨rfl, ⟨⟩⟩ | ⟨-, hold⟩
    · exact ⟨g, hg, hb.symm⟩
    · exact ⟨gi, hold, rfl⟩
  · rcases update_apply_eq_iff.1 hgi with ⟨rfl, ⟨⟩⟩ | ⟨-, hold⟩
    · exact hs
    · exact h.gates i gi hold

/-! ### Admissions -/

lemma inv_sessions (hk : Kept s.sessions.registry sessions.registry)
    (hm : ∀ id phase a, s.sessions.admissions id = some (phase, a) → phase ≠ .resolved →
      ∃ phase', sessions.admissions id = some (phase', a) ∧ phase' ≠ .resolved)
    (hp : ∀ id p, sessions.admissions id = some p → (s.gated id).isSome) :
    Inv shard { s with sessions := sessions } := by
  refine h.of_kept ⟨le_rfl, rfl, rfl, rfl⟩ hk (fun _ _ _ g' _ hg' => ⟨g', hg', rfl⟩)
    (fun key id x hx => ?_) hp h.gates
  obtain ⟨x0, hx0, -⟩ := hk key id x hx
  obtain ⟨phase, a, ha, hph, hkey⟩ := h.entry key id x0 hx0
  obtain ⟨phase', ha', hp'⟩ := hm id phase a ha hph
  exact ⟨phase', a, ha', hp', hkey⟩

lemma inv_message (hk : Kept s.sessions.registry sessions.registry)
    (hadm : sessions.admissions = s.sessions.admissions) :
    Inv shard { s with sessions := sessions } := by
  refine inv_sessions h hk (fun id phase a ha hph => ⟨phase, ?_, hph⟩) fun id p hp => ?_
  · rw [hadm, ha]
  · rw [hadm] at hp
    exact h.passed id p hp

lemma Inv.entry_register {a} (ha : s.sessions.admissions id = some (.resolved, a)) {i}
    (hx : s.sessions.registry.register a.key id a.transport key i = some x) :
    i = id ∧ key = a.key ∨ i ≠ id ∧ s.sessions.registry key i = some x := by
  unfold SessionRegistry.register at hx
  split at hx
  · next heq => exact .inl heq.symm
  · refine .inr ⟨?_, hx⟩
    rintro rfl
    obtain ⟨phase, a', ha', hp, -⟩ := h.entry key i x hx
    cases ha.symm.trans ha'
    exact hp rfl

lemma inv_register (hs : Sessions.step s.sessions (.register id) = some sessions) :
    Inv shard ({ s with sessions := sessions }.setGated id
      ((s.gated id).map fun g : Gated => ⟨g.checked, s.closures, none, false⟩)) := by
  simp only [Sessions.step] at hs
  split at hs <;> cases hs
  next a ha =>
    obtain ⟨g, hg⟩ := isSome_iff_exists.1 (h.passed id _ ha)
    rw [hg, map_some]
    have hc : ∀ bound at_, bound ≤ s.closures → CancelledBelow s bound at_ →
        ∀ s', s'.sessions.registry = s.sessions.registry.register a.key id a.transport →
          s'.gated = update s.gated id (some ⟨g.checked, s.closures, none, false⟩) →
          CancelledBelow s' bound at_ := by
      intro bound at_ hb hold s' hr hgt key i x g' hx hg' hlt hk
      rw [hr] at hx
      rw [hgt] at hg'
      rcases update_apply_eq_iff.1 hg' with ⟨rfl, ⟨⟩⟩ | ⟨hi, hg'⟩
      · exact absurd hlt (Nat.not_lt.2 hb)
      · rcases h.entry_register ha hx with ⟨heq, -⟩ | ⟨-, hx⟩
        · exact absurd heq hi
        · exact hold key i x g' hx hg' hlt hk
    refine { entry := fun key i x hx => ?_, passed := fun i p hp => ?_, gates := fun i g' hg' => ?_,
             readAt_le := h.readAt_le, processed_le := h.processed_le,
             processed := ?_, pass := fun i snap hi => ?_ }
    · rcases h.entry_register ha hx with ⟨rfl, rfl⟩ | ⟨hi, hx⟩
      · exact ⟨.registered, a, update_self _ _ _, by decide, rfl⟩
      · obtain ⟨phase, a', ha', hph⟩ := h.entry key i x hx
        exact ⟨phase, a', (update_of_ne hi _ _).trans ha', hph⟩
    · refine isSome_setGated fun hi => ?_
      exact h.passed i p ((update_of_ne hi _ _).symm.trans hp)
    · rcases update_apply_eq_iff.1 hg' with ⟨rfl, ⟨⟩⟩ | ⟨-, hold⟩
      · exact ⟨le_rfl, by simp, by simp⟩
      · exact h.gates i g' hold
    · exact hc _ _ (h.processed_le.trans h.readAt_le) h.processed _ rfl rfl
    · exact hc _ _ h.readAt_le (h.pass i snap hi) _ rfl rfl

lemma inv_session (hs : step shard grace s (.session a) = some s') : Inv shard s' := by
  cases a with
  | resolve id cl req tr =>
    simp only [step, State.session, ite_none_right_eq_some, map_eq_some_iff] at hs
    obtain ⟨hg, sessions, hs, rfl⟩ := hs
    simp only [Sessions.step] at hs
    split at hs
    · cases hs
    · cases hs
      exact h
    · next acl hn hd =>
      cases hs
      refine inv_sessions h (.refl _) (fun i phase a ha hph => ⟨phase, ?_, hph⟩) fun i p hp => ?_
      · have hi : i ≠ id := by
          rintro rfl
          cases hn.symm.trans ha
        simp only [update_of_ne hi, ha]
      · by_cases hi : i = id
        · exact hi ▸ hg
        · simp only [update_of_ne hi] at hp
          exact h.passed i p hp
  | register id =>
    simp only [step, State.session, map_map, map_eq_some_iff] at hs
    obtain ⟨sessions, hs, rfl⟩ := hs
    exact inv_register h hs
  | recheck id =>
    simp only [step, State.session, map_eq_some_iff] at hs
    obtain ⟨sessions, hs, rfl⟩ := hs
    -- The ACL check after the registration.
    simp only [Sessions.step] at hs
    split at hs <;> cases hs
    next a ha =>
      refine inv_sessions h ?_ (fun i phase a' ha' hph => ?_) fun i p hp => ?_
      · dsimp only
        split
        · exact .refl _
        · exact kept_ite_cancel _ _
      · grind
      · by_cases hi : i = id
        · subst hi
          exact h.passed i _ ha
        · simp only [update_of_ne hi] at hp
          exact h.passed i p hp
  | leave id => cases hs
  | update | finish =>
    simp only [step, State.session, map_eq_some_iff, Sessions.step] at hs
    obtain ⟨sessions, hs, rfl⟩ := hs
    split at hs <;> cases hs
    exact inv_message h (.refl _) rfl
  | cancel key =>
    simp only [step, State.session, map_eq_some_iff, Sessions.step] at hs
    obtain ⟨sessions, hs, rfl⟩ := hs
    split at hs
    · split at hs <;> cases hs
      exact inv_message h (kept_cancelAll _ _) rfl
    · cases hs

lemma inv_leave (hs : step shard grace s (.leave id) = some s') : Inv shard s' := by
  cases hs
  -- what the end of `handle_stream` leaves of the sessions
  obtain ⟨sessions, hss⟩ :
      ∃ sessions, (Sessions.step s.sessions (.leave id)).getD s.sessions = sessions := ⟨_, rfl⟩
  rw [hss]
  have hk : Kept s.sessions.registry sessions.registry ∧
      sessions.admissions = update s.sessions.admissions id none := by
    subst hss
    rcases hadm : s.sessions.admissions id with _ | ⟨phase, a⟩
    · simp only [Sessions.step, hadm, getD_none]
      exact ⟨.refl _, by rw [← hadm, update_eq_self]⟩
    · simp only [Sessions.step, hadm, getD_some, leaveState]
      refine ⟨?_, trivial⟩
      split
      · exact .refl _
      · intro k i x' h
        unfold SessionRegistry.remove at h
        split at h
        · cases h
        · exact ⟨x', h, fun hc => hc⟩
  obtain ⟨hk, hadmi⟩ := hk
  have hgn : ∀ key i x, sessions.registry key i = some x → i ≠ id := by
    rintro key i x hx rfl
    obtain ⟨x0, hx0, -⟩ := hk key i x hx
    obtain ⟨phase, a, ha, hph, hkey⟩ := h.entry key i x0 hx0
    simp [← hss, Sessions.step, ha, leaveState, hph, SessionRegistry.remove, hkey] at hx
  have hgt : ∀ i g, update s.gated id none i = some g → i ≠ id ∧ s.gated i = some g :=
    fun i g hg => (update_apply_eq_iff.1 hg).resolve_left fun h => by cases h.2
  refine h.of_kept ⟨le_rfl, rfl, rfl, rfl⟩ hk
    (fun key i x g' hx hg' => ⟨g', (hgt i g' hg').2, rfl⟩) (fun key i x hx => ?_)
    (fun i p hp => ?_) fun i g hg => h.gates i g (hgt i g hg).2
  · obtain ⟨x0, hx0, -⟩ := hk key i x hx
    obtain ⟨phase, a, ha, hph⟩ := h.entry key i x0 hx0
    refine ⟨phase, a, ?_, hph⟩
    exact (congrFun hadmi i).trans ((update_of_ne (hgn key i x hx) _ _).trans ha)
  · rcases update_apply_eq_iff.1 ((congrFun hadmi i).symm.trans hp) with ⟨-, ⟨⟩⟩ | ⟨hi, hp⟩
    simp only [State.setGated, update_of_ne hi]
    exact h.passed i p hp

/-! ### The enforcer -/

lemma Inv.of_enforcer (hk : Kept s.sessions.registry s'.sessions.registry)
    (ha : s'.sessions.admissions = s.sessions.admissions) (hgt : s'.gated = s.gated)
    (hc : s'.closures = s.closures) (hra : s.readAt ≤ s'.readAt)
    (hreadAt_le : s'.readAt ≤ s.closures) (hpr : s'.processed = s.processed ∨
      s'.processed = s'.readAt ∧ CancelledBelow s' s'.readAt fun _ => True)
    (hps : ∀ i snap, s'.enforcer.stage = .cancelling i snap →
      CancelledBelow s' s'.readAt fun key => (shard key : ℕ) < i) : Inv shard s' where
  entry key id x hx := by
    obtain ⟨x0, hx0, -⟩ := hk key id x hx
    rw [ha]
    exact h.entry key id x0 hx0
  passed id p hp := by
    rw [ha] at hp
    rw [hgt]
    exact h.passed id p hp
  gates id g hg := by
    rw [hgt] at hg
    rw [hc]
    exact h.gates id g hg
  readAt_le := hc ▸ hreadAt_le
  processed_le := by
    rcases hpr with heq | ⟨heq, -⟩
    · exact heq ▸ h.processed_le.trans hra
    · exact heq.le
  processed := by
    rcases hpr with heq | ⟨heq, hall⟩
    · rw [heq]
      exact h.processed.of_kept hk fun key id x g' _ hg' => ⟨g', hgt ▸ hg', rfl⟩
    · rw [heq]
      exact hall
  pass := hps

lemma inv_read : Inv shard s.read := by
  dsimp only [State.read]
  split
  · refine h.of_enforcer (.refl _) rfl rfl rfl h.readAt_le le_rfl (.inl rfl) fun i snap hi => ?_
    cases hi
    exact fun key id x g _ _ _ hlt => absurd hlt (Nat.not_lt_zero _)
  · exact h.of_enforcer (.refl _) rfl rfl rfl h.readAt_le le_rfl (.inl rfl) (by rintro _ _ ⟨⟩)

end

lemma decide_stage (e : Enforcer) (state : ServingState) (now : Instant) (i : ℕ)
    (snap : AuthzSnapshot) : (e.decide grace state now).stage ≠ .cancelling i snap := by
  intro h
  unfold Enforcer.decide at h
  repeat' split at h
  all_goals cases h

lemma inv_enforce (h : Inv shard s) (hs : step shard grace s (.enforce now) = some s') :
    Inv shard s' := by
  simp only [step, State.enforce] at hs
  split at hs
  · cases hs
    exact h.of_enforcer (.refl _) rfl rfl rfl h.readAt_le le_rfl (.inl rfl) (by simp)
  · cases hs
    exact inv_read h
  · next i snap hst =>
    split at hs
    · cases hs
      -- One shard of the pass: what is below the next shard is cancelled.
      have hk := kept_cancelShard shard s.sessions.registry i
      refine h.of_enforcer hk rfl rfl rfl le_rfl h.readAt_le (.inl rfl) fun j snap' hj => ?_
      cases hj
      intro key id x g hx hg hlt hkey
      rcases Nat.lt_succ_iff_lt_or_eq.1 hkey with hb | heq
      · obtain ⟨x0, hx0, hc⟩ := hk key id x hx
        exact hc (h.pass i snap hst key id x0 g hx0 hg hlt hb)
      · exact cancelled_cancelShard hx heq
    · next hi =>
      cases hs
      -- Past the last shard the whole registry has been gone through.
      refine h.of_enforcer (.refl _) rfl rfl rfl le_rfl h.readAt_le (.inr ⟨rfl, ?_⟩)
        (by rintro _ _ ⟨⟩)
      intro key id x g hx hg hlt _
      exact h.pass i snap hst key id x g hx hg hlt ((shard key).isLt.trans_le (Nat.not_lt.1 hi))
  · cases hs
    exact h.of_enforcer (.refl _) rfl rfl rfl le_rfl h.readAt_le (.inl rfl)
      fun i snap' hi => absurd hi (decide_stage _ _ _ _ _)
  · split at hs
    · cases hs
      exact h.of_enforcer (kept_cancelShard shard _ _) rfl rfl rfl le_rfl h.readAt_le (.inl rfl)
        (by rintro _ _ ⟨⟩)
    · cases hs
      exact h.of_enforcer (.refl _) rfl rfl rfl le_rfl h.readAt_le (.inl rfl) (by simp)
  · cases hs

lemma inv_step (s : State) (a : Action) (s' : State) (h : Inv shard s)
    (hs : step shard grace s a = some s') : Inv shard s' := by
  cases a with
  | publish target deadline =>
    cases hs
    have hle : s.closures ≤ if s.gate.state.isOpen && !target.isOpen then s.closures + 1
        else s.closures := by
      split <;> omega
    exact h.of_kept ⟨hle, rfl, rfl, rfl⟩ (.refl _) (fun _ _ _ g' _ hg' => ⟨g', hg', rfl⟩) h.entry
      h.passed fun id g hg => (h.gates id g hg).mono hle
  | gateCheck id now =>
    obtain ⟨⟨hn, -⟩, rfl⟩ := ite_some_none_eq_some.1 hs
    refine h.of_kept ⟨le_rfl, rfl, rfl, rfl⟩ (.refl _) (fun key i x g' hx hg' => ?_) h.entry
      (fun i p hp => isSome_setGated fun _ => h.passed i p hp) fun i g hg => ?_
    · rcases update_apply_eq_iff.1 hg' with ⟨rfl, -⟩ | ⟨-, hold⟩
      · cases (h.no_entry hn key).symm.trans hx
      · exact ⟨g', hold, rfl⟩
    · rcases update_apply_eq_iff.1 hg with ⟨-, ⟨⟩⟩ | ⟨-, hold⟩
      · exact ⟨le_rfl, by simp, by simp⟩
      · exact h.gates i g hold
  | session a => exact inv_session h hs
  | gateRecheck id now =>
    dsimp only [step] at hs
    split at hs
    · next g a hg ha =>
      obtain ⟨⟨-, hadm⟩, rfl⟩ := ite_some_none_eq_some.1 hs
      have hb := (h.gates id g hg).1
      refine h.setGated hg rfl ⟨hb, fun re hre => ?_, fun _ => rfl⟩
      cases hre
      exact ⟨hb, hadm⟩
    · cases hs
  | serve id =>
    dsimp only [step] at hs
    split at hs
    · next g hg =>
      obtain ⟨hr, rfl⟩ := ite_some_none_eq_some.1 hs
      obtain ⟨hb, hrc, -⟩ := h.gates id g hg
      exact h.setGated hg rfl ⟨hb, hrc, fun _ => hr⟩
    · cases hs
  | leave id => exact inv_leave h hs
  | enforce now => exact inv_enforce h hs
  | wake | graceOver =>
    dsimp only [step] at hs
    split at hs
    · obtain ⟨-, rfl⟩ := ite_some_none_eq_some.1 hs
      exact h.of_enforcer (.refl _) rfl rfl rfl le_rfl h.readAt_le (.inl rfl) (by rintro _ _ ⟨⟩)
    · cases hs

lemma Inv.cancelledWhenProcessed (h : Inv shard s) : CancelledWhenProcessed s := by
  intro key id x hx
  obtain ⟨phase, a, ha, -⟩ := h.entry key id x hx
  obtain ⟨g, hg⟩ := isSome_iff_exists.1 (h.passed id _ ha)
  exact ⟨g, hg, fun k hk hb => h.processed key id x g hx hg (hb.trans_le hk) trivial⟩

lemma Inv.recheckedWhenServed (h : Inv shard s) : RecheckedWhenServed s := by
  intro id g hg hs
  obtain ⟨-, hrc, hr⟩ := h.gates id g hg
  obtain ⟨re, hre⟩ := isSome_iff_exists.1 (hr hs)
  exact ⟨re, hre, hrc re hre⟩

end Invariant

/-- **Fail-closed reaches every session**, however the closures, the admissions and the enforcer
interleave. -/
theorem failClosed_reaches {n : ℕ} (shard : SessionKey → Fin n) (grace : Duration)
    (acts : List Action) (s : State) (hrun : exec (step shard grace) init acts = some s) :
    CancelledWhenProcessed s ∧ RecheckedWhenServed s := by
  have hi : Inv shard s := exec_inv inv_step inv_init hrun
  exact ⟨hi.cancelledWhenProcessed, hi.recheckedWhenServed⟩

/-- One client is served when the connector closes and opens again before the enforcer runs;
another has passed the gate before that and registers after it. -/
def briefClosure : List Action :=
  [.enforce 0, .enforce 0, .enforce 0, .publish .serving (some 100),
    .session (.update (sshSnapshot 1 "10.0.0.1")), .session .finish,
    .gateCheck 0 1, .session (.resolve 0 "spiffe://ws/client/d1" ⟨"10.0.0.1", 443, "tcp"⟩ .tcp),
    .session (.register 0), .session (.recheck 0), .gateRecheck 0 2, .serve 0,
    .gateCheck 1 3, .session (.resolve 1 "spiffe://ws/client/d1" ⟨"10.0.0.1", 443, "tcp"⟩ .tcp),
    .publish .disabled none, .publish .serving (some 200),
    .session (.register 1), .session (.recheck 1), .gateRecheck 1 110, .serve 1,
    .wake, .enforce 111, .enforce 111, .enforce 111]

/-- The one is cancelled, the other was checked again. -/
theorem failClosed_briefClosure :
    ∃ s, exec (step (fun _ => (0 : Fin 1)) 30) init briefClosure = some s ∧ s.processed = 1 ∧
      s.sessions.registry ("spiffe://ws/client/d1", "r1") 0 = some ⟨true, .tcp⟩ ∧
      (s.gated 1).map (fun g => (g.checked, g.born, g.served)) = some (0, 1, true) ∧
      CancelledWhenProcessed s ∧ RecheckedWhenServed s := by
  obtain ⟨s, hr, hp, hf, hs⟩ :
      ∃ s, exec (step (fun _ => (0 : Fin 1)) 30) init briefClosure = some s ∧ s.processed = 1 ∧
        s.sessions.registry ("spiffe://ws/client/d1", "r1") 0 = some ⟨true, .tcp⟩ ∧
        (s.gated 1).map (fun g => (g.checked, g.born, g.served)) = some (0, 1, true) :=
    ⟨_, rfl, rfl, rfl, rfl⟩
  exact ⟨s, hr, hp, hf, hs, failClosed_reaches _ 30 briefClosure s hr⟩

/-! ### No closure is missed -/

/-- The enforcer starts before the first closure, and fewer than `2 ^ 64` closures come between
two of its snapshots. -/
def Punctual (s : State) : Action → Prop
  | .enforce _ =>
    match s.enforcer.stage with
    | .notStarted => s.closures = 0
    | .top => s.closures < s.readAt + UInt64.size
    | _ => True
  | _ => True

instance (s : State) (a : Action) : Decidable (Punctual s a) := by
  unfold Punctual
  repeat' split
  all_goals infer_instance

/-- The enforcer has yet to finish its pass for the last snapshot. -/
def Stage.behind : Stage → Bool
  | .cancelling .. => true
  | _ => false

/-- The published number is the number of closures, and so is the one seen, at the last snapshot;
all up to there are processed but for a pass under way. -/
structure Counted (s : State) : Prop where
  gate : s.gate.closures = UInt64.ofNat s.closures
  seen : s.enforcer.seenClosures = UInt64.ofNat s.readAt
  readAt_le : s.readAt ≤ s.closures
  unchanged : s.changed = false → s.closures = s.readAt
  processed : s.enforcer.stage.behind = false → s.processed = s.readAt

section Counting

variable {n : ℕ} {shard : SessionKey → Fin n} {grace : Duration} {s s' : State}

lemma counted_init : Counted init where
  gate := rfl
  seen := rfl
  readAt_le := le_rfl
  unchanged _ := rfl
  processed _ := rfl

lemma Counted.of_frame (h : Counted s) (hg : s'.gate = s.gate) (hch : s'.changed = s.changed)
    (hsn : s'.enforcer.seenClosures = s.enforcer.seenClosures) (hcl : s'.closures = s.closures)
    (hra : s'.readAt = s.readAt) (hp : s'.enforcer.stage.behind = false → s'.processed = s.readAt) :
    Counted s' where
  gate := by rw [hg, hcl, h.gate]
  seen := by rw [hsn, hra, h.seen]
  readAt_le := by rw [hra, hcl]; exact h.readAt_le
  unchanged hc := by rw [hcl, hra]; exact h.unchanged (hch ▸ hc)
  processed hs := by rw [hra]; exact hp hs

lemma decide_seenClosures (e : Enforcer) (state : ServingState) (now : Instant) :
    (e.decide grace state now).seenClosures = e.seenClosures := by
  unfold Enforcer.decide
  repeat' split
  all_goals rfl

lemma counted_enforce (h : Counted s) (hok : Punctual s (.enforce now))
    (hs : step shard grace s (.enforce now) = some s') : Counted s' := by
  simp only [step, State.enforce] at hs
  simp only [Punctual] at hok
  split at hs
  · next hst =>
    cases hs
    rw [hst] at hok
    have hp := h.processed (by rw [hst]; rfl)
    have hra := h.readAt_le
    exact { gate := h.gate, seen := h.gate, readAt_le := le_rfl, unchanged := fun _ => rfl,
            processed := fun _ => show s.processed = s.closures by omega }
  · next hst =>
    cases hs
    rw [hst] at hok
    dsimp only [State.read]
    split
    · exact { gate := h.gate, seen := h.gate, readAt_le := le_rfl, unchanged := fun _ => rfl,
              processed := by rintro ⟨⟩ }
    · next hsm =>
      have heq : s.closures = s.readAt := by
        refine eq_of_ofNat_eq ?_ h.readAt_le hok
        rw [← h.gate, ← h.seen]
        exact not_not.1 hsm
      refine { gate := h.gate, seen := ?_, readAt_le := le_rfl, unchanged := fun _ => rfl,
               processed := fun _ => ?_ }
      · exact h.seen.trans (congrArg UInt64.ofNat heq.symm)
      · exact (h.processed (by rw [hst]; rfl)).trans heq.symm
  · split at hs
    · cases hs
      exact h.of_frame rfl rfl rfl rfl rfl (by rintro ⟨⟩)
    · cases hs
      exact h.of_frame rfl rfl rfl rfl rfl fun _ => rfl
  · next hst =>
    cases hs
    exact h.of_frame rfl rfl (decide_seenClosures _ _ _) rfl rfl
      fun _ => h.processed (by rw [hst]; rfl)
  · next hst =>
    have hp := h.processed (by rw [hst]; rfl)
    split at hs
    · cases hs
      exact h.of_frame rfl rfl rfl rfl rfl fun _ => hp
    · cases hs
      exact h.of_frame rfl rfl rfl rfl rfl fun _ => hp
  · cases hs

lemma session_frame (hs : s.session a = some s') :
    ∃ sessions gated, s' = { s with sessions := sessions, gated := gated } := by
  cases a with
  | resolve id cl req tr =>
    simp only [State.session, ite_none_right_eq_some, map_eq_some_iff] at hs
    obtain ⟨-, sessions, -, rfl⟩ := hs
    exact ⟨sessions, s.gated, rfl⟩
  | register id =>
    simp only [State.session, map_map, map_eq_some_iff] at hs
    obtain ⟨sessions, -, rfl⟩ := hs
    exact ⟨sessions, _, rfl⟩
  | leave id => cases hs
  | recheck id | update snapshot | cancel key | finish =>
    simp only [State.session, map_eq_some_iff] at hs
    obtain ⟨sessions, -, rfl⟩ := hs
    exact ⟨sessions, s.gated, rfl⟩

lemma counted_step (s : State) (a : Action) (s' : State) (h : Counted s) (hok : Punctual s a)
    (hs : step shard grace s a = some s') : Counted s' := by
  cases a with
  | publish target deadline =>
    cases hs
    refine { h with gate := ?_, readAt_le := ?_, unchanged := by simp }
    · simp only [published]
      split
      · rw [h.gate, UInt64.ofNat_add]
        rfl
      · exact h.gate
    · have := h.readAt_le
      dsimp only
      split <;> omega
  | enforce now => exact counted_enforce h hok hs
  | gateCheck id now =>
    obtain ⟨-, rfl⟩ := ite_some_none_eq_some.1 hs
    exact { h with }
  | session a =>
    obtain ⟨sessions, gated, rfl⟩ := session_frame hs
    exact { h with }
  | gateRecheck | serve =>
    dsimp only [step] at hs
    split at hs
    · obtain ⟨-, rfl⟩ := ite_some_none_eq_some.1 hs
      exact { h with }
    · cases hs
  | leave id =>
    cases hs
    exact { h with }
  | wake =>
    dsimp only [step] at hs
    split at hs
    · next hst =>
      obtain ⟨-, rfl⟩ := ite_some_none_eq_some.1 hs
      exact h.of_frame rfl rfl rfl rfl rfl fun _ => h.processed (by rw [hst]; rfl)
    · cases hs
  | graceOver now =>
    dsimp only [step] at hs
    split at hs
    · next hst hc =>
      obtain ⟨-, rfl⟩ := ite_some_none_eq_some.1 hs
      exact h.of_frame rfl rfl rfl rfl rfl fun _ => h.processed (by rw [hst]; rfl)
    · cases hs

/-- **An enforcer that waits has processed every closure**, if it was there from the first one
on. -/
theorem waiting_processed (acts : List Action) (s : State)
    (hm : Meets (step shard grace) Punctual init acts)
    (hr : exec (step shard grace) init acts = some s) (hs : s.enforcer.stage = .waiting)
    (hu : s.changed = false) : s.processed = s.closures := by
  have h := exec_inv_of_meets counted_step counted_init hm hr
  rw [h.unchanged hu]
  exact h.processed (by rw [hs]; rfl)

/-- **No session outlives a closure unseen**: when the enforcer waits with nothing new published,
every session is cancelled or was registered after the last closure. -/
theorem cancelled_or_late (acts : List Action) (s : State)
    (hm : Meets (step shard grace) Punctual init acts)
    (hr : exec (step shard grace) init acts = some s) (hs : s.enforcer.stage = .waiting)
    (hu : s.changed = false) : ∀ key id x, s.sessions.registry key id = some x →
      x.cancelled = true ∨ ∃ g, s.gated id = some g ∧ s.closures ≤ g.born := by
  intro key id x hx
  have hi : Inv shard s := exec_inv inv_step inv_init hr
  obtain ⟨g, hg, hc⟩ := hi.cancelledWhenProcessed key id x hx
  rcases lt_or_ge g.born s.closures with hlt | hle
  · exact .inl (hc s.closures (waiting_processed acts s hm hr hs hu).ge hlt)
  · exact .inr ⟨g, hg, hle⟩

end Counting

theorem cancelled_or_late_briefClosure :
    ∃ s, exec (step (fun _ => (0 : Fin 1)) 30) init (briefClosure ++ [.enforce 112]) = some s ∧
      s.closures = 1 ∧ ∀ key id x, s.sessions.registry key id = some x →
        x.cancelled = true ∨ ∃ g, s.gated id = some g ∧ s.closures ≤ g.born := by
  have hm : Meets (step (fun _ => (0 : Fin 1)) 30) Punctual init
    (briefClosure ++ [.enforce 112]) := by decide
  exact ⟨_, rfl, rfl, cancelled_or_late _ _ hm rfl rfl rfl⟩

end Zecurity.FailClosed
