import Mathlib.Data.Finset.Basic
import Zecurity.FiniteMap
import Zecurity.TunnelAborts

/-!
The tunnel hub of the connector (`connector/src/agent_tunnel.rs`, `AgentTunnelHub`): the Control
streams registered for the shields, the relay sessions and the revoked shields, behind one lock.

Each critical section is one step. A Control stream draws its id from a counter, registers once
and ends once; a session is opened under a fresh connection id and its guard is dropped in two
steps, the abort toward the shield (left out where the session is settled) and the removal.
-/

namespace Zecurity.TunnelHub

open FiniteMap Function Runs TunnelAborts

abbrev ShieldId := String
abbrev ConnectionId := String
abbrev StreamId := ℕ

def defaultShieldTunnelLimit : ℕ := 512
def tcpToShieldQueue : ℕ := 4
def udpToShieldQueue : ℕ := 32

inductive OpenError
  | revoked
  | notConnected
  | shieldLimit
  | connectorLimit (n : ℕ)

inductive Status
  | notFound (text : String)
  | permissionDenied (text : String)
  | alreadyExists (text : String)

structure RelayEntry where
  shieldId : ShieldId
  streamId : StreamId
  udp : Bool
  /-- the sender of the waiting open is still there -/
  pending : Bool

def RelayEntry.on (e : RelayEntry) (shieldId : ShieldId) (streamId : StreamId) : Bool :=
  e.shieldId == shieldId && e.streamId == streamId

variable {e : RelayEntry} {other : StreamId} {clean udp : Bool}

lemma RelayEntry.on_iff {sid x} : e.on sid x = true ↔ e.shieldId = sid ∧ e.streamId = x := by
  simp [RelayEntry.on]

structure HubState where
  /-- the stream registered for a shield; its channel goes with it -/
  shieldTxs : ShieldId → Option StreamId
  abortMailboxes : ShieldId → Option AbortMailbox
  relaySessions : Map ConnectionId RelayEntry
  revoked : Finset ShieldId

namespace HubState

def default : HubState := ⟨fun _ => none, fun _ => none, ∅, ∅⟩

def registerShield (h : HubState) (shieldId : ShieldId) (streamId : StreamId) : HubState × Bool :=
  if shieldId ∈ h.revoked then (h, false)
  else ({ h with shieldTxs := update h.shieldTxs shieldId (some streamId) }, true)

/-- The registrations after a stream has ended. -/
def unregister (h : HubState) (shieldId : ShieldId) (streamId : StreamId) :
    ShieldId → Option StreamId :=
  if h.shieldTxs shieldId = some streamId then update h.shieldTxs shieldId none
  else h.shieldTxs

/-- The stream that takes the tunnels over. -/
def newer (h : HubState) (shieldId : ShieldId) (streamId : StreamId) (clean : Bool) :
    Option StreamId :=
  (h.unregister shieldId streamId shieldId).filter fun id => clean && decide (streamId < id)

/-- The connection ids of the sessions that pass a test. -/
def sessionsThat (h : HubState) (p : RelayEntry → Bool) : List ConnectionId :=
  (retain h.relaySessions fun _ e => p e).keys

structure Ended where
  /-- sessions that were removed and their token cancelled -/
  aborted : List ConnectionId
  handedOver : ℕ

def endStream (h : HubState) (shieldId : ShieldId) (streamId : StreamId) (clean : Bool) :
    HubState × Ended :=
  let shieldTxs := h.unregister shieldId streamId
  let onStream := h.sessionsThat fun e => e.on shieldId streamId
  let abortMailboxes :=
    if shieldTxs shieldId = none then update h.abortMailboxes shieldId none
    else h.abortMailboxes
  match h.newer shieldId streamId clean with
  | some newer =>
    ({ h with
        shieldTxs := shieldTxs
        abortMailboxes := abortMailboxes
        relaySessions := mapValues h.relaySessions fun _ e =>
          if e.on shieldId streamId then { e with streamId := newer } else e },
      ⟨[], onStream.length⟩)
  | none =>
    ({ h with
        shieldTxs := shieldTxs
        abortMailboxes := abortMailboxes
        relaySessions := retain h.relaySessions fun _ e => !e.on shieldId streamId },
      ⟨onStream, 0⟩)

/-- With the sessions whose token is cancelled. -/
def revokeShield (h : HubState) (shieldId : ShieldId) : HubState × List ConnectionId :=
  ({ h with
      revoked := insert shieldId h.revoked
      shieldTxs := update h.shieldTxs shieldId none
      abortMailboxes := update h.abortMailboxes shieldId none
      relaySessions := retain h.relaySessions fun _ e => !(e.shieldId == shieldId) },
    h.sessionsThat fun e => e.shieldId == shieldId)

/-- With the error that the waiting open is told. -/
def dispatchOpened (h : HubState) (fromShield : ShieldId) (connectionId : ConnectionId)
    (ok : Bool) (error : String) : HubState × Option String :=
  match h.relaySessions.lookup connectionId with
  | none => (h, none)
  | some entry =>
    if entry.shieldId ≠ fromShield then (h, none)
    else if entry.pending then
      ({ h with relaySessions := h.relaySessions.erase connectionId },
        some (if ok then "shield does not support dedicated tunnel streams; upgrade the shield"
          else error))
    else (h, none)

/-- `receiving`: the open has not given up. The capacity of the new stream's queue is what is
left of its response. -/
def attach (h : HubState) (shieldId : ShieldId) (connectionId : ConnectionId)
    (receiving : Bool) : HubState × Except Status ℕ :=
  match h.relaySessions.lookup connectionId with
  | none => (h, .error (.notFound "unknown or expired tunnel"))
  | some entry =>
    if entry.shieldId ≠ shieldId then
      (h, .error (.permissionDenied "tunnel belongs to another shield"))
    else if entry.pending = false then
      (h, .error (.alreadyExists "tunnel already has a stream"))
    else if receiving then
      ({ h with
          relaySessions := h.relaySessions.insert connectionId { entry with pending := false } },
        .ok (if entry.udp then udpToShieldQueue else tcpToShieldQueue))
    else
      ({ h with relaySessions := h.relaySessions.erase connectionId },
        .error (.notFound "unknown or expired tunnel"))

def abortOnShield (h : HubState) (connectionId : ConnectionId) (error : String) : HubState :=
  match h.relaySessions.lookup connectionId with
  | none => h
  | some entry =>
    if entry.pending then h
    else
      { h with
        abortMailboxes := update h.abortMailboxes entry.shieldId
          (some (((h.abortMailboxes entry.shieldId).getD .default).post connectionId error)) }

def abortMailbox (h : HubState) (shieldId : ShieldId) : HubState × AbortMailbox :=
  let mailbox := (h.abortMailboxes shieldId).getD .default
  ({ h with abortMailboxes := update h.abortMailboxes shieldId (some mailbox) }, mailbox)

/-- The critical section of `open`. -/
def admitSession (h : HubState) (limit : ℕ) (shieldId : ShieldId) (connectionId : ConnectionId)
    (udp : Bool) : HubState × Except OpenError StreamId :=
  if shieldId ∈ h.revoked then (h, .error .revoked)
  else
    match h.shieldTxs shieldId with
    | none => (h, .error .notConnected)
    | some streamId =>
      if limit ≤ size h.relaySessions then (h, .error (.connectorLimit limit))
      else if maxTunnelsPerShield ≤ count h.relaySessions (·.shieldId == shieldId) then
        (h, .error .shieldLimit)
      else
        ({ h with
            relaySessions := h.relaySessions.insert connectionId ⟨shieldId, streamId, udp, true⟩ },
          .ok streamId)

/-- The last act of a guard. -/
def remove (h : HubState) (connectionId : ConnectionId) : HubState :=
  { h with relaySessions := h.relaySessions.erase connectionId }

/-! What each operation does to the registrations and the sessions. -/

variable {h h' : HubState} {sid : ShieldId} {x : StreamId} {cn : ConnectionId}

lemma unregister_eq_some {sh} :
    h.unregister sid x sh = some other ↔
      h.shieldTxs sh = some other ∧ ¬ (sh = sid ∧ other = x) := by
  unfold unregister
  grind

lemma of_newer_eq_some (hn : h.newer sid x clean = some other) :
    h.unregister sid x sid = some other := (Option.filter_eq_some_iff.1 hn).1

lemma endStream_shieldTxs (clean : Bool) :
    (h.endStream sid x clean).1.shieldTxs = h.unregister sid x := by
  unfold endStream
  split <;> rfl

lemma endStream_revoked (clean : Bool) : (h.endStream sid x clean).1.revoked = h.revoked := by
  unfold endStream
  split <;> rfl

lemma endStream_session {e'} (hl : (h.endStream sid x clean).1.relaySessions.lookup cn = some e') :
    ∃ e, h.relaySessions.lookup cn = some e ∧ (e.on sid x = false ∧ e' = e ∨
        e.on sid x = true ∧ ∃ newer, h.newer sid x clean = some newer ∧
          e' = { e with streamId := newer }) := by
  unfold endStream at hl
  split at hl
  · next newer hn =>
    rw [lookup_mapValues] at hl
    obtain ⟨e, he, rfl⟩ := Option.map_eq_some_iff.1 hl
    refine ⟨e, he, ?_⟩
    cases hon : e.on sid x with
    | false => exact .inl ⟨rfl, by simp⟩
    | true => exact .inr ⟨rfl, newer, hn, by simp⟩
  · obtain ⟨he, ho⟩ := lookup_retain_eq_some.1 hl
    exact ⟨e', he, .inl ⟨by simpa using ho, rfl⟩⟩

lemma endStream_other (hl : h.relaySessions.lookup cn = some e) (ho : e.on sid x = false) :
    (h.endStream sid x clean).1.relaySessions.lookup cn = some e := by
  unfold endStream
  split
  · rw [lookup_mapValues, hl]
    simp [ho]
  · exact lookup_retain_eq_some.2 ⟨hl, by simp [ho]⟩

lemma dispatchOpened_cases (h : HubState) (fromShield : ShieldId) (cn : ConnectionId)
    (ok : Bool) (error : String) :
    (h.dispatchOpened fromShield cn ok error).1 = h ∨
      (h.dispatchOpened fromShield cn ok error).1 = h.remove cn := by
  unfold dispatchOpened
  split
  · exact .inl rfl
  · split
    · exact .inl rfl
    · split
      · exact .inr rfl
      · exact .inl rfl

variable {receiving : Bool}

lemma attach_error {st} (ha : h.attach sid cn receiving = (h', .error st)) :
    h' = h ∨ h' = h.remove cn := by
  unfold attach at ha
  split at ha
  · cases ha
    exact .inl rfl
  · split at ha
    · cases ha
      exact .inl rfl
    · split at ha
      · cases ha
        exact .inl rfl
      · split at ha <;> cases ha
        exact .inr rfl

lemma attach_ok {queue} (ha : h.attach sid cn receiving = (h', .ok queue)) :
    ∃ entry, h.relaySessions.lookup cn = some entry ∧ entry.shieldId = sid ∧
      entry.pending = true ∧ h' = { h with
        relaySessions := h.relaySessions.insert cn { entry with pending := false } } := by
  unfold attach at ha
  grind

lemma abortOnShield_eq (h : HubState) (cn : ConnectionId) (error : String) :
    ∃ mbs, h.abortOnShield cn error = { h with abortMailboxes := mbs } := by
  unfold abortOnShield
  split
  · exact ⟨_, rfl⟩
  · split <;> exact ⟨_, rfl⟩

lemma admitSession_ok {limit} (ha : h.admitSession limit sid cn udp = (h', .ok x)) :
    sid ∉ h.revoked ∧ h.shieldTxs sid = some x ∧ size h.relaySessions < limit ∧
      count h.relaySessions (·.shieldId == sid) < maxTunnelsPerShield ∧ h' = { h with
        relaySessions := h.relaySessions.insert cn ⟨sid, x, udp, true⟩ } := by
  unfold admitSession at ha
  grind

end HubState

/-! ### The hub and those who call it -/

inductive StreamPhase
  | admitted
  | registered
  | ended

structure Stream where
  shieldId : ShieldId
  phase : StreamPhase

inductive GuardPhase
  | held
  | aborted
  | dropped
  deriving DecidableEq

/-- The call of `open` that the session was made for, and its guard. -/
structure Owner where
  shieldId : ShieldId
  receiving : Bool
  guard : GuardPhase

structure State where
  hub : HubState
  limit : ℕ
  nextStreamId : StreamId
  streams : StreamId → Option Stream
  owners : ConnectionId → Option Owner
  cancelled : List ConnectionId
  /-- the Tunnel streams that `attach` has bound, with the shield that opened each -/
  bound : List (ConnectionId × ShieldId)

def init : State where
  hub := .default
  limit := defaultShieldTunnelLimit
  nextStreamId := 0
  streams _ := none
  owners _ := none
  cancelled := []
  bound := []

def State.setStream (s : State) (streamId : StreamId) (stream : Stream) : State :=
  { s with streams := update s.streams streamId (some stream) }

def State.setOwner (s : State) (connectionId : ConnectionId) (owner : Owner) : State :=
  { s with owners := update s.owners connectionId (some owner) }

inductive Action
  | setTunnelLimit (limit : ℕ)
  | connect (shieldId : ShieldId)
  | registerShield (streamId : StreamId)
  | abortMailbox (shieldId : ShieldId)
  | endStream (streamId : StreamId) (clean : Bool)
  | revokeShield (shieldId : ShieldId)
  | openSession (shieldId : ShieldId) (connectionId : ConnectionId) (udp : Bool)
  | giveUp (connectionId : ConnectionId)
  | dispatchOpened (fromShield : ShieldId) (connectionId : ConnectionId) (ok : Bool)
      (error : String)
  | attach (shieldId : ShieldId) (connectionId : ConnectionId)
  | guardAbort (connectionId : ConnectionId)
  | guardRemove (connectionId : ConnectionId)

def step (s : State) : Action → Option State
  | .setTunnelLimit limit => some { s with limit := max limit 1 }
  | .connect shieldId =>
    some { s.setStream s.nextStreamId ⟨shieldId, .admitted⟩ with
      nextStreamId := s.nextStreamId + 1 }
  | .registerShield streamId =>
    match s.streams streamId with
    | some ⟨shieldId, .admitted⟩ =>
      let (hub, registered) := s.hub.registerShield shieldId streamId
      some { s.setStream streamId ⟨shieldId, if registered then .registered else .ended⟩ with
        hub := hub }
    | _ => none
  | .abortMailbox shieldId => some { s with hub := (s.hub.abortMailbox shieldId).1 }
  | .endStream streamId clean =>
    match s.streams streamId with
    | some ⟨shieldId, .registered⟩ =>
      let (hub, ended) := s.hub.endStream shieldId streamId clean
      some { s.setStream streamId ⟨shieldId, .ended⟩ with
        hub := hub
        cancelled := ended.aborted ++ s.cancelled }
    | _ => none
  | .revokeShield shieldId =>
    let (hub, aborted) := s.hub.revokeShield shieldId
    some { s with hub := hub, cancelled := aborted ++ s.cancelled }
  | .openSession shieldId connectionId udp =>
    match s.owners connectionId with
    | some _ => none
    | none =>
      match s.hub.admitSession s.limit shieldId connectionId udp with
      | (_, .error _) => some s
      | (hub, .ok _) =>
        some { s.setOwner connectionId ⟨shieldId, true, .held⟩ with hub := hub }
  | .giveUp connectionId =>
    match s.owners connectionId with
    | some owner => some (s.setOwner connectionId { owner with receiving := false })
    | none => none
  | .dispatchOpened fromShield connectionId ok error =>
    some { s with hub := (s.hub.dispatchOpened fromShield connectionId ok error).1 }
  | .attach shieldId connectionId =>
    let receiving := (s.owners connectionId).elim false Owner.receiving
    match s.hub.attach shieldId connectionId receiving with
    | (hub, .error _) => some { s with hub := hub }
    | (hub, .ok _) => some { s with hub := hub, bound := (connectionId, shieldId) :: s.bound }
  | .guardAbort connectionId =>
    match s.owners connectionId with
    | some ⟨shieldId, receiving, .held⟩ =>
      some { s.setOwner connectionId ⟨shieldId, receiving, .aborted⟩ with
        hub := s.hub.abortOnShield connectionId "session ended"
        cancelled := connectionId :: s.cancelled }
    | _ => none
  | .guardRemove connectionId =>
    match s.owners connectionId with
    | some owner =>
      if owner.guard = .dropped then none
      else
        some { s.setOwner connectionId { owner with guard := .dropped } with
          hub := s.hub.remove connectionId }
    | none => none

/-! ### What is to hold -/

/-- The session's place in the hub. -/
abbrev State.session (s : State) (connectionId : ConnectionId) : Option RelayEntry :=
  s.hub.relaySessions.lookup connectionId

/-- The stream was registered at the hub and has not ended. -/
def State.Serves (s : State) (streamId : StreamId) (shieldId : ShieldId) : Prop :=
  s.streams streamId = some ⟨shieldId, .registered⟩

/-- What every step of a run must be like. -/
structure HubStep (s : State) (a : Action) (s' : State) : Prop where
  /-- a session names a stream of its shield that is registered and has not ended -/
  session_serves : ∀ connectionId e, s'.session connectionId = some e →
    s'.Serves e.streamId e.shieldId
  revoked_unregistered : ∀ shieldId ∈ s'.hub.revoked, s'.hub.shieldTxs shieldId = none
  revoked_without_session : ∀ shieldId ∈ s'.hub.revoked, ∀ connectionId e,
    s'.session connectionId = some e → e.shieldId ≠ shieldId
  /-- a session that enters keeps both budgets -/
  budget : ∀ connectionId e, s.session connectionId = none →
    s'.session connectionId = some e →
    count s'.hub.relaySessions (·.shieldId == e.shieldId) ≤ maxTunnelsPerShield ∧
      size s'.hub.relaySessions ≤ s'.limit
  bound_once : (s'.bound.map Prod.fst).Nodup
  /-- the Tunnel stream was opened by the shield that the session was opened for -/
  bound_own : ∀ connectionId shieldId, (connectionId, shieldId) ∈ s'.bound →
    ∃ owner, s'.owners connectionId = some owner ∧ owner.shieldId = shieldId
  end_own : ∀ streamId clean, a = .endStream streamId clean →
    (∀ shieldId other, other ≠ streamId → s.hub.shieldTxs shieldId = some other →
      s'.hub.shieldTxs shieldId = some other) ∧
    ∀ connectionId e, e.streamId ≠ streamId → s.session connectionId = some e →
      s'.session connectionId = some e

/-! ### The invariant -/

structure Inv (s : State) : Prop where
  fresh : ∀ streamId, s.nextStreamId ≤ streamId → s.streams streamId = none
  registered_serves : ∀ shieldId streamId, s.hub.shieldTxs shieldId = some streamId →
    s.Serves streamId shieldId
  session_serves : ∀ connectionId e, s.session connectionId = some e →
    s.Serves e.streamId e.shieldId
  revoked_unregistered : ∀ shieldId ∈ s.hub.revoked, s.hub.shieldTxs shieldId = none
  revoked_without_session : ∀ shieldId ∈ s.hub.revoked, ∀ connectionId e,
    s.session connectionId = some e → e.shieldId ≠ shieldId
  owned : ∀ connectionId e, s.session connectionId = some e →
    ∃ owner, s.owners connectionId = some owner ∧ owner.shieldId = e.shieldId
  pending_unbound : ∀ connectionId e, s.session connectionId = some e → e.pending = true →
    connectionId ∉ s.bound.map Prod.fst
  bound_once : (s.bound.map Prod.fst).Nodup
  bound_own : ∀ connectionId shieldId, (connectionId, shieldId) ∈ s.bound →
    ∃ owner, s.owners connectionId = some owner ∧ owner.shieldId = shieldId

lemma inv_init : Inv init where
  fresh _ _ := rfl
  registered_serves _ _ h := by cases h
  session_serves _ _ h := by cases h
  revoked_unregistered _ _ := rfl
  revoked_without_session _ _ _ _ h := by cases h
  owned _ _ h := by cases h
  pending_unbound _ _ h := by cases h
  bound_once := List.nodup_nil
  bound_own _ _ h := by cases h

variable {s s' : State}

/-- A step that adds nothing to the hub but revocations. -/
structure Shrinks (s s' : State) : Prop where
  next : s'.nextStreamId = s.nextStreamId
  streams : s'.streams = s.streams
  registered : ∀ shieldId streamId, s'.hub.shieldTxs shieldId = some streamId →
    s.hub.shieldTxs shieldId = some streamId
  sessions : ∀ connectionId e, s'.session connectionId = some e →
    s.session connectionId = some e
  revoked : ∀ shieldId ∈ s'.hub.revoked, shieldId ∈ s.hub.revoked ∨
    s'.hub.shieldTxs shieldId = none ∧
      ∀ connectionId e, s'.session connectionId = some e → e.shieldId ≠ shieldId
  stayRevoked : s.hub.revoked ⊆ s'.hub.revoked
  owners : ∀ connectionId owner, s.owners connectionId = some owner →
    ∃ owner', s'.owners connectionId = some owner' ∧ owner'.shieldId = owner.shieldId
  bound : s'.bound = s.bound

lemma setOwner_owners {cn owner owner'} (hown : s.owners cn = some owner)
    (hs : owner'.shieldId = owner.shieldId) (c : ConnectionId) (o : Owner)
    (ho : s.owners c = some o) :
    ∃ o', (s.setOwner cn owner').owners c = some o' ∧ o'.shieldId = o.shieldId := by
  by_cases hc : c = cn
  · subst hc
    cases hown.symm.trans ho
    exact ⟨owner', update_self _ _ _, hs⟩
  · exact ⟨o, (update_of_ne hc _ _).trans ho, rfl⟩

lemma Inv.of_shrinks (h : Inv s) (hs : Shrinks s s') : Inv s' where
  fresh x hle := by
    rw [hs.streams]
    exact h.fresh x (hs.next ▸ hle)
  registered_serves sid x htx := by
    rw [State.Serves, hs.streams]
    exact h.registered_serves sid x (hs.registered sid x htx)
  session_serves cn e he := by
    rw [State.Serves, hs.streams]
    exact h.session_serves cn e (hs.sessions cn e he)
  revoked_unregistered sid hr := by
    rcases hs.revoked sid hr with hold | ⟨hn, -⟩
    · have hn := h.revoked_unregistered sid hold
      cases htx : s'.hub.shieldTxs sid with
      | none => rfl
      | some x =>
        rw [hs.registered sid x htx] at hn
        cases hn
    · exact hn
  revoked_without_session sid hr cn e he := by
    rcases hs.revoked sid hr with hold | ⟨-, hn⟩
    · exact h.revoked_without_session sid hold cn e (hs.sessions cn e he)
    · exact hn cn e he
  owned cn e he := by
    obtain ⟨owner, ho, hsh⟩ := h.owned cn e (hs.sessions cn e he)
    obtain ⟨owner', ho', hs'⟩ := hs.owners cn owner ho
    exact ⟨owner', ho', hs'.trans hsh⟩
  pending_unbound cn e he hp := by
    rw [hs.bound]
    exact h.pending_unbound cn e (hs.sessions cn e he) hp
  bound_once := by
    rw [hs.bound]
    exact h.bound_once
  bound_own cn sid hm := by
    rw [hs.bound] at hm
    obtain ⟨owner, ho, hsh⟩ := h.bound_own cn sid hm
    obtain ⟨owner', ho', hs'⟩ := hs.owners cn owner ho
    exact ⟨owner', ho', hs'.trans hsh⟩

lemma Shrinks.of_sessions (hn : s'.nextStreamId = s.nextStreamId)
    (hst : s'.streams = s.streams) (ht : s'.hub.shieldTxs = s.hub.shieldTxs)
    (hr : s'.hub.revoked = s.hub.revoked) (hb : s'.bound = s.bound)
    (hs : ∀ cn e, s'.session cn = some e → s.session cn = some e)
    (ho : ∀ cn owner, s.owners cn = some owner →
      ∃ owner', s'.owners cn = some owner' ∧ owner'.shieldId = owner.shieldId) :
    Shrinks s s' where
  next := hn
  streams := hst
  registered sid x htx := by rw [← ht, htx]
  sessions := hs
  revoked sid hrev := .inl (hr ▸ hrev)
  stayRevoked := hr.ge
  owners := ho
  bound := hb

lemma shrinks_remove {hub cn} (h : hub = s.hub ∨ hub = s.hub.remove cn) :
    Shrinks s { s with hub := hub } := by
  rcases h with rfl | rfl
  · exact .of_sessions rfl rfl rfl rfl rfl (fun _ _ => id) fun _ o ho => ⟨o, ho, rfl⟩
  · exact .of_sessions rfl rfl rfl rfl rfl (fun _ _ he => (lookup_erase_eq_some.1 he).1)
      fun _ o ho => ⟨o, ho, rfl⟩

/-! ### What a step does -/

/-- A step registers a stream or ends one, lets a session in or binds one, or only takes from the
hub. -/
inductive Step (s : State) : State → Prop
  | shrinks {s' : State} (h : Shrinks s s') : Step s s'
  | connect {shieldId : ShieldId} : Step s
      { s.setStream s.nextStreamId ⟨shieldId, .admitted⟩ with nextStreamId := s.nextStreamId + 1 }
  | refuse {streamId : StreamId} {shieldId : ShieldId}
      (hstream : s.streams streamId = some ⟨shieldId, .admitted⟩) :
      Step s (s.setStream streamId ⟨shieldId, .ended⟩)
  | register {streamId : StreamId} {shieldId : ShieldId}
      (hstream : s.streams streamId = some ⟨shieldId, .admitted⟩)
      (hrevoked : shieldId ∉ s.hub.revoked) :
      Step s { s.setStream streamId ⟨shieldId, .registered⟩ with
        hub := { s.hub with shieldTxs := update s.hub.shieldTxs shieldId (some streamId) } }
  | endStream {streamId : StreamId} {shieldId : ShieldId} {clean : Bool}
      (hstream : s.Serves streamId shieldId) :
      Step s { s.setStream streamId ⟨shieldId, .ended⟩ with
        hub := (s.hub.endStream shieldId streamId clean).1
        cancelled := (s.hub.endStream shieldId streamId clean).2.aborted ++ s.cancelled }
  | openSession {shieldId : ShieldId} {connectionId : ConnectionId} {streamId : StreamId}
      {udp : Bool} (hnew : s.owners connectionId = none)
      (hrevoked : shieldId ∉ s.hub.revoked) (htx : s.hub.shieldTxs shieldId = some streamId)
      (hlimit : size s.hub.relaySessions < s.limit)
      (hshield : count s.hub.relaySessions (·.shieldId == shieldId) < maxTunnelsPerShield) :
      Step s { s.setOwner connectionId ⟨shieldId, true, .held⟩ with
        hub := { s.hub with
          relaySessions := s.hub.relaySessions.insert connectionId
            ⟨shieldId, streamId, udp, true⟩ } }
  | attach {connectionId : ConnectionId} {e : RelayEntry}
      (hentry : s.session connectionId = some e) (hpending : e.pending = true) :
      Step s { s with
        hub := { s.hub with
          relaySessions := s.hub.relaySessions.insert connectionId { e with pending := false } }
        bound := (connectionId, e.shieldId) :: s.bound }

lemma shrinks_revokeShield {sid} (hs : step s (.revokeShield sid) = some s') : Shrinks s s' := by
  cases hs
  refine ⟨rfl, rfl, fun sh st htx => ?_, fun c e he => (lookup_retain_eq_some.1 he).1,
    fun sh hr => ?_, Finset.subset_insert _ _, fun _ o ho => ⟨o, ho, rfl⟩, rfl⟩
  · simp only [update_apply] at htx
    split at htx
    · cases htx
    · exact htx
  · rcases Finset.mem_insert.1 hr with rfl | hold
    · refine .inr ⟨update_self _ _ _, fun c e he => ?_⟩
      simpa using (lookup_retain_eq_some.1 he).2
    · exact .inl hold

lemma endStream_eq_some {x} (hs : step s (.endStream x clean) = some s') :
    ∃ sid, s.Serves x sid ∧ s' = { s.setStream x ⟨sid, .ended⟩ with
        hub := (s.hub.endStream sid x clean).1
        cancelled := (s.hub.endStream sid x clean).2.aborted ++ s.cancelled } := by
  dsimp only [step] at hs
  split at hs <;> cases hs
  next sid hst => exact ⟨sid, hst, rfl⟩

variable {a : Action} {st : Stream}

lemma step_cases (hs : step s a = some s') : Step s s' := by
  cases a with
  | setTunnelLimit | abortMailbox =>
    cases hs
    exact .shrinks (.of_sessions rfl rfl rfl rfl rfl (fun _ _ => id) fun _ o ho => ⟨o, ho, rfl⟩)
  | connect sid =>
    cases hs
    exact .connect
  | registerShield x =>
    dsimp only [step] at hs
    split at hs <;> cases hs
    next sid hst =>
      unfold HubState.registerShield
      split
      · exact .refuse hst
      · next hr => exact .register hst hr
  | endStream x clean =>
    obtain ⟨sid, hst, rfl⟩ := endStream_eq_some hs
    exact .endStream hst
  | revokeShield sid => exact .shrinks (shrinks_revokeShield hs)
  | openSession sid cn udp =>
    dsimp only [step] at hs
    split at hs
    · cases hs
    · next hn =>
      split at hs
      · cases hs
        exact .shrinks (@shrinks_remove _ _ cn (.inl rfl))
      · next hadm =>
        cases hs
        obtain ⟨hr, htx, hl, hsh, rfl⟩ := HubState.admitSession_ok hadm
        exact .openSession hn hr htx hl hsh
  | giveUp cn =>
    dsimp only [step] at hs
    split at hs <;> cases hs
    next owner ho =>
      exact .shrinks (.of_sessions rfl rfl rfl rfl rfl (fun _ _ => id) (setOwner_owners ho rfl))
  | dispatchOpened fromShield cn ok error =>
    cases hs
    exact .shrinks (shrinks_remove (s.hub.dispatchOpened_cases fromShield cn ok error))
  | attach sid cn =>
    dsimp only [step] at hs
    split at hs
    · next ha =>
      cases hs
      exact .shrinks (shrinks_remove (HubState.attach_error ha))
    · next ha =>
      cases hs
      obtain ⟨entry, hen, rfl, hp, rfl⟩ := HubState.attach_ok ha
      exact .attach hen hp
  | guardAbort cn =>
    dsimp only [step] at hs
    split at hs <;> cases hs
    next sid receiving ho =>
      obtain ⟨mbs, hh⟩ := s.hub.abortOnShield_eq cn "session ended"
      rw [hh]
      exact .shrinks (.of_sessions rfl rfl rfl rfl rfl (fun _ _ => id) (setOwner_owners ho rfl))
  | guardRemove cn =>
    dsimp only [step] at hs
    split at hs
    · next owner ho =>
      obtain ⟨-, hs⟩ := Option.ite_none_left_eq_some.1 hs
      cases hs
      exact .shrinks (.of_sessions rfl rfl rfl rfl rfl (fun _ _ he => (lookup_erase_eq_some.1 he).1)
        (setOwner_owners ho rfl))
    · cases hs

/-! ### The invariant is kept -/

lemma serves_setStream {x sid} (h : s.Serves other sid) (hne : other ≠ x) :
    (s.setStream x st).Serves other sid := (update_of_ne hne _ _).trans h

section Steps

variable {x : StreamId} {sid : ShieldId} {cn : ConnectionId} (h : Inv s)
include h

lemma Inv.setStream {stream next} (hnot : ∀ sh, ¬s.Serves x sh) (hnx : s.nextStreamId ≤ next)
    (hlt : x < next) : Inv { s.setStream x stream with nextStreamId := next } := by
  have ho : ∀ {st sh}, s.Serves st sh → st ≠ x := by
    rintro st sh hs rfl
    exact hnot sh hs
  refine { h with fresh := fun n hn => ?_, registered_serves := fun sh st htx => ?_,
                  session_serves := fun c e he => ?_ }
  · exact (update_of_ne (hlt.trans_le hn).ne' _ _).trans (h.fresh n (hnx.trans hn))
  · have hs := h.registered_serves sh st htx
    exact serves_setStream hs (ho hs)
  · have hs := h.session_serves c e he
    exact serves_setStream hs (ho hs)

lemma Inv.lt_next (hs : s.streams x = some st) : x < s.nextStreamId := by
  by_contra hle
  rw [h.fresh x (not_lt.1 hle)] at hs
  cases hs

lemma Inv.connect : Inv { s.setStream s.nextStreamId ⟨sid, .admitted⟩ with
    nextStreamId := s.nextStreamId + 1 } := by
  refine h.setStream (fun sh hs => ?_) (Nat.le_succ _) (Nat.lt_succ_self _)
  rw [State.Serves, h.fresh s.nextStreamId le_rfl] at hs
  cases hs

lemma Inv.admitted (hst : s.streams x = some ⟨sid, .admitted⟩) (st : Stream) :
    Inv (s.setStream x st) := by
  refine h.setStream (fun sh hs => ?_) le_rfl (h.lt_next hst)
  rw [State.Serves, hst] at hs
  cases hs

lemma Inv.register (hs : s.streams x = some ⟨sid, .admitted⟩) (hr : sid ∉ s.hub.revoked) :
    Inv { s.setStream x ⟨sid, .registered⟩ with
      hub := { s.hub with shieldTxs := update s.hub.shieldTxs sid (some x) } } := by
  have hset := h.admitted hs ⟨sid, .registered⟩
  refine { hset with registered_serves := fun sh st htx => ?_
                     revoked_unregistered := fun sh hsh => ?_ }
  · rcases update_apply_eq_iff.1 htx with ⟨rfl, ⟨⟩⟩ | ⟨-, hold⟩
    · exact update_self _ _ _
    · exact hset.registered_serves sh st hold
  · have hne : sh ≠ sid := fun heq => hr (heq ▸ hsh)
    exact (update_of_ne hne _ _).trans (h.revoked_unregistered sh hsh)

omit h in
lemma Serves.unique {shieldId'} (h : s.Serves x sid)
    (h' : s.Serves x shieldId') : sid = shieldId' := by
  have heq := h.symm.trans h'
  simpa using heq

lemma endStream_session_serves {e'} (hst : s.Serves x sid)
    (hl : (s.hub.endStream sid x clean).1.relaySessions.lookup cn = some e') :
    ∃ e, s.session cn = some e ∧ e'.shieldId = e.shieldId ∧ e'.pending = e.pending ∧
      s.Serves e'.streamId e'.shieldId ∧ e'.streamId ≠ x := by
  obtain ⟨e, hold, ⟨ho, rfl⟩ | ⟨hon, newer, hn, rfl⟩⟩ := HubState.endStream_session hl
  · have hs := h.session_serves cn e' hold
    refine ⟨e', hold, rfl, rfl, hs, fun heq => ?_⟩
    have hsh : e'.shieldId = sid := Serves.unique (heq ▸ hs) hst
    rw [RelayEntry.on_iff.2 ⟨hsh, heq⟩] at ho
    cases ho
  · obtain ⟨rfl, -⟩ := RelayEntry.on_iff.1 hon
    obtain ⟨htx, hne⟩ := HubState.unregister_eq_some.1 (HubState.of_newer_eq_some hn)
    exact ⟨e, hold, rfl, rfl, h.registered_serves _ _ htx, fun heq => hne ⟨rfl, heq⟩⟩

lemma Inv.endStream (hs : s.Serves x sid) :
    Inv { s.setStream x ⟨sid, .ended⟩ with
      hub := (s.hub.endStream sid x clean).1
      cancelled := (s.hub.endStream sid x clean).2.aborted ++ s.cancelled } := by
  refine { fresh := fun n hn => ?_, registered_serves := fun sh st htx => ?_,
           session_serves := fun c e he => ?_, revoked_unregistered := fun sh hsh => ?_,
           revoked_without_session := fun sh hsh c e he => ?_, owned := fun c e he => ?_,
           pending_unbound := fun c e he hp => ?_, bound_once := h.bound_once,
           bound_own := h.bound_own }
  · exact (update_of_ne ((h.lt_next hs).trans_le hn).ne' _ _).trans (h.fresh n hn)
  · rw [HubState.endStream_shieldTxs] at htx
    obtain ⟨hold, hne⟩ := HubState.unregister_eq_some.1 htx
    have hsr := h.registered_serves sh st hold
    refine serves_setStream hsr ?_
    rintro rfl
    exact hne ⟨Serves.unique hsr hs, rfl⟩
  · obtain ⟨-, -, -, -, hsr, hne⟩ := endStream_session_serves h hs he
    exact serves_setStream hsr hne
  · rw [HubState.endStream_revoked] at hsh
    rw [HubState.endStream_shieldTxs]
    cases htx : s.hub.unregister sid x sh with
    | none => rfl
    | some other =>
      have hold := (HubState.unregister_eq_some.1 htx).1
      rw [h.revoked_unregistered sh hsh] at hold
      cases hold
  · rw [HubState.endStream_revoked] at hsh
    obtain ⟨e0, hold, hshl, -⟩ := endStream_session_serves h hs he
    rw [hshl]
    exact h.revoked_without_session sh hsh c e0 hold
  · obtain ⟨e0, hold, hshl, -⟩ := endStream_session_serves h hs he
    rw [hshl]
    exact h.owned c e0 hold
  · obtain ⟨e0, hold, -, hpn, -⟩ := endStream_session_serves h hs he
    exact h.pending_unbound c e0 hold (hpn ▸ hp)

lemma Inv.openSession (hn : s.owners cn = none) (hr : sid ∉ s.hub.revoked)
    (htx : s.hub.shieldTxs sid = some x) :
    Inv { s.setOwner cn ⟨sid, true, .held⟩ with
      hub := { s.hub with relaySessions :=
        s.hub.relaySessions.insert cn ⟨sid, x, udp, true⟩ } } := by
  have hown : ∀ c o, s.owners c = some o →
      (s.setOwner cn ⟨sid, true, .held⟩).owners c = some o := by
    intro c o ho
    refine (update_of_ne ?_ _ _).trans ho
    rintro rfl
    cases hn.symm.trans ho
  refine { h with session_serves := forall_lookup_insert h.session_serves ?_
                  revoked_without_session := fun sh hsh => ?_
                  owned := fun c e he => ?_, pending_unbound := fun c e he hp => ?_
                  bound_own := fun c sh hm => ?_ }
  · exact h.registered_serves sid x htx
  · refine forall_lookup_insert (h.revoked_without_session sh hsh) ?_
    rintro rfl
    exact hr hsh
  · rcases lookup_insert_eq_some.1 he with ⟨rfl, rfl⟩ | ⟨-, hold⟩
    · exact ⟨_, update_self _ _ _, rfl⟩
    · obtain ⟨o, ho, hs⟩ := h.owned c e hold
      exact ⟨o, hown c o ho, hs⟩
  · rcases lookup_insert_eq_some.1 he with ⟨rfl, rfl⟩ | ⟨-, hold⟩
    · -- the id is fresh, so nothing was bound to it
      intro hm
      obtain ⟨⟨c, sh⟩, hm, rfl⟩ := List.mem_map.1 hm
      obtain ⟨o, ho, -⟩ := h.bound_own c sh hm
      cases hn.symm.trans ho
    · exact h.pending_unbound c e hold hp
  · obtain ⟨o, ho, hs⟩ := h.bound_own c sh hm
    exact ⟨o, hown c o ho, hs⟩

lemma Inv.attach (hen : s.session cn = some e) (hp : e.pending = true) :
    Inv { s with
      hub := { s.hub with
        relaySessions := s.hub.relaySessions.insert cn { e with pending := false } }
      bound := (cn, e.shieldId) :: s.bound } := by
  refine { h with session_serves := ?_, revoked_without_session := fun sh hsh => ?_
                  owned := ?_, pending_unbound := fun c e he hpn => ?_
                  bound_once := ?_, bound_own := fun c sh hm => ?_ }
  · exact forall_lookup_insert h.session_serves (h.session_serves _ e hen)
  · exact forall_lookup_insert (h.revoked_without_session sh hsh)
      (h.revoked_without_session sh hsh _ e hen)
  · exact forall_lookup_insert h.owned (h.owned _ e hen)
  · rcases lookup_insert_eq_some.1 he with ⟨rfl, rfl⟩ | ⟨hne, hold⟩
    · cases hpn
    · rw [List.map_cons, List.mem_cons]
      rintro (heq | hm)
      · exact hne heq
      · exact h.pending_unbound c e hold hpn hm
  · rw [List.map_cons, List.nodup_cons]
    exact ⟨h.pending_unbound cn e hen hp, h.bound_once⟩
  · rcases List.mem_cons.1 hm with heq | hm
    · obtain ⟨rfl, rfl⟩ := Prod.mk.inj heq
      exact h.owned c e hen
    · exact h.bound_own c sh hm

end Steps

lemma inv_step (h : Inv s) (hs : step s a = some s') : Inv s' := by
  cases step_cases hs with
  | shrinks hsh => exact h.of_shrinks hsh
  | connect => exact h.connect
  | refuse hst => exact h.admitted hst _
  | register hst hr => exact h.register hst hr
  | endStream hst => exact h.endStream hst
  | openSession hn hr htx hl hshl => exact h.openSession hn hr htx
  | attach he hp => exact h.attach he hp

lemma revoked_subset (hs : step s a = some s') : s.hub.revoked ⊆ s'.hub.revoked := by
  cases step_cases hs with
  | shrinks hsh => exact hsh.stayRevoked
  | endStream hst => rw [HubState.endStream_revoked]
  | connect | refuse | register | openSession | attach => exact Finset.Subset.refl _

/-! ### The budgets -/

lemma budget_step (hs : step s a = some s') {cn} (hnn : s.session cn = none)
    (he : s'.session cn = some e) :
    count s'.hub.relaySessions (·.shieldId == e.shieldId) ≤ maxTunnelsPerShield ∧
      size s'.hub.relaySessions ≤ s'.limit := by
  have hn : ∀ e0, s.session cn ≠ some e0 := by simp [hnn]
  cases step_cases hs with
  | shrinks hsh => exact absurd (hsh.sessions cn e he) (hn e)
  | connect | refuse | register => exact absurd he (hn e)
  | endStream hst =>
    obtain ⟨e0, hold, -⟩ := HubState.endStream_session he
    exact absurd hold (hn e0)
  | openSession hnew hr htx hl hshl =>
    rcases lookup_insert_eq_some.1 he with ⟨rfl, rfl⟩ | ⟨-, hold⟩
    · constructor
      · rw [count_insert hnn]
        simp only [beq_self_eq_true, if_true]
        omega
      · rw [size_insert hnn]
        exact hl
    · exact absurd hold (hn e)
  | attach hen hp =>
    rcases lookup_insert_eq_some.1 he with ⟨rfl, -⟩ | ⟨-, hold⟩
    · exact absurd hen (hn _)
    · exact absurd hold (hn e)

/-! ### Old streams and new -/

/-- **The tunnel hub**: every step of every run is as `HubStep` says. -/
theorem hubStep_always (acts : List Action) : Always step HubStep init acts := by
  intro pre a post s s' _ hex hs
  have hi : Inv s := exec_inv (fun _ _ _ h hs => inv_step h hs) inv_init hex
  have hi' : Inv s' := inv_step hi hs
  exact
    { session_serves := hi'.session_serves
      revoked_unregistered := hi'.revoked_unregistered
      revoked_without_session := hi'.revoked_without_session
      budget := fun _ _ hn he => budget_step hs hn he
      bound_once := hi'.bound_once
      bound_own := hi'.bound_own
      end_own := by
        rintro streamId clean rfl
        obtain ⟨shieldId, hst, rfl⟩ := endStream_eq_some hs
        refine ⟨fun sh other hne htx => ?_, fun c e hne he => HubState.endStream_other he ?_⟩
        · dsimp only
          rw [HubState.endStream_shieldTxs]
          exact HubState.unregister_eq_some.2 ⟨htx, fun h => hne h.2⟩
        · rw [← Bool.not_eq_true, RelayEntry.on_iff]
          exact fun h => hne h.2 }

end Zecurity.TunnelHub
