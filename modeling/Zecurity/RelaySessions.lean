import Zecurity.RelayRegistry

/-!
Connectors at the relay: the Register handshake and the bridges of `relay/src/session.rs`
(`handle_connection`, `handle_lookup_stream`) over the registry, with the sweep of
`apply_revoked` in any interleaving with them.

Each connection carries one Register at most. The sweep reads one slot after another, each as it
stands at that moment, and closes what it finds there.
-/

namespace Zecurity.RelaySessions

open FiniteMap Option Runs
open RelayRegistry hiding State Action step start

abbrev LookupId := ℕ
abbrev ApplyId := ℕ

structure ParsedSpiffe where
  uri : String
  trustDomain : String
  role : String
  entityId : String

def validateRegister (identity : ParsedSpiffe) (connectorId spiffeId : String) : Bool :=
  identity.role == "connector" && identity.entityId == connectorId && identity.uri == spiffeId

inductive Phase
  | started
  | checked
  | inserted
  /-- in `remove_connector`, before the comparison; a refusal follows or the return -/
  | removing (refused : Bool)
  | erasing (refused : Bool)
  | refusing
  | acking
  /-- acknowledged; it waits for the connection to close -/
  | registered
  | returned
  deriving DecidableEq

/-- What follows `remove_connector`. -/
def Phase.afterRemove : Bool → Phase
  | true => .refusing
  | false => .returned

/-- The handshake is neither acknowledged nor refused yet. -/
def Phase.inProgress : Phase → Bool
  | .started | .checked | .inserted | .removing true | .erasing true | .refusing | .acking => true
  | .removing false | .erasing false | .registered | .returned => false

/-- Inserted, and the second look has still to come or has found the revocation. -/
def Phase.rechecking : Phase → Bool
  | .inserted | .removing true | .erasing true | .refusing => true
  | _ => false

structure Session where
  connectorId : ConnectorId
  trustDomain : String
  uri : String
  registration : Option RegistrationId
  acked : Bool
  phase : Phase

def Session.canonical (r : Session) : String :=
  canonicalConnectorSpiffe r.trustDomain r.connectorId

structure Bridge where
  connectorId : ConnectorId
  entry : ConnectorEntry
  piping : Bool

/-- A call of `apply_revoked`. -/
structure Apply where
  ids : List String
  /-- the slots that the sweep has passed -/
  visited : Finset ConnectorId
  returned : Bool

structure State where
  relay : RelayState
  issued : ℕ
  closed : Finset ConnectionId
  sessions : Map ConnectionId Session
  bridges : Map LookupId Bridge
  applies : Map ApplyId Apply

def start : State where
  relay := .new
  issued := 0
  closed := ∅
  sessions := ∅
  bridges := ∅
  applies := ∅

inductive Action
  | register (c : ConnectionId) (identity : ParsedSpiffe) (connectorId spiffeId : String)
  | check (c : ConnectionId)
  | insert (c : ConnectionId)
  | recheck (c : ConnectionId)
  | removeLookup (c : ConnectionId) (refused : Bool)
  | removeSlot (c : ConnectionId) (refused : Bool)
  | refuse (c : ConnectionId)
  | ack (c : ConnectionId)
  /-- the peer has stopped the stream, or the connection is gone -/
  | ackFails (c : ConnectionId)
  | seeClosed (c : ConnectionId)
  | close (c : ConnectionId)
  | lookup (b : LookupId) (identity : ParsedSpiffe) (connectorId : ConnectorId)
  | openBi (b : LookupId)
  | endBridge (b : LookupId)
  | applyRevoked (k : ApplyId) (ids : List String)
  | sweep (k : ApplyId) (connectorId : ConnectorId)
  | applyReturns (k : ApplyId)

def State.sessionIn (s : State) (c : ConnectionId) (p : Phase) : Option Session :=
  (s.sessions.lookup c).filter fun r => r.phase = p

def State.put (s : State) (c : ConnectionId) (r : Session) : State :=
  { s with sessions := s.sessions.insert c r }

/-- A connection that closes ends its streams, and with them the bridges over them
(`connection_gone`). -/
def State.closeConnection (s : State) (c : ConnectionId) : State :=
  { s with
    closed := insert c s.closed
    bridges := retain s.bridges fun _ b => !(b.piping && b.entry.connection == c) }

def State.putApply (s : State) (k : ApplyId) (a : Apply) : State :=
  { s with applies := s.applies.insert k a }

/-- The sweep of `apply_revoked` at one slot. -/
def State.sweepSlot (s : State) (connectorId : ConnectorId) : State :=
  match s.relay.sweeps connectorId with
  | some c => s.closeConnection c
  | none => s

variable (parseSpiffe : String → Option ParsedSpiffe)

def sameWorkspace (connectorSpiffe clientSpiffe : String) : Bool :=
  match parseSpiffe connectorSpiffe, parseSpiffe clientSpiffe with
  | some connector, some client =>
    connector.role == "connector" && client.role == "client" &&
      connector.trustDomain == client.trustDomain
  | _, _ => false

/-- The checks of `handle_lookup_stream` on the entry it found. -/
def mayBridge (identity : ParsedSpiffe) (entry : ConnectorEntry) : Bool :=
  identity.role == "client" && entry.trustDomain == identity.trustDomain &&
    sameWorkspace parseSpiffe entry.spiffeId identity.uri

def step (s : State) : Action → Option State
  | .register c identity connectorId spiffeId =>
    if s.sessions.lookup c = none ∧ c ∉ s.closed ∧
        validateRegister identity connectorId spiffeId = true then
      some (s.put c ⟨connectorId, identity.trustDomain, identity.uri, none, false, .started⟩)
    else none
  | .check c =>
    (s.sessionIn c .started).map fun r =>
      s.put c { r with phase := if s.relay.isRevoked r.canonical then .refusing else .checked }
  | .insert c =>
    (s.sessionIn c .checked).map fun r =>
      { s with
        relay := s.relay.insertConnector r.connectorId ⟨s.issued, c, r.uri, r.trustDomain⟩
        issued := s.issued + 1
        sessions := s.sessions.insert c
          { r with registration := some s.issued, phase := .inserted } }
  | .recheck c =>
    (s.sessionIn c .inserted).map fun r =>
      s.put c { r with phase := if s.relay.isRevoked r.canonical then .removing true else .acking }
  | .removeLookup c refused =>
    (s.sessionIn c (.removing refused)).map fun r =>
      s.put c { r with
        phase := if r.registration.any (s.relay.holds r.connectorId) then .erasing refused
          else .afterRemove refused }
  | .removeSlot c refused =>
    (s.sessionIn c (.erasing refused)).map fun r =>
      { s with
        relay := s.relay.removeSlot r.connectorId
        sessions := s.sessions.insert c { r with phase := .afterRemove refused } }
  | .refuse c =>
    (s.sessionIn c .refusing).map fun r =>
      (s.closeConnection c).put c { r with phase := .returned }
  | .ack c =>
    if c ∈ s.closed then none
    else (s.sessionIn c .acking).map fun r => s.put c { r with acked := true, phase := .registered }
  -- the return leaves the slot as it is
  | .ackFails c => (s.sessionIn c .acking).map fun r => s.put c { r with phase := .returned }
  | .seeClosed c =>
    if c ∈ s.closed then
      (s.sessionIn c .registered).map fun r => s.put c { r with phase := .removing false }
    else none
  | .close c => some (s.closeConnection c)
  | .lookup b identity connectorId =>
    if s.bridges.lookup b = none then
      (s.relay.lookupConnector connectorId).bind fun entry =>
        if mayBridge parseSpiffe identity entry then
          some { s with bridges := s.bridges.insert b ⟨connectorId, entry, false⟩ }
        else none
    else none
  | .openBi b =>
    (s.bridges.lookup b).bind fun bridge =>
      if bridge.entry.connection ∈ s.closed then none
      else some { s with bridges := s.bridges.insert b { bridge with piping := true } }
  | .endBridge b => some { s with bridges := s.bridges.erase b }
  | .applyRevoked k ids =>
    if s.applies.lookup k = none then
      some (({ s with relay := s.relay.addRevoked ids } : State).putApply k ⟨ids, ∅, ids.isEmpty⟩)
    else none
  | .sweep k connectorId =>
    (s.applies.lookup k).bind fun a =>
      if a.returned then none
      else
        some ((s.sweepSlot connectorId).putApply k
          { a with visited := insert connectorId a.visited })
  | .applyReturns k =>
    (s.applies.lookup k).bind fun a =>
      if ∀ connectorId ∈ s.relay.connectors.keys, connectorId ∈ a.visited then
        some (s.putApply k { a with returned := true })
      else none

/-! ### What a step does -/

/-- A change of one session alone. -/
inductive Move (s : State) (c : ConnectionId) (r : Session) : Session → Prop
  | checkRefused (h : r.phase = .started) (hrevoked : r.canonical ∈ s.relay.revoked) :
    Move s c r { r with phase := .refusing }
  | checkPassed (h : r.phase = .started) (hrevoked : r.canonical ∉ s.relay.revoked) :
    Move s c r { r with phase := .checked }
  | recheckRevoked (h : r.phase = .inserted) : Move s c r { r with phase := .removing true }
  | recheckPassed (h : r.phase = .inserted) (hrevoked : r.canonical ∉ s.relay.revoked) :
    Move s c r { r with phase := .acking }
  | found {f} (h : r.phase = .removing f) : Move s c r { r with phase := .erasing f }
  | notFound {f} (h : r.phase = .removing f) : Move s c r { r with phase := .afterRemove f }
  | refused (h : r.phase = .refusing) (hclosed : c ∈ s.closed) :
    Move s c r { r with phase := .returned }
  | acked (h : r.phase = .acking) (hopen : c ∉ s.closed) :
    Move s c r { r with acked := true, phase := .registered }
  | ackFailed (h : r.phase = .acking) : Move s c r { r with phase := .returned }
  | sawClosed (h : r.phase = .registered) (hclosed : c ∈ s.closed) :
    Move s c r { r with phase := .removing false }

inductive Steps (s : State) : Action → State → Prop
  | register {c identity i uri} (h : s.sessions.lookup c = none) :
    Steps s (.register c identity i uri)
      (s.put c ⟨i, identity.trustDomain, identity.uri, none, false, .started⟩)
  | move {a c r r'} (h : s.sessions.lookup c = some r) (hmove : Move s c r r') :
    Steps s a (s.put c r')
  | refuse {c r r'} (h : s.sessions.lookup c = some r) (hmove : Move (s.closeConnection c) c r r') :
    Steps s (.refuse c) ((s.closeConnection c).put c r')
  | insert {c r} (h : s.sessions.lookup c = some r) (hphase : r.phase = .checked) :
    Steps s (.insert c)
      { s with
        relay := s.relay.insertConnector r.connectorId ⟨s.issued, c, r.uri, r.trustDomain⟩
        issued := s.issued + 1
        sessions := s.sessions.insert c
          { r with registration := some s.issued, phase := .inserted } }
  | removeSlot {c f r} (h : s.sessions.lookup c = some r) (hphase : r.phase = .erasing f) :
    Steps s (.removeSlot c f)
      { s with
        relay := s.relay.removeSlot r.connectorId
        sessions := s.sessions.insert c { r with phase := .afterRemove f } }
  | close {c} : Steps s (.close c) (s.closeConnection c)
  | lookup {b identity i e} (h : s.relay.lookupConnector i = some e) :
    Steps s (.lookup b identity i) { s with bridges := s.bridges.insert b ⟨i, e, false⟩ }
  | openBi {b bridge} (h : s.bridges.lookup b = some bridge)
    (hopen : bridge.entry.connection ∉ s.closed) :
    Steps s (.openBi b) { s with bridges := s.bridges.insert b { bridge with piping := true } }
  | endBridge {b} : Steps s (.endBridge b) { s with bridges := s.bridges.erase b }
  | applyRevoked {k ids} (h : s.applies.lookup k = none) :
    Steps s (.applyRevoked k ids)
      (({ s with relay := s.relay.addRevoked ids } : State).putApply k ⟨ids, ∅, ids.isEmpty⟩)
  | sweep {k i a} (h : s.applies.lookup k = some a) (hruns : a.returned = false) :
    Steps s (.sweep k i) ((s.sweepSlot i).putApply k { a with visited := insert i a.visited })
  | applyReturns {k a} (h : s.applies.lookup k = some a)
    (hall : ∀ i ∈ s.relay.connectors.keys, i ∈ a.visited) :
    Steps s (.applyReturns k) (s.putApply k { a with returned := true })

variable {s' u : State} {e : ConnectorEntry} {x : String} {i : ConnectorId} {p : Phase}

lemma sessionIn_eq_some {s : State} {c : ConnectionId} {r : Session} :
    s.sessionIn c p = some r ↔ s.sessions.lookup c = some r ∧ r.phase = p := by
  simp [State.sessionIn, filter_eq_some_iff]

lemma move_of_map {s : State} {c : ConnectionId} {f : Session → Session} {a : Action}
    (hs : ((s.sessionIn c p).map fun r => s.put c (f r)) = some s')
    (hm : ∀ r, r.phase = p → Move s c r (f r)) : Steps s a s' := by
  obtain ⟨r, hr, rfl⟩ := map_eq_some_iff.1 hs
  obtain ⟨hl, hp⟩ := sessionIn_eq_some.1 hr
  exact .move hl (hm r hp)

lemma steps_of_step {s : State} {a : Action} (hs : step parseSpiffe s a = some s') :
    Steps s a s' := by
  cases a with
  | register c ident i uri =>
    obtain ⟨⟨hn, -⟩, rfl⟩ := ite_some_none_eq_some.1 hs
    exact .register hn
  | check c =>
    refine move_of_map hs fun r hp => ?_
    by_cases hrv : r.canonical ∈ s.relay.revoked
    · simpa [RelayState.isRevoked, hrv] using Move.checkRefused hp hrv
    · simpa [RelayState.isRevoked, hrv] using Move.checkPassed hp hrv
  | insert c =>
    obtain ⟨r, hr, rfl⟩ := map_eq_some_iff.1 hs
    obtain ⟨hl, hp⟩ := sessionIn_eq_some.1 hr
    exact .insert hl hp
  | recheck c =>
    refine move_of_map hs fun r hp => ?_
    by_cases hrv : r.canonical ∈ s.relay.revoked
    · simpa [RelayState.isRevoked, hrv] using Move.recheckRevoked hp
    · simpa [RelayState.isRevoked, hrv] using Move.recheckPassed hp hrv
  | removeLookup c refused =>
    refine move_of_map hs fun r hp => ?_
    split
    · exact .found hp
    · exact .notFound hp
  | removeSlot c refused =>
    obtain ⟨r, hr, rfl⟩ := map_eq_some_iff.1 hs
    obtain ⟨hl, hp⟩ := sessionIn_eq_some.1 hr
    exact .removeSlot hl hp
  | refuse c =>
    obtain ⟨r, hr, rfl⟩ := map_eq_some_iff.1 hs
    obtain ⟨hl, hp⟩ := sessionIn_eq_some.1 hr
    exact .refuse hl (.refused hp (Finset.mem_insert_self c s.closed))
  | ack c =>
    obtain ⟨ho, hs⟩ := ite_none_left_eq_some.1 hs
    exact move_of_map hs fun r hp => .acked hp ho
  | ackFails c => exact move_of_map hs fun r hp => .ackFailed hp
  | seeClosed c =>
    obtain ⟨hc, hs⟩ := ite_none_right_eq_some.1 hs
    exact move_of_map hs fun r hp => .sawClosed hp hc
  | close c =>
    cases hs
    exact .close
  | lookup b ident i =>
    obtain ⟨-, hs⟩ := ite_none_right_eq_some.1 hs
    obtain ⟨e, he, -, ⟨⟩⟩ := bind_ite_eq_some.1 hs
    exact .lookup he
  | openBi b =>
    obtain ⟨br, hb, hs⟩ := bind_eq_some_iff.1 hs
    obtain ⟨ho, hs⟩ := ite_none_left_eq_some.1 hs
    cases hs
    exact .openBi hb ho
  | endBridge b =>
    cases hs
    exact .endBridge
  | applyRevoked k ids =>
    obtain ⟨hn, rfl⟩ := ite_some_none_eq_some.1 hs
    exact .applyRevoked hn
  | sweep k i =>
    obtain ⟨a, ha, hs⟩ := bind_eq_some_iff.1 hs
    obtain ⟨hrn, hs⟩ := ite_none_left_eq_some.1 hs
    cases hs
    exact .sweep ha (Bool.eq_false_of_not_eq_true hrn)
  | applyReturns k =>
    obtain ⟨a, ha, hall, ⟨⟩⟩ := bind_ite_eq_some.1 hs
    exact .applyReturns ha hall

/-! ### The order that revocation relies on -/

/-- The entry that an insert takes the slot from. -/
def Action.displaced (s : State) : Action → Option ConnectorEntry
  | .insert c => (s.sessionIn c .checked).bind fun r => s.relay.lookupConnector r.connectorId
  | _ => none

/-- The entry that a removal finds, and the connection it is made for. -/
def Action.erased (s : State) : Action → Option (ConnectorEntry × ConnectionId)
  | .removeSlot c refused =>
    ((s.sessionIn c (.erasing refused)).bind fun r =>
      s.relay.lookupConnector r.connectorId).map (·, c)
  | _ => none

/-- A registration takes the slot from no connection that is open, and a removal from no other
connection. -/
def Orderly (s : State) (a : Action) : Prop :=
  (∀ e ∈ a.displaced s, e.connection ∈ s.closed) ∧ ∀ p ∈ a.erased s, p.1.connection = p.2

instance (s : State) (a : Action) : Decidable (Orderly s a) := by
  unfold Orderly
  infer_instance

/-- The entry stands for a connection on which its connector has registered. -/
def Registered (sessions : Map ConnectionId Session) (i : ConnectorId) (e : ConnectorEntry) :
    Prop :=
  ∃ r, sessions.lookup e.connection = some r ∧ r.connectorId = i ∧
    r.trustDomain = e.trustDomain ∧ r.registration.isSome

def Phase.leaving : Phase → Bool
  | .removing false | .erasing false => true
  | _ => false

structure SessionOk (relay : RelayState) (closed : Finset ConnectionId) (c : ConnectionId)
    (r : Session) : Prop where
  /-- an open connection has the slot from the insert to the removal before a refusal -/
  slot : r.registration.isSome → c ∉ closed → r.phase ≠ .refusing →
    ∃ e, relay.lookupConnector r.connectorId = some e ∧ e.connection = c ∧
      e.trustDomain = r.trustDomain
  leaving : r.phase.leaving = true → c ∈ closed

structure BridgeOk (sessions : Map ConnectionId Session) (closed : Finset ConnectionId)
    (b : Bridge) : Prop where
  registered : Registered sessions b.connectorId b.entry
  isOpen : b.piping = true → b.entry.connection ∉ closed

structure ApplyOk (relay : RelayState) (sessions : Map ConnectionId Session)
    (closed : Finset ConnectionId) (a : Apply) : Prop where
  revoked : ∀ x ∈ a.ids, x ∈ relay.revoked
  swept : ∀ c r, sessions.lookup c = some r → r.canonical ∈ a.ids →
    r.connectorId ∈ a.visited ∨ a.returned = true → r.registration.isSome → c ∉ closed →
    r.phase.rechecking = true

structure Inv (s : State) : Prop where
  sessions : ∀ c r, s.sessions.lookup c = some r → SessionOk s.relay s.closed c r
  entries : ∀ i e, s.relay.lookupConnector i = some e → Registered s.sessions i e
  bridges : ∀ b bridge, s.bridges.lookup b = some bridge → BridgeOk s.sessions s.closed bridge
  applies : ∀ k a, s.applies.lookup k = some a → ApplyOk s.relay s.sessions s.closed a

lemma inv_start : Inv start where
  sessions := nofun
  entries := nofun
  bridges := nofun
  applies := nofun

lemma Registered.insert {sessions : Map ConnectionId Session} {c : ConnectionId} {r r' : Session}
    (h : Registered sessions i e) (hr : sessions.lookup c = some r)
    (hid : r'.connectorId = r.connectorId) (htd : r'.trustDomain = r.trustDomain)
    (hreg : r.registration.isSome → r'.registration.isSome) :
    Registered (sessions.insert c r') i e := by
  obtain ⟨q, hq, rfl, ht, hs⟩ := h
  by_cases hc : e.connection = c
  · cases hr.symm.trans (hc ▸ hq)
    exact ⟨r', lookup_insert_eq_some.2 (.inl ⟨hc, rfl⟩), hid, htd.trans ht, hreg hs⟩
  · exact ⟨q, lookup_insert_eq_some.2 (.inr ⟨hc, hq⟩), rfl, ht, hs⟩

section Moves

variable {s : State} {c : ConnectionId} {r r' : Session}

lemma Move.same (h : Move s c r r') :
    r'.connectorId = r.connectorId ∧ r'.trustDomain = r.trustDomain ∧
      r'.registration = r.registration := by
  cases h <;> exact ⟨rfl, rfl, rfl⟩

lemma Move.canonical (h : Move s c r r') : r'.canonical = r.canonical := by
  obtain ⟨hid, htd, -⟩ := h.same
  rw [Session.canonical, hid, htd, Session.canonical]

lemma Move.rechecking (h : Move s c r r') (hrv : r.canonical ∈ s.relay.revoked)
    (hr : r.phase.rechecking = true) (ho : c ∉ s.closed) : r'.phase.rechecking = true := by
  cases h with
  | checkRefused hp | recheckRevoked hp => rfl
  | recheckPassed _ hn | checkPassed _ hn => exact absurd hrv hn
  | @found f hp | @notFound f hp =>
    rw [hp] at hr
    cases f with
    | true => rfl
    | false => cases hr
  | refused _ hc => exact absurd hc ho
  | acked hp | ackFailed hp | sawClosed hp =>
    rw [hp] at hr
    cases hr

lemma Move.leaving (h : Move s c r r') (hr : r.phase.leaving = true → c ∈ s.closed)
    (hr' : r'.phase.leaving = true) : c ∈ s.closed := by
  cases h with
  | @found f hp =>
    cases f with
    | true => cases hr'
    | false => exact hr (by rw [hp]; rfl)
  | @notFound f hp => cases f <;> cases hr'
  | sawClosed _ hc => exact hc
  | _ => cases hr'

lemma inv_move (hinv : Inv s) (hr : s.sessions.lookup c = some r) (h : Move s c r r') :
    Inv (s.put c r') := by
  obtain ⟨hid, htd, hreg⟩ := h.same
  have hk : r.registration.isSome → r'.registration.isSome := by
    rw [hreg]
    exact fun hsm => hsm
  have hold := hinv.sessions c r hr
  refine ⟨forall_lookup_insert hinv.sessions ⟨fun hsm ho hp => ?_,
    h.leaving hold.leaving⟩, fun i e he => ?_, fun b br hb => ?_, fun k a ha => ?_⟩
  · have hne : r.phase ≠ .refusing := by
      cases h with
      | refused _ hc => exact absurd hc ho
      | _ => simp_all
    rw [hid, htd]
    rw [hreg] at hsm
    exact hold.slot hsm ho hne
  · exact (hinv.entries i e he).insert hr hid htd hk
  · obtain ⟨hbr, ho⟩ := hinv.bridges b br hb
    exact ⟨hbr.insert hr hid htd hk, ho⟩
  · obtain ⟨hrv, hs⟩ := hinv.applies k a ha
    refine ⟨hrv, forall_lookup_insert hs fun hin hv hsm ho => ?_⟩
    rw [h.canonical] at hin
    rw [hid] at hv
    rw [hreg] at hsm
    exact h.rechecking (hrv _ hin) (hs c r hr hin hv hsm ho) ho

lemma inv_close (hinv : Inv s) (c : ConnectionId) : Inv (s.closeConnection c) := by
  have hm : ∀ {d}, d ∉ insert c s.closed → d ∉ s.closed := fun h hd =>
    h (Finset.mem_insert_of_mem hd)
  refine ⟨fun d q hq => ?_, hinv.entries, fun b br hb => ?_, fun k a ha => ?_⟩
  · obtain ⟨hsl, hl⟩ := hinv.sessions d q hq
    exact ⟨fun hsm ho => hsl hsm (hm ho), fun h => Finset.mem_insert_of_mem (hl h)⟩
  · obtain ⟨hb, hk⟩ := lookup_retain_eq_some.1 hb
    obtain ⟨hbr, ho⟩ := hinv.bridges b br hb
    refine ⟨hbr, fun hp hc => ?_⟩
    rcases Finset.mem_insert.1 hc with heq | hc
    · simp [hp, heq] at hk
    · exact ho hp hc
  · obtain ⟨hrv, hs⟩ := hinv.applies k a ha
    exact ⟨hrv, fun d q hq hin hv hsm ho =>
      hs d q hq hin hv hsm (hm ho)⟩

end Moves

section Slots

variable {s : State} {c : ConnectionId} {r : Session} (hinv : Inv s)
  (hr : s.sessions.lookup c = some r)
include hinv hr

lemma inv_insert (hp : r.phase = .checked) (hok : Orderly s (.insert c)) :
    Inv { s with
      relay := s.relay.insertConnector r.connectorId ⟨s.issued, c, r.uri, r.trustDomain⟩
      issued := s.issued + 1
      sessions := s.sessions.insert c
        { r with registration := some s.issued, phase := .inserted } } := by
  refine ⟨fun d q hq => ?_, fun i e he => ?_, fun b br hb => ?_, fun k a ha => ?_⟩
  · rcases lookup_insert_eq_some.1 hq with ⟨rfl, rfl⟩ | ⟨hd, hq⟩
    · exact ⟨fun _ _ _ => ⟨_, RelayState.lookupConnector_insertConnector.2 (.inl ⟨rfl, rfl⟩),
        rfl, rfl⟩, nofun⟩
    · refine ⟨fun hsm ho hne => ?_, (hinv.sessions d q hq).leaving⟩
      obtain ⟨e, he, rfl, htd⟩ := (hinv.sessions d q hq).slot hsm ho hne
      refine ⟨e, RelayState.lookupConnector_insertConnector.2 (.inr ⟨fun heq => ?_, he⟩), rfl, htd⟩
      -- the slot is taken from a closed connection only
      rw [heq] at he
      exact ho (hok.1 e (bind_eq_some_iff.2 ⟨r, sessionIn_eq_some.2 ⟨hr, hp⟩, he⟩))
  · rcases RelayState.lookupConnector_insertConnector.1 he with ⟨rfl, rfl⟩ | ⟨-, he⟩
    · exact ⟨_, lookup_insert_eq_some.2 (.inl ⟨rfl, rfl⟩), rfl, rfl, rfl⟩
    · exact (hinv.entries i e he).insert hr rfl rfl fun _ => rfl
  · obtain ⟨hbr, ho⟩ := hinv.bridges b br hb
    exact ⟨hbr.insert hr rfl rfl fun _ => rfl, ho⟩
  · obtain ⟨hrv, hs⟩ := hinv.applies k a ha
    exact ⟨hrv, forall_lookup_insert hs fun _ _ _ _ => rfl⟩

lemma inv_removeSlot {f : Bool} (hp : r.phase = .erasing f) (hok : Orderly s (.removeSlot c f)) :
    Inv { s with
      relay := s.relay.removeSlot r.connectorId
      sessions := s.sessions.insert c { r with phase := .afterRemove f } } := by
  refine ⟨fun d q hq => ?_, fun i e he => ?_, fun b br hb => ?_, fun k a ha => ?_⟩
  · rcases lookup_insert_eq_some.1 hq with ⟨rfl, rfl⟩ | ⟨hd, hq⟩
    · cases f with
      | true => exact ⟨fun _ _ hne => absurd rfl hne, nofun⟩
      | false =>
        have hc := (hinv.sessions d r hr).leaving (by rw [hp]; rfl)
        exact ⟨fun _ ho => absurd hc ho, fun _ => hc⟩
    · refine ⟨fun hsm ho hne => ?_, (hinv.sessions d q hq).leaving⟩
      obtain ⟨e, he, rfl, htd⟩ := (hinv.sessions d q hq).slot hsm ho hne
      refine ⟨e, RelayState.lookupConnector_removeSlot.2 ⟨he, fun heq => ?_⟩, rfl, htd⟩
      -- the slot that goes is the remover's own
      rw [heq] at he
      refine hd (hok.2 (e, c) (map_eq_some_iff.2 ⟨e, ?_, rfl⟩))
      exact bind_eq_some_iff.2 ⟨r, sessionIn_eq_some.2 ⟨hr, hp⟩, he⟩
  · obtain ⟨he, -⟩ := RelayState.lookupConnector_removeSlot.1 he
    exact (hinv.entries i e he).insert hr rfl rfl fun hsm => hsm
  · obtain ⟨hbr, ho⟩ := hinv.bridges b br hb
    exact ⟨hbr.insert hr rfl rfl fun hsm => hsm, ho⟩
  · obtain ⟨hrv, hs⟩ := hinv.applies k a ha
    refine ⟨hrv, forall_lookup_insert hs fun hin hv hsm ho => ?_⟩
    have hold := hs c r hr hin hv hsm ho
    rw [hp] at hold
    cases f with
    | true => rfl
    | false => cases hold

end Slots

section Applies

variable {s : State} {k : ApplyId} {a : Apply}

lemma inv_putApply (hinv : Inv s) (ha : ApplyOk s.relay s.sessions s.closed a) :
    Inv (s.putApply k a) := by
  exact { hinv with applies := forall_lookup_insert hinv.applies ha }

lemma sweepSlot_same (s : State) (i : ConnectorId) :
    (s.sweepSlot i).relay = s.relay ∧ (s.sweepSlot i).sessions = s.sessions ∧
      (s.sweepSlot i).applies = s.applies := by
  unfold State.sweepSlot
  split <;> exact ⟨rfl, rfl, rfl⟩

lemma inv_sweepSlot (hinv : Inv s) (i : ConnectorId) : Inv (s.sweepSlot i) := by
  unfold State.sweepSlot
  split
  · exact inv_close hinv _
  · exact hinv

/-- The slot of a revoked identity stands for a closed connection once it is swept. -/
lemma closed_of_sweepSlot (he : s.relay.lookupConnector i = some e)
    (hrv : canonicalConnectorSpiffe e.trustDomain i ∈ s.relay.revoked) :
    e.connection ∈ (s.sweepSlot i).closed := by
  have hs : s.relay.sweeps i = some e.connection := by
    refine bind_eq_some_iff.2 ⟨e, he, if_pos ?_⟩
    exact decide_eq_true hrv
  simp [State.sweepSlot, hs, State.closeConnection]

lemma inv_sweep (hinv : Inv s) (ha : s.applies.lookup k = some a) (i : ConnectorId) :
    Inv ((s.sweepSlot i).putApply k { a with visited := insert i a.visited }) := by
  have hs := inv_sweepSlot hinv i
  refine inv_putApply hs ?_
  have hold := hs.applies k a (by rw [(sweepSlot_same s i).2.2]; exact ha)
  refine ⟨hold.revoked, fun c r hr hin hv hsm ho => ?_⟩
  by_cases hrf : r.phase = .refusing
  · rw [hrf]
    rfl
  rcases hv with hv | hrt
  · rcases Finset.mem_insert.1 hv with rfl | hv
    · -- an open connection would have the slot that was just swept
      obtain ⟨e, he, rfl, htd⟩ := (hs.sessions c r hr).slot hsm ho hrf
      refine absurd (closed_of_sweepSlot ?_ ?_) ho
      · rw [← (sweepSlot_same s r.connectorId).1]
        exact he
      · rw [htd, ← (sweepSlot_same s r.connectorId).1]
        exact hold.revoked _ hin
    · exact hold.swept c r hr hin (.inl hv) hsm ho
  · exact hold.swept c r hr hin (.inr hrt) hsm ho

end Applies

lemma inv_step (s : State) (a : Action) (s' : State) (hinv : Inv s) (hok : Orderly s a)
    (hs : step parseSpiffe s a = some s') : Inv s' := by
  cases steps_of_step parseSpiffe hs with
  | @register c _ _ _ hn =>
    have hk : ∀ {i e r}, Registered s.sessions i e → Registered (s.put c r).sessions i e := by
      rintro i e r ⟨q, hq, hrs⟩
      exact ⟨q, lookup_insert_of_new hn hq, hrs⟩
    refine ⟨forall_lookup_insert hinv.sessions ⟨by rintro ⟨⟩, by rintro ⟨⟩⟩,
      fun i e he => hk (hinv.entries i e he), fun b br hb => ?_, fun k a ha => ?_⟩
    · obtain ⟨hbr, ho⟩ := hinv.bridges b br hb
      exact ⟨hk hbr, ho⟩
    · obtain ⟨hrv, hsw⟩ := hinv.applies k a ha
      exact ⟨hrv, forall_lookup_insert hsw (by rintro _ _ ⟨⟩)⟩
  | move hr hm => exact inv_move hinv hr hm
  | @refuse c _ _ hr hm => exact inv_move (inv_close hinv c) hr hm
  | insert hr hp => exact inv_insert hinv hr hp hok
  | removeSlot hr hp => exact inv_removeSlot hinv hr hp hok
  | @close c => exact inv_close hinv c
  | @lookup b ident i e he =>
    refine { hinv with bridges := forall_lookup_insert hinv.bridges ?_ }
    exact ⟨hinv.entries i e he, by simp⟩
  | @openBi b br hb ho =>
    refine { hinv with bridges := forall_lookup_insert hinv.bridges ?_ }
    exact ⟨(hinv.bridges b br hb).registered, fun _ => ho⟩
  | endBridge => exact { hinv with bridges := forall_lookup_erase hinv.bridges }
  | @applyRevoked k ids =>
    have hmn : ∀ {x}, x ∈ s.relay.revoked → x ∈ (s.relay.addRevoked ids).revoked := fun h =>
      Finset.mem_union_left _ h
    refine inv_putApply ⟨fun c r hr => ?_, hinv.entries, hinv.bridges, fun k' b hb => ?_⟩ ?_
    · exact ⟨(hinv.sessions c r hr).slot, (hinv.sessions c r hr).leaving⟩
    · obtain ⟨hrv, hsw⟩ := hinv.applies k' b hb
      exact ⟨fun x hx => hmn (hrv x hx), hsw⟩
    · refine ⟨fun x hx => Finset.mem_union_right _ (List.mem_toFinset.2 hx), ?_⟩
      grind
  | sweep ha _ => exact inv_sweep hinv ha _
  | @applyReturns k a ha hall =>
    obtain ⟨hrv, hsw⟩ := hinv.applies k a ha
    refine inv_putApply hinv ⟨hrv, fun c r hr hin _ hsm ho => ?_⟩
    by_cases hrf : r.phase = .refusing
    · rw [hrf]
      rfl
    · obtain ⟨e, he, -⟩ := (hinv.sessions c r hr).slot hsm ho hrf
      have hkey : r.connectorId ∈ s.relay.connectors.keys :=
        AList.mem_keys.1 (AList.lookup_isSome.1 (by rw [← RelayState.lookupConnector, he]; rfl))
      exact hsw c r hr hin (.inl (hall _ hkey)) hsm ho

/-! ### After the return of `apply_revoked` -/

inductive Evolves (s : State) (r : Session) : Session → Prop
  | move {u c r'} (hrelay : u.relay = s.relay) (hmove : Move u c r r') : Evolves s r r'
  | inserted {n} (hphase : r.phase = .checked) :
    Evolves s r { r with registration := some n, phase := .inserted }
  | erased {f} (hphase : r.phase = .erasing f) : Evolves s r { r with phase := .afterRemove f }

/-- Not let in: the first look has found a revocation, or is still to come. -/
def Phase.turnedAway : Phase → Bool
  | .started | .refusing | .returned => true
  | _ => false

structure TurnedAway (r : Session) : Prop where
  phase : r.phase.turnedAway = true
  registration : r.registration = none
  acked : r.acked = false

section Evolution

variable {s : State} {r r' : Session}

lemma Evolves.canonical (h : Evolves s r r') : r'.canonical = r.canonical := by
  cases h with
  | move _ hm => exact hm.canonical
  | inserted | erased => rfl

lemma Evolves.settled (h : Evolves s r r') (hr : r.phase.inProgress = false) :
    r'.phase.inProgress = false := by
  cases h with
  | inserted hp =>
    rw [hp] at hr
    cases hr
  | @erased f hp =>
    rw [hp] at hr
    cases f with
    | true => cases hr
    | false => rfl
  | move _ hm =>
    cases hm with
    | @found f hp | @notFound f hp =>
      rw [hp] at hr
      cases f with
      | true => cases hr
      | false => rfl
    | refused | ackFailed | acked | sawClosed => rfl
    | checkRefused hp | checkPassed hp | recheckRevoked hp | recheckPassed hp =>
      rw [hp] at hr
      cases hr

lemma Evolves.turnedAway (h : Evolves s r r') (hrv : r.canonical ∈ s.relay.revoked)
    (hr : TurnedAway r) : TurnedAway r' := by
  obtain ⟨haw, hreg, ha⟩ := hr
  cases h with
  | inserted hp | erased hp =>
    rw [hp] at haw
    cases haw
  | move hrl hm =>
    cases hm with
    | checkRefused | refused => exact ⟨rfl, hreg, ha⟩
    | checkPassed _ hn =>
      rw [hrl] at hn
      exact absurd hrv hn
    | recheckRevoked hp | recheckPassed hp | found hp | notFound hp
    | acked hp | ackFailed hp | sawClosed hp =>
      rw [hp] at haw
      cases haw

end Evolution

lemma sessions_of_steps {s a} (h : Steps s a s') :
    s'.sessions = s.sessions ∨
    (∃ c r, s.sessions.lookup c = none ∧ TurnedAway r ∧ s'.sessions = s.sessions.insert c r) ∨
    ∃ c r r', s.sessions.lookup c = some r ∧ Evolves s r r' ∧
      s'.sessions = s.sessions.insert c r' := by
  cases h with
  | register hn => exact .inr (.inl ⟨_, _, hn, ⟨rfl, rfl, rfl⟩, rfl⟩)
  | move hr hm => exact .inr (.inr ⟨_, _, _, hr, .move rfl hm, rfl⟩)
  | @refuse c _ _ hr hm =>
    have hrl : (s.closeConnection c).relay = s.relay := rfl
    exact .inr (.inr ⟨_, _, _, hr, .move hrl hm, rfl⟩)
  | insert hr hp => exact .inr (.inr ⟨_, _, _, hr, .inserted hp, rfl⟩)
  | removeSlot hr hp => exact .inr (.inr ⟨_, _, _, hr, .erased hp, rfl⟩)
  | sweep => exact .inl (sweepSlot_same s _).2.1
  | close | lookup | openBi | endBridge | applyRevoked | applyReturns => exact .inl rfl

lemma revoked_of_steps {s a} (h : Steps s a s') (hx : x ∈ s.relay.revoked) :
    x ∈ s'.relay.revoked := by
  cases h with
  | applyRevoked => exact Finset.mem_union_left _ hx
  | @sweep k i =>
    rw [← (sweepSlot_same s i).1] at hx
    exact hx
  | _ => exact hx

lemma applies_of_steps {s a} (h : Steps s a s') {k p} (hp : s.applies.lookup k = some p)
    (hrt : p.returned = true) : s'.applies.lookup k = some p := by
  cases h with
  | applyRevoked hn => exact lookup_insert_of_new hn hp
  | @sweep j i q hq hrn =>
    refine lookup_insert_eq_some.2 (.inr ⟨?_, by rw [(sweepSlot_same s i).2.2]; exact hp⟩)
    rintro rfl
    cases hq.symm.trans hp
    rw [hrt] at hrn
    cases hrn
  | @applyReturns j q hq _ =>
    refine lookup_insert_eq_some.2 ?_
    by_cases hj : k = j
    · subst hj
      obtain rfl := Option.some.inj (hq.symm.trans hp)
      exact .inl ⟨rfl, by cases q; simp_all⟩
    · exact .inr ⟨hj, hp⟩
  | _ => exact hp

/-- What holds of a state that comes after `u`, where `x` was revoked. -/
structure Follows (u : State) (x : String) (s : State) : Prop where
  revoked : x ∈ s.relay.revoked
  applies : ∀ k p, u.applies.lookup k = some p → p.returned = true → s.applies.lookup k = some p
  kept : ∀ c r, u.sessions.lookup c = some r → ∃ r', s.sessions.lookup c = some r' ∧
    r'.canonical = r.canonical ∧ (r.phase.inProgress = false → r'.phase.inProgress = false)
  late : ∀ c r, s.sessions.lookup c = some r → r.canonical = x → u.sessions.lookup c = none →
    TurnedAway r

lemma Follows.refl (hx : x ∈ u.relay.revoked) : Follows u x u where
  revoked := hx
  applies := fun _ _ h _ => h
  kept := fun _ r h => ⟨r, h, rfl, fun hr => hr⟩
  late := fun _ _ h _ hn => by
    rw [hn] at h
    cases h

lemma follows_step (s : State) (a : Action) (s' : State) (h : Follows u x s)
    (hs : step parseSpiffe s a = some s') : Follows u x s' := by
  have hstp := steps_of_step parseSpiffe hs
  refine ⟨revoked_of_steps hstp h.revoked,
    fun k p hp hret => applies_of_steps hstp (h.applies k p hp hret) hret, fun c r hr => ?_,
    fun c r hr hcanon hn => ?_⟩
  · obtain ⟨q, hq, hcanon, hst⟩ := h.kept c r hr
    rcases sessions_of_steps hstp with heq | ⟨d, n, hd, -, heq⟩ | ⟨d, p, p', hp, hev, heq⟩
    · exact ⟨q, heq ▸ hq, hcanon, hst⟩
    · exact ⟨q, heq ▸ lookup_insert_of_new hd hq, hcanon, hst⟩
    · rw [heq]
      refine exists_lookup_insert hp ?_ ⟨q, hq, hcanon, hst⟩
      exact fun ⟨hcanon, hst⟩ =>
        ⟨hev.canonical.trans hcanon, fun hr => hev.settled (hst hr)⟩
  · rcases sessions_of_steps hstp with heq | ⟨d, n, -, hnew, heq⟩ | ⟨d, p, p', hp, hev, heq⟩
    · exact h.late c r (heq ▸ hr) hcanon hn
    · rw [heq] at hr
      rcases lookup_insert_eq_some.1 hr with ⟨-, rfl⟩ | ⟨-, hr⟩
      · exact hnew
      · exact h.late c r hr hcanon hn
    · rw [heq] at hr
      rcases lookup_insert_eq_some.1 hr with ⟨rfl, rfl⟩ | ⟨-, hr⟩
      · have hold : p.canonical = x := hev.canonical.symm.trans hcanon
        refine hev.turnedAway ?_ (h.late c p hp hold hn)
        rw [hold]
        exact h.revoked
      · exact h.late c r hr hcanon hn

/-- No connection of the connector is open and none of its bridges is up; who came after `u`
was not acknowledged. -/
structure OffTheRelay (u : State) (x : String) (s : State) : Prop where
  closed : ∀ c r, s.sessions.lookup c = some r → r.canonical = x → r.registration.isSome →
    c ∈ s.closed
  noBridge : ∀ b bridge, s.bridges.lookup b = some bridge →
    canonicalConnectorSpiffe bridge.entry.trustDomain bridge.connectorId = x →
    bridge.piping = false
  notAcked : ∀ c r, s.sessions.lookup c = some r → r.canonical = x →
    u.sessions.lookup c = none → r.acked = false

/-- Every Register of the connector that was in progress has finished. -/
def Finished (u : State) (x : String) (s : State) : Prop :=
  ∀ c r r', u.sessions.lookup c = some r → r.canonical = x → r.phase.inProgress = true →
    s.sessions.lookup c = some r' → r'.phase.inProgress = false

instance (u : State) (x : String) (s : State) : Decidable (Finished u x s) :=
  decidable_of_iff
    (∀ e ∈ u.sessions.entries, e.2.canonical = x → e.2.phase.inProgress = true →
      ∀ r' ∈ s.sessions.lookup e.1, r'.phase.inProgress = false)
    ⟨fun h c r r' hr hcanon hprogress hr' =>
        h ⟨c, r⟩ (AList.mem_lookup_iff.1 hr) hcanon hprogress r' hr',
      fun h e he hcanon hprogress r' hr' =>
        h e.1 e.2 r' (AList.mem_lookup_iff.2 he) hcanon hprogress hr'⟩

lemma closed_of_follows {s k p} (hinv : Inv s) (h : Follows u x s)
    (hp : u.applies.lookup k = some p) (hrt : p.returned = true) (hx : x ∈ p.ids)
    (hf : Finished u x s) {c r} (hr : s.sessions.lookup c = some r) (hcanon : r.canonical = x)
    (hsm : r.registration.isSome) : c ∈ s.closed := by
  by_contra ho
  have hrc : r.phase.rechecking = true :=
    (hinv.applies k p (h.applies k p hp hrt)).swept c r hr (hcanon ▸ hx) (.inr hrt)
      hsm ho
  have hprogress : r.phase.inProgress = true := by
    cases hph : r.phase with
    | removing f | erasing f => cases f <;> simp_all [Phase.rechecking, Phase.inProgress]
    | _ => simp_all [Phase.rechecking, Phase.inProgress]
  cases hold : u.sessions.lookup c with
  | none =>
    rw [(h.late c r hr hcanon hold).registration] at hsm
    cases hsm
  | some q =>
    obtain ⟨q', hq', hsam, hs⟩ := h.kept c q hold
    cases hr.symm.trans hq'
    cases hq : q.phase.inProgress with
    | false => simp [hs hq] at hprogress
    | true => simp [hf c q r hold (hsam.symm.trans hcanon) hq hr] at hprogress

/-- In every run in which no registration takes the slot from an open connection and no removal
takes it from another connection: once `apply_revoked` has returned and the Registers that were
in progress then have finished, the connector is off the relay. -/
theorem offTheRelay_of_orderly {pre post : List Action} {u s : State} {k : ApplyId} {p : Apply}
    {x : String} (hmeets : Meets (step parseSpiffe) Orderly start (pre ++ post))
    (hpre : exec (step parseSpiffe) start pre = some u)
    (hpost : exec (step parseSpiffe) u post = some s) (hp : u.applies.lookup k = some p)
    (hreturned : p.returned = true) (hx : x ∈ p.ids) (hfinished : Finished u x s) :
    OffTheRelay u x s := by
  have hex : exec (step parseSpiffe) start (pre ++ post) = some s := by
    rw [exec_append, hpre]
    exact hpost
  have hinv : Inv s := exec_inv_of_meets (inv_step parseSpiffe) inv_start hmeets hex
  have hi : Inv u := exec_inv_of_meets (inv_step parseSpiffe) inv_start hmeets.left hpre
  have hf : Follows u x s :=
    exec_inv (follows_step parseSpiffe) (Follows.refl ((hi.applies k p hp).revoked x hx)) hpost
  have hc : ∀ c r, s.sessions.lookup c = some r → r.canonical = x →
      r.registration.isSome → c ∈ s.closed := fun c r hr hcanon hs =>
    closed_of_follows hinv hf hp hreturned hx hfinished hr hcanon hs
  refine ⟨hc, fun b br hb hcanon => ?_, fun c r hr hcanon hn => ?_⟩
  · obtain ⟨⟨r, hr, hid, htd, hs⟩, ho⟩ := hinv.bridges b br hb
    have hc' : r.canonical = x := by
      rw [Session.canonical, hid, htd]
      exact hcanon
    by_contra hpp
    exact ho (Bool.eq_true_of_not_eq_false hpp) (hc _ r hr hc' hs)
  · exact (hf.late c r hr hcanon hn).acked

def connector : ParsedSpiffe := ⟨"spiffe://w/connector/c", "w", "connector", "c"⟩

def client : ParsedSpiffe := ⟨"spiffe://w/client/d", "w", "client", "d"⟩

/-- The two identities of the runs below. -/
def parsePeers (uri : String) : Option ParsedSpiffe :=
  [connector, client].find? fun identity => identity.uri == uri

def registers (c : ConnectionId) : List Action :=
  [.register c connector "c" connector.uri, .check c, .insert c, .recheck c, .ack c]

def revokes : List Action :=
  [.applyRevoked 0 ["spiffe://w/connector/c"], .sweep 0 "c", .applyReturns 0]

/-- A connector with a bridge is revoked. -/
def revokedOnce : List Action :=
  registers 0 ++ [Action.lookup 0 client "c", .openBi 0] ++ revokes

/-- The first connection is cleaned up, and the connector tries again. -/
def afterwards : List Action :=
  [.seeClosed 0, .removeLookup 0 false, .removeSlot 0 false,
    .register 1 connector "c" connector.uri, .check 1, .refuse 1]

theorem offTheRelay_revokedOnce :
    ∃ u s, Meets (step parsePeers) Orderly start (revokedOnce ++ afterwards) ∧
      exec (step parsePeers) start revokedOnce = some u ∧
      exec (step parsePeers) u afterwards = some s ∧ 0 ∈ s.closed ∧
      OffTheRelay u "spiffe://w/connector/c" s := by
  have hm : Meets (step parsePeers) Orderly start (revokedOnce ++ afterwards) := by decide
  refine ⟨_, _, hm, rfl, rfl, by decide, ?_⟩
  exact offTheRelay_of_orderly parsePeers (k := 0) hm rfl rfl rfl rfl (by decide) (by decide)

/-- The connector registers on a second connection while the first is open and has a bridge. -/
def revokedTwice : List Action :=
  registers 0 ++ [Action.lookup 0 client "c", .openBi 0] ++ registers 1 ++ revokes

theorem bridge_survives_revocation :
    ∃ u, exec (step parsePeers) start revokedTwice = some u ∧
      u.applies.lookup 0 = some ⟨["spiffe://w/connector/c"], {"c"}, true⟩ ∧
      Finished u "spiffe://w/connector/c" u ∧ 1 ∈ u.closed ∧ 0 ∉ u.closed ∧
      (u.bridges.lookup 0).any (·.piping) = true ∧
      ¬ OffTheRelay u "spiffe://w/connector/c" u := by
  refine ⟨_, rfl, rfl, by decide, by decide, by decide, by decide, fun h => ?_⟩
  have hc := h.closed 0 _ rfl (by decide) rfl
  revert hc
  decide

end Zecurity.RelaySessions
