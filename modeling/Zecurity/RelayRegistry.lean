import Zecurity.Acl
import Zecurity.FiniteMap
import Zecurity.Runs

/-!
The relay's registry of connectors (`relay/src/state.rs`, `RelayState`) and the calls that fill
and empty it.

There is one slot for each connector id; a registration takes it over from the one before. A
removal compares the registration under one lock and removes the slot under another.
-/

namespace Zecurity.RelayRegistry

open FiniteMap Runs

abbrev ConnectorId := String
/-- a `quinn::Connection` with its clones -/
abbrev ConnectionId := ℕ
/-- a `Uuid`, numbered in the order they are drawn -/
abbrev RegistrationId := ℕ

def canonicalConnectorSpiffe (trustDomain connectorId : String) : String :=
  "spiffe://" ++ trustDomain ++ "/connector/" ++ Acl.toAsciiLowercase connectorId

structure ConnectorEntry where
  registrationId : RegistrationId
  connection : ConnectionId
  spiffeId : String
  trustDomain : String

structure RelayState where
  connectors : Map ConnectorId ConnectorEntry
  revoked : Finset String

namespace RelayState

def new : RelayState := ⟨∅, ∅⟩

def isRevoked (r : RelayState) (canonicalSpiffe : String) : Bool :=
  decide (canonicalSpiffe ∈ r.revoked)

/-- The first half of `apply_revoked`. -/
def addRevoked (r : RelayState) (ids : List String) : RelayState :=
  { r with revoked := r.revoked ∪ ids.toFinset }

/-- The connection that the sweep of `apply_revoked` closes where it finds the slot as it is. -/
def sweeps (r : RelayState) (connectorId : ConnectorId) : Option ConnectionId :=
  (r.connectors.lookup connectorId).bind fun entry =>
    if r.isRevoked (canonicalConnectorSpiffe entry.trustDomain connectorId) then
      some entry.connection
    else none

def insertConnector (r : RelayState) (connectorId : ConnectorId) (entry : ConnectorEntry) :
    RelayState :=
  { r with connectors := r.connectors.insert connectorId entry }

def lookupConnector (r : RelayState) (connectorId : ConnectorId) : Option ConnectorEntry :=
  r.connectors.lookup connectorId

/-- The first half of `remove_connector`: whether the call goes on to the removal. -/
def holds (r : RelayState) (connectorId : ConnectorId) (registrationId : RegistrationId) : Bool :=
  (r.connectors.lookup connectorId).any fun entry => entry.registrationId = registrationId

/-- The second half of `remove_connector`. -/
def removeSlot (r : RelayState) (connectorId : ConnectorId) : RelayState :=
  { r with connectors := r.connectors.erase connectorId }

variable {e : ConnectorEntry} {i j : ConnectorId} {r : RelayState}

lemma lookupConnector_insertConnector {entry : ConnectorEntry} :
    (r.insertConnector i entry).lookupConnector j = some e ↔
      j = i ∧ e = entry ∨ j ≠ i ∧ r.lookupConnector j = some e := lookup_insert_eq_some

lemma lookupConnector_removeSlot :
    (r.removeSlot i).lookupConnector j = some e ↔ r.lookupConnector j = some e ∧ j ≠ i :=
  lookup_erase_eq_some

end RelayState

/-! ### Insertions and removals in any interleaving -/

structure State where
  relay : RelayState
  issued : ℕ
  /-- the calls of `remove_connector` that found their registration -/
  removing : List (ConnectorId × RegistrationId)
  /-- for each connector, its most recent insert -/
  newest : Map ConnectorId ConnectorEntry
  removed : List RegistrationId

def start : State where
  relay := .new
  issued := 0
  removing := []
  newest := ∅
  removed := []

inductive Action
  | insert (connectorId : ConnectorId) (connection : ConnectionId) (spiffeId trustDomain : String)
  | removeLookup (connectorId : ConnectorId) (registrationId : RegistrationId)
  | removeSlot (connectorId : ConnectorId) (registrationId : RegistrationId)

def step (s : State) : Action → Option State
  | .insert connectorId connection spiffeId trustDomain =>
    let entry : ConnectorEntry := ⟨s.issued, connection, spiffeId, trustDomain⟩
    some { s with
      relay := s.relay.insertConnector connectorId entry
      issued := s.issued + 1
      newest := s.newest.insert connectorId entry }
  | .removeLookup connectorId registrationId =>
    if s.relay.holds connectorId registrationId then
      some { s with removing := (connectorId, registrationId) :: s.removing }
    else some s
  | .removeSlot connectorId registrationId =>
    if (connectorId, registrationId) ∈ s.removing then
      some { s with
        relay := s.relay.removeSlot connectorId
        removing := s.removing.erase (connectorId, registrationId)
        removed := registrationId :: s.removed }
    else none

/-- The newest registration of a connector is the one that is looked up, until it is removed
itself. -/
def NewestStands (s : State) : Prop :=
  ∀ connectorId entry, s.newest.lookup connectorId = some entry →
    entry.registrationId ∉ s.removed → s.relay.lookupConnector connectorId = some entry

/-- No call of `remove_connector` for the connector is between its comparison and its removal when
the connector registers. -/
def InsertsApart (s : State) : Action → Prop
  | .insert connectorId _ _ _ => ∀ call ∈ s.removing, call.1 ≠ connectorId
  | _ => True

instance (s : State) (a : Action) : Decidable (InsertsApart s a) := by
  cases a <;> unfold InsertsApart <;> infer_instance

structure Inv (s : State) : Prop where
  stands : NewestStands s
  /-- a call that compared still finds the registration that it compared, or an empty slot -/
  compared : ∀ call ∈ s.removing, ∀ entry, s.relay.lookupConnector call.1 = some entry →
    entry.registrationId = call.2

lemma inv_start : Inv start := ⟨nofun, nofun⟩

lemma RelayState.holds_iff {r : RelayState} {i : ConnectorId} {rid : RegistrationId} :
    r.holds i rid = true ↔ ∃ e, r.lookupConnector i = some e ∧ e.registrationId = rid := by
  simp [RelayState.holds, RelayState.lookupConnector, Option.any_eq_true]

lemma inv_step (s : State) (a : Action) (s' : State) (hi : Inv s) (hok : InsertsApart s a)
    (hs : step s a = some s') : Inv s' := by
  obtain ⟨hn, hc⟩ := hi
  cases a with
  | insert i c spiffe td =>
    cases hs
    constructor
    · intro id e he hk
      refine RelayState.lookupConnector_insertConnector.2 ?_
      rcases lookup_insert_eq_some.1 he with ⟨hid, he⟩ | ⟨hid, hold⟩
      · exact .inl ⟨hid, he⟩
      · exact .inr ⟨hid, hn id e hold hk⟩
    · intro call hm e he
      rcases RelayState.lookupConnector_insertConnector.1 he with ⟨hid, -⟩ | ⟨-, hold⟩
      · exact absurd hid (hok call hm)
      · exact hc call hm e hold
  | removeLookup i rid =>
    dsimp only [step] at hs
    split at hs
    · next hh =>
      cases hs
      refine ⟨hn, fun call hm e he => ?_⟩
      rcases List.mem_cons.1 hm with rfl | hm
      · obtain ⟨e', he', hr⟩ := RelayState.holds_iff.1 hh
        cases he.symm.trans he'
        exact hr
      · exact hc call hm e he
    · cases hs
      exact ⟨hn, hc⟩
  | removeSlot i rid =>
    obtain ⟨hm, rfl⟩ := Option.ite_some_none_eq_some.1 hs
    constructor
    · intro id e he hk
      obtain ⟨hne, hk⟩ := not_or.1 (mt List.mem_cons.2 hk)
      have hl := hn id e he hk
      refine RelayState.lookupConnector_removeSlot.2 ⟨hl, ?_⟩
      -- the slot that goes is the removed registration's own, and the newest is another
      rintro rfl
      exact hne (hc (id, rid) hm e hl)
    · intro call hm' e he
      exact hc call (List.mem_of_mem_erase hm') e (RelayState.lookupConnector_removeSlot.1 he).1

/-- In every run in which a connector registers only while no removal of its slot is between its
two steps, the newest registration of a connector is the one that is looked up until it is removed
itself. -/
theorem newestStands_of_insertsApart {acts : List Action} {s : State}
    (hmeets : Meets step InsertsApart start acts) (hexec : exec step start acts = some s) :
    NewestStands s :=
  (exec_inv_of_meets inv_step inv_start hmeets hexec).stands

/-- A connector registers and registers again; the first connection closes, then the second, whose
removal is under way when another connector registers. -/
def reconnect : List Action :=
  [.insert "c" 0 "u" "w", .insert "c" 1 "u" "w", .removeLookup "c" 0, .removeLookup "c" 1,
    .insert "d" 2 "v" "w", .removeSlot "c" 1, .insert "c" 3 "u" "w", .removeLookup "c" 1]

theorem newestStands_reconnect :
    ∃ s, Meets step InsertsApart start reconnect ∧ exec step start reconnect = some s ∧
      s.relay.lookupConnector "c" = some ⟨3, 3, "u", "w"⟩ ∧ NewestStands s := by
  have hm : Meets step InsertsApart start reconnect := by decide
  exact ⟨_, hm, rfl, rfl, newestStands_of_insertsApart hm rfl⟩

/-- The connector registers again between the comparison and the removal. -/
def reconnectAmid : List Action :=
  [.insert "c" 0 "u" "w", .removeLookup "c" 0, .insert "c" 1 "u" "w", .removeSlot "c" 0]

theorem newest_removed_by_older :
    ∃ s, exec step start reconnectAmid = some s ∧
      s.newest.lookup "c" = some ⟨1, 1, "u", "w"⟩ ∧ 1 ∉ s.removed ∧
      s.relay.lookupConnector "c" = none ∧ ¬ NewestStands s := by
  refine ⟨_, rfl, rfl, by decide, rfl, fun h => ?_⟩
  have hl := h "c" ⟨1, 1, "u", "w"⟩ rfl (by decide)
  cases hl

end Zecurity.RelayRegistry
