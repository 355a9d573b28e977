import Mathlib.Data.Finset.Basic
import Mathlib.Data.List.AList
import Zecurity.ConnectorRow
import Zecurity.Runs

/-!
The registry of Control streams (`controller/internal/connector/control_stream.go`,
`ConnectorRegistry`; `trackLive` and `untrackLive` of
`controller/internal/connector/authorization.go`), one call at a time.

`clients` names one stream for each connector, the one that messages are pushed to; `live` has
all streams that are not retired. `activateStream` and `retireStream` hold `lifecycleMu`, so
each of them is one step. A retirement that finds its stream in `clients` empties the entry
and marks the connector disconnected, whatever else is in `live`.
-/

namespace Zecurity.ConnectorRegistry

open ConnectorRow

abbrev ConnectorId := String
/-- the identity of a `*connectorStreamClient` -/
abbrev StreamId := ℕ

structure Registry where
  clients : AList fun _ : ConnectorId => StreamId
  live : AList fun _ : ConnectorId => Finset StreamId

namespace Registry

def new : Registry := ⟨∅, ∅⟩

def add (r : Registry) (connectorId : ConnectorId) (c : StreamId) : Registry :=
  { r with clients := r.clients.insert connectorId c }

/-- The registry after the call, and whether `c` was the entry. -/
def removeIfCurrent (r : Registry) (connectorId : ConnectorId) (c : StreamId) : Registry × Bool :=
  if r.clients.lookup connectorId = some c then
    ({ r with clients := r.clients.erase connectorId }, true)
  else (r, false)

def get (r : Registry) (connectorId : ConnectorId) : Option StreamId :=
  r.clients.lookup connectorId

/-- The live streams of a connector; a missing entry is the empty set. -/
def liveSet (r : Registry) (connectorId : ConnectorId) : Finset StreamId :=
  (r.live.lookup connectorId).getD ∅

def trackLive (r : Registry) (connectorId : ConnectorId) (c : StreamId) : Registry :=
  { r with live := r.live.insert connectorId (insert c (r.liveSet connectorId)) }

def untrackLive (r : Registry) (connectorId : ConnectorId) (c : StreamId) : Registry :=
  let set := (r.liveSet connectorId).erase c
  { r with
    live := if set = ∅ then r.live.erase connectorId else r.live.insert connectorId set }

end Registry

/-- `activateStream`: the row and the registry after it, and the rejection or whether the
connector became active. -/
def activateStream (db : Db) (r : Registry) (connectorId : ConnectorId) (c : StreamId)
    (call lookup : Call) : Db × Registry × Except AuthzRejection Bool :=
  ((db.exec .activate call).1,
    match (db.exec .activate call).2 with
    | some false =>
      (r, .error (rejectionFor (lookupConnector (db.exec .activate call).1 lookup)))
    -- an error on the statement itself does not keep the stream from being registered
    | none => ((r.add connectorId c).trackLive connectorId c, .ok false)
    | some true =>
      ((r.add connectorId c).trackLive connectorId c, .ok (db.row.any (·.status != .active))))

/-- `retireStream`: the row and the registry after it, whether the stream was the current one,
and whether the connector became disconnected. -/
def retireStream (db : Db) (r : Registry) (connectorId : ConnectorId) (c : StreamId)
    (call : Call) : Db × Registry × Bool × Bool :=
  match (r.untrackLive connectorId c).removeIfCurrent connectorId c with
  | (r', false) => (db, r', false, false)
  | (r', true) =>
    ((db.exec .disconnect call).1, r', true,
      (db.exec .disconnect call).2 == some true && db.row.any (·.status != .disconnected))

/-! ### What a call does to the registry -/

@[simp] lemma Registry.get_add_self (r : Registry) (id : ConnectorId) (c : StreamId) :
    (r.add id c).get id = some c := AList.lookup_insert _

@[simp] lemma Registry.get_trackLive (r : Registry) (id i : ConnectorId) (c : StreamId) :
    (r.trackLive id c).get i = r.get i := rfl

@[simp] lemma Registry.get_untrackLive (r : Registry) (id i : ConnectorId) (c : StreamId) :
    (r.untrackLive id c).get i = r.get i := rfl

@[simp] lemma Registry.liveSet_add (r : Registry) (id i : ConnectorId) (c : StreamId) :
    (r.add id c).liveSet i = r.liveSet i := rfl

@[simp] lemma Registry.liveSet_trackLive (r : Registry) (id : ConnectorId) (c : StreamId) :
    (r.trackLive id c).liveSet id = insert c (r.liveSet id) := by
  simp [liveSet, trackLive]

@[simp] lemma Registry.liveSet_untrackLive (r : Registry) (id : ConnectorId) (c : StreamId) :
    (r.untrackLive id c).liveSet id = (r.liveSet id).erase c := by
  by_cases he : (r.liveSet id).erase c = ∅
  · rw [he]
    simp [liveSet, untrackLive, show ((r.live.lookup id).getD ∅).erase c = ∅ from he]
  · simp [liveSet, untrackLive, show ((r.live.lookup id).getD ∅).erase c ≠ ∅ from he]

lemma Registry.get_removeIfCurrent (r : Registry) (id : ConnectorId) (c : StreamId) :
    (r.removeIfCurrent id c).1.get id = if r.get id = some c then none else r.get id := by
  unfold removeIfCurrent get
  split
  · simp
  · rfl

lemma Registry.get_removeIfCurrent_of_ne {r : Registry} {i : ConnectorId} {y : StreamId}
    (h : r.get i = some y) (id : ConnectorId) {c : StreamId} (hne : y ≠ c) :
    (r.removeIfCurrent id c).1.get i = some y := by
  unfold removeIfCurrent
  split
  · next hc =>
    have hid : i ≠ id := by
      rintro rfl
      exact hne (Option.some.inj (h.symm.trans hc))
    exact (AList.lookup_erase_ne hid).trans h
  · exact h

lemma Registry.liveSet_removeIfCurrent (r : Registry) (id i : ConnectorId) (c : StreamId) :
    (r.removeIfCurrent id c).1.liveSet i = r.liveSet i := by
  unfold removeIfCurrent
  split <;> rfl

lemma activateStream_registry (db : Db) (r : Registry) (id : ConnectorId) (c : StreamId)
    (call lookup : Call) :
    (activateStream db r id c call lookup).2.1 =
      if (activateStream db r id c call lookup).2.2.isOk then (r.add id c).trackLive id c
      else r := by
  unfold activateStream
  rcases (db.exec .activate call).2 with _ | _ | _ <;> rfl

lemma retireStream_registry (db : Db) (r : Registry) (id : ConnectorId) (c : StreamId)
    (call : Call) :
    (retireStream db r id c call).2.1 = ((r.untrackLive id c).removeIfCurrent id c).1 := by
  unfold retireStream
  split <;> simp_all

lemma retireStream_db (db : Db) (r : Registry) (id : ConnectorId) (c : StreamId) (call : Call) :
    (retireStream db r id c call).1 =
      if r.get id = some c then (db.exec .disconnect call).1 else db := by
  unfold retireStream Registry.removeIfCurrent Registry.untrackLive Registry.get
  by_cases h : r.clients.lookup id = some c <;> simp [h]

end Zecurity.ConnectorRegistry
