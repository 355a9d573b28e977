import Zecurity.FiniteMap
import Zecurity.SnapshotCache

/-!
The two planes on which clients poll the controller for a snapshot: the access-control list and
the transport topology (`controller/internal/client/service.go`, `GetACLSnapshot` and
`GetTransportSnapshot`; `notifier.go` and `cache.go` of `internal/policy` and
`internal/transport`), for one workspace, over any number of restarts of the controller.

A change is its commit, the increment of the version counter and the `Invalidate`, as three steps.
A restart leaves only the database and what the clients hold. The list's entries expire, and its
compiles are shared by the calls that wait (`singleflight`).
-/

namespace Zecurity.SnapshotPlanes

open EpochCache FiniteMap

abbrev ClientId := ℕ
abbrev FlightId := ℕ

inductive Plane
  | acl
  | transport

/-- Callers wait for one compile. -/
def Plane.shares : Plane → Bool
  | .acl => true
  | .transport => false

/-- An entry has a `ValidUntil`. -/
def Plane.expires : Plane → Bool
  | .acl => true
  | .transport => false

/-- The queries of `CompileACLSnapshot` and of `CompileTransportSnapshot`. -/
def Plane.numReads : Plane → ℕ
  | .acl => SnapshotCache.numReads
  | .transport => 2

structure Snap extends EpochCache.Snap where
  process : ℕ
  deriving DecidableEq

/-- A snapshot and the changes that were notified when it was taken, or an error. -/
abbrev Outcome := Option (Snap × List Mutation)

def Plane.compileFn (p : Plane) (notified : List Mutation) : CompileFn Snap Outcome :=
  ⟨p.numReads, fun x => x.version, fun x _ => some (x, notified), none⟩

inductive CallPhase
  | getting (p : GetPhase)
  | missed
  | waiting (f : FlightId)
  | got (x : Snap) (asOf : List Mutation)
  deriving DecidableEq

/-- A poll, with the snapshot that the client held when it sent it. -/
structure Call where
  client : ClientId
  held : Option Snap
  phase : CallPhase

def Call.known (c : Call) : UInt64 := (c.held.map fun x => x.version).getD 0

/-- The payload is left out. -/
def Call.upToDate (c : Call) (x : Snap) : Bool := c.known != 0 && c.known == x.version

def Call.release (f : FlightId) (x : Snap) (asOf : List Mutation) (c : Call) : Call :=
  if c.phase = .waiting f then { c with phase := .got x asOf } else c

/-- The changes, and the version counter that numbers them. -/
structure Ledger where
  process : ℕ
  version : UInt64
  committed : List Mutation
  /-- the changes that had been committed when the process started -/
  base : List Mutation
  /-- those of this process that have still to be counted, -/
  uncounted : List Mutation
  /-- those that have been, with the version that the increment produced, -/
  counted : List (Mutation × UInt64)
  /-- and all for which `NotifyPolicyChange` or `NotifyTopologyChange` is through -/
  notified : List Mutation

structure State extends Ledger where
  notifying : List Mutation
  epoch : UInt64
  slot : Option Snap
  flights : Map FlightId (Flight Snap Outcome)
  calls : Map CallId Call
  replies : Map CallId (ClientId × Snap)
  holds : Map ClientId Snap

def start : State where
  process := 0
  version := 0
  committed := []
  base := []
  uncounted := []
  counted := []
  notified := []
  notifying := []
  epoch := 0
  slot := none
  flights := ∅
  calls := ∅
  replies := ∅
  holds := ∅

namespace Ledger

def commit (l : Ledger) (m : Mutation) : Ledger :=
  { l with committed := m :: l.committed, uncounted := m :: l.uncounted }

def count (l : Ledger) (m : Mutation) : Ledger :=
  { l with
    version := l.version + 1
    uncounted := l.uncounted.filter (· ≠ m)
    counted := (m, l.version + 1) :: l.counted }

def notify (l : Ledger) (m : Mutation) : Ledger := { l with notified := m :: l.notified }

def restart (l : Ledger) : Ledger :=
  { l with
    process := l.process + 1
    version := 0
    base := l.committed
    uncounted := []
    counted := [] }

end Ledger

namespace State

def core (s : State) : Core Snap := ⟨s.version, s.epoch, s.slot⟩

def withCore (s : State) (c : Core Snap) : State :=
  { s with version := c.version, epoch := c.epoch, slot := c.slot }

def setCall (s : State) (i : CallId) (c : Call) : State := { s with calls := s.calls.insert i c }

def setFlight (s : State) (f : FlightId) (fl : Flight Snap Outcome) : State :=
  { s with flights := s.flights.insert f fl }

/-- After a step of the first `Get` of a call. -/
def afterGet (s : State) (i : CallId) (c : Call) : GetResult Snap → State
  | .again p => s.setCall i { c with phase := .getting p }
  | .hit x => s.setCall i { c with phase := .got x s.notified }
  | .miss => s.setCall i { c with phase := .missed }

/-- A flight makes a move. -/
def fly (s : State) (p : Plane) (f : FlightId) (m : Move Snap) : Option State :=
  (s.flights.lookup f).bind fun fl =>
    (fl.next (p.compileFn s.notified) s.core s.committed m).map fun r =>
      (s.withCore r.1).setFlight f r.2

end State

inductive Action
  | commit (m : Mutation)
  | incr (m : Mutation)
  | inval (m : Mutation)
  | restart
  | poll (i : CallId) (client : ClientId)
  | get (i : CallId) (expired : Bool)
  | enter (i : CallId) (f : FlightId)
  | capture (f : FlightId)
  | read (f : FlightId)
  | fail (f : FlightId)
  | versionRead (f : FlightId)
  | store (f : FlightId)
  | reget (f : FlightId) (expired : Bool)
  | release (f : FlightId)
  | answer (i : CallId)
  | deliver (i : CallId)
  | forget (client : ClientId)

def step (p : Plane) (s : State) : Action → Option State
  | .commit m =>
    if m ∈ s.committed then none else some { s with toLedger := s.commit m }
  | .incr m =>
    if m ∈ s.uncounted then
      some { s with toLedger := s.count m, notifying := m :: s.notifying }
    else none
  | .inval m =>
    if m ∈ s.notifying then
      some { s.withCore s.core.invalidate with
        toLedger := s.notify m
        notifying := s.notifying.erase m }
    else none
  | .restart =>
    some { s with
      toLedger := s.toLedger.restart
      notifying := []
      epoch := 0
      slot := none
      flights := ∅
      calls := ∅ }
  | .poll i client =>
    if s.calls.lookup i = none then
      some (s.setCall i ⟨client, s.holds.lookup client, .getting .read⟩)
    else none
  | .get i expired =>
    match s.calls.lookup i with
    | some ⟨client, held, .getting phase⟩ =>
      let r := s.core.getStep (fun _ => expired && p.expires) phase
      some ((s.withCore r.1).afterGet i ⟨client, held, .getting phase⟩ r.2)
    | _ => none
  | .enter i f =>
    match s.calls.lookup i with
    | some ⟨client, held, .missed⟩ =>
      let s' := s.setCall i ⟨client, held, .waiting f⟩
      if s.flights.lookup f = none then
        -- a call of the shared plane starts a compile only if there is none
        if p.shares && !s.flights.entries.isEmpty then none
        else some (s'.setFlight f ⟨0, .loop⟩)
      else if p.shares then some s'
      else none
    | _ => none
  | .capture f => s.fly p f .capture
  | .read f => s.fly p f .read
  | .fail f => s.fly p f .fail
  | .versionRead f =>
    s.fly p f (.versionRead fun seen version _ => ⟨⟨seen, version⟩, s.process⟩)
  | .store f => s.fly p f .store
  | .reget f expired => s.fly p f (.reget fun _ => expired && p.expires)
  | .release f =>
    match s.flights.lookup f with
    | some ⟨_, .finished (some (x, asOf))⟩ =>
      some { s with
        flights := s.flights.erase f
        calls := mapValues s.calls fun _ => Call.release f x asOf }
    | some ⟨_, .finished none⟩ =>
      some { s with
        flights := s.flights.erase f
        calls := retain s.calls fun _ c => c.phase != .waiting f }
    | _ => none
  | .answer i =>
    match s.calls.lookup i with
    | some ⟨client, held, .got x asOf⟩ =>
      let s' := { s with calls := s.calls.erase i }
      if Call.upToDate ⟨client, held, .got x asOf⟩ x then some s'
      else some { s' with replies := s.replies.insert i (client, x) }
    | _ => none
  | .deliver i =>
    match s.replies.lookup i with
    | some (client, x) =>
      some { s with replies := s.replies.erase i, holds := s.holds.insert client x }
    | none => none
  | .forget client => some { s with holds := s.holds.erase client }

end Zecurity.SnapshotPlanes
