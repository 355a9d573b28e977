import Mathlib.Tactic.Common

/-!
One connector's row in the database, the statements that change it, and the authoritative
lookup (`controller/internal/connector/authorization.go`, the `UPDATE`s and the `DELETE` of the
controller on `connectors`, and the triggers of `migrations/041_connector_revocations.sql`).

Of the row, the columns the guards read are kept: `status` and whether `revoked_at` is set.
A statement is atomic. A call may fail after the statement was applied, so an error says
nothing about the row.
-/

namespace Zecurity.ConnectorRow

/-- The values that the table's `CHECK` allows. -/
inductive Status
  | pending
  | active
  | disconnected
  | revoked
  deriving DecidableEq

structure Row where
  status : Status
  revokedAt : Bool

/-- The row, and whether `connector_revocations` has the connector. -/
structure Db where
  row : Option Row
  tombstoned : Bool

/-- How a database call ends. -/
inductive Call
  | ok
  | failed (applied : Bool)
  deriving DecidableEq

inductive Statement
  /-- `activateStream` -/
  | activate
  /-- `handleConnectorHealth` -/
  | health
  /-- `retireStream` -/
  | disconnect
  /-- `Goodbye` -/
  | goodbye
  /-- `markDisconnected` -/
  | watcher
  /-- the last step of an enrollment -/
  | enroll
  /-- `RevokeConnector` -/
  | revoke
  /-- `DeleteConnector` -/
  | delete
  deriving DecidableEq

/-- The `WHERE` of a statement. The status `deleted`, which the health report also excludes,
is none of the table's. -/
def Statement.matchesRow (r : Row) : Statement → Bool
  | .activate | .health => r.status != .revoked && !r.revokedAt
  | .disconnect | .watcher => r.status == .active
  | .goodbye => r.status == .active && !r.revokedAt
  | .enroll => r.status == .pending
  | .revoke => (r.status == .active || r.status == .disconnected) && !r.revokedAt
  | .delete => r.status == .pending || r.status == .revoked

def Statement.apply (r : Row) : Statement → Option Row
  | .activate | .health | .enroll => some { r with status := .active }
  | .disconnect | .watcher | .goodbye => some { r with status := .disconnected }
  | .revoke => some ⟨.revoked, true⟩
  | .delete => none

/-- `connectors_record_revocation`: a revoked row leaves a tombstone. -/
def Db.set (db : Db) (row : Option Row) : Db :=
  ⟨row, db.tombstoned || row.any fun r => r.status == .revoked || r.revokedAt⟩

/-- The database after a statement, and whether it matched. -/
def Db.run (db : Db) (st : Statement) : Db × Bool :=
  match db.row with
  | none => (db, false)
  | some r => if st.matchesRow r then (db.set (st.apply r), true) else (db, false)

/-- The database after a call, and what the caller learns: an error, or whether the statement
returned a row. -/
def Db.exec (db : Db) (st : Statement) : Call → Db × Option Bool
  | .ok => ((db.run st).1, some (db.run st).2)
  | .failed true => ((db.run st).1, none)
  | .failed false => (db, none)

/-! ### The lookup -/

inductive ConnectorAuthState
  | authorized
  | revoked
  | absent

/-- `none` where the query failed. -/
def lookupConnector (db : Db) : Call → Option ConnectorAuthState
  | .failed _ => none
  | .ok =>
    match db.row with
    | none => some (if db.tombstoned then .revoked else .absent)
    | some r => some (if r.status = .revoked || r.revokedAt then .revoked else .authorized)

inductive Code
  | permissionDenied
  | notFound
  | unavailable
  | failedPrecondition
  deriving DecidableEq

/-- How a Control stream is terminated; an empty marker is none. -/
structure AuthzRejection where
  code : Code
  msg : String
  marker : String
  deriving DecidableEq

def rejectRevoked : AuthzRejection := ⟨.permissionDenied, "connector is revoked", "revoked"⟩

def rejectUnknown : AuthzRejection := ⟨.notFound, "connector not found", "unknown"⟩

def rejectUnavailable : AuthzRejection :=
  ⟨.unavailable, "connector authorization state unavailable", ""⟩

def rejectMissingSeq : AuthzRejection :=
  ⟨.failedPrecondition,
    "connector health report lacks heartbeat_seq (authorization contract required)", ""⟩

def rejectionFor : Option ConnectorAuthState → AuthzRejection
  | some .revoked => rejectRevoked
  | some .absent => rejectUnknown
  | some .authorized | none => rejectUnavailable

/-! ### A revocation is final -/

/-- The connector is revoked: its row says so, or is deleted, and the tombstone is there. -/
structure Db.Revoked (db : Db) : Prop where
  tombstoned : db.tombstoned = true
  row : ∀ r ∈ db.row, r.status = .revoked

lemma matchesRow_of_revoked {r : Row} (h : r.status = .revoked) {st : Statement}
    (hst : st ≠ .delete) : st.matchesRow r = false := by
  cases st <;> simp_all [Statement.matchesRow]

variable {db : Db}

lemma Db.Revoked.run (h : db.Revoked) (st : Statement) :
    (db.run st).1.Revoked ∧ (st ≠ .delete → (db.run st).2 = false) := by
  unfold Db.run
  split
  · exact ⟨h, fun _ => rfl⟩
  · next r hr =>
    by_cases hst : st = .delete
    · subst hst
      refine ⟨?_, fun hne => absurd rfl hne⟩
      split
      · exact ⟨by simp [Db.set, h.tombstoned], fun r' hr' => nomatch hr'⟩
      · exact h
    · rw [if_neg (by simp [matchesRow_of_revoked (h.row r hr) hst])]
      exact ⟨h, fun _ => rfl⟩

lemma Db.Revoked.exec (h : db.Revoked) (st : Statement) (call : Call) :
    (db.exec st call).1.Revoked ∧ (st ≠ .delete → (db.exec st call).2 ≠ some true) := by
  obtain ⟨hr, hm⟩ := h.run st
  rcases call with _ | _ | _
  · exact ⟨hr, fun hst => by simp [Db.exec, hm hst]⟩
  · exact ⟨h, fun _ => by simp [Db.exec]⟩
  · exact ⟨hr, fun _ => by simp [Db.exec]⟩

lemma revoked_of_revoke {call} (h : (db.exec .revoke call).2 = some true) :
    (db.exec .revoke call).1.Revoked := by
  rcases call with _ | _ | _
  · simp only [Db.exec, Option.some.injEq, Db.run] at h ⊢
    split at h
    · cases h
    · next r hr =>
      split at h
      · next hm =>
        simp only [hm, if_true]
        exact ⟨by simp [Db.set, Statement.apply], fun r' hr' => by cases hr'; rfl⟩
      · cases h
  · cases h
  · cases h

lemma lookupConnector_of_revoked (h : db.Revoked) : lookupConnector db .ok = some .revoked := by
  simp only [lookupConnector]
  split
  · simp [h.tombstoned]
  · next r hr => simp [h.row r hr]

/-- The statements of any callers, one after another. -/
def Db.after (db : Db) (calls : List (Statement × Call)) : Db :=
  calls.foldl (fun db c => (db.exec c.1 c.2).1) db

lemma Db.Revoked.after (h : db.Revoked) (calls : List (Statement × Call)) :
    (db.after calls).Revoked := by
  induction calls generalizing db with
  | nil => exact h
  | cons c calls ih => exact ih (h.exec c.1 c.2).1

/-- **A revoked connector stays refused.** Whatever is called after the revocation, a lookup that
succeeds says revoked, and no statement but a deletion finds a row. -/
theorem refused_after_revoke {db : Db} {call : Call} (h : (db.exec .revoke call).2 = some true)
    (calls : List (Statement × Call)) : let db' := (db.exec .revoke call).1.after calls
    (∀ look, rejectionFor (lookupConnector db' look) =
      if look = .ok then rejectRevoked else rejectUnavailable) ∧
    ∀ st c, st ≠ .delete → (db'.exec st c).2 ≠ some true := by
  intro db'
  have hr : db'.Revoked := (revoked_of_revoke h).after calls
  refine ⟨fun look => ?_, fun st c => (hr.exec st c).2⟩
  cases look with
  | ok => simp [lookupConnector_of_revoked hr, rejectionFor]
  | failed applied => rfl

theorem refused_after_revoke_deleted :
    (∀ look, rejectionFor (lookupConnector ⟨none, true⟩ look) =
      if look = .ok then rejectRevoked else rejectUnavailable) ∧
    ∀ st c, st ≠ .delete → (Db.exec ⟨none, true⟩ st c).2 ≠ some true :=
  @refused_after_revoke ⟨some ⟨.active, false⟩, false⟩ .ok rfl
    [(.disconnect, .ok), (.delete, .failed true), (.activate, .ok)]

end Zecurity.ConnectorRow
