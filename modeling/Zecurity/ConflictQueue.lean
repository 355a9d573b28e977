import Zecurity.ScimConflicts

/-!
The queue of the conflicts of a connection (`controller/internal/scim/conflict.go`): what the SCIM
operations record, and what `ListConflicts`, `GetConflict`, `AcceptLink`, `Reject` and `Reopen`
read of it.

Each call is one step, and the database does not fail.
-/

namespace Zecurity.ConflictQueue

open ScimConflicts (Op Status UserId)

/-- A conflict. The columns that may be null are of type `Text`. -/
structure Conflict (Text : Type) where
  canonicalKey : String
  userId : UserId
  scimExternalId : Text
  scimUsernameSnapshot : Text
  scimEmailSnapshot : Text
  status : Status
deriving DecidableEq

abbrev Row := Conflict (Option String)
abbrev ConflictRecord := Conflict String

def nullIfText (text : String) : Option String := if text = "" then none else some text

/-- The operations that record a conflict. -/
inductive Verb
  | provision (userName email : String)
  | update
  | deprovision
  | reactivate

/-- A new row, with the `conflictSnapshot` of the operation. -/
def Verb.row (key : String) (userId : UserId) : Verb → Row
  | .provision userName email =>
    ⟨key, userId, nullIfText key, nullIfText userName, nullIfText email, .pending⟩
  | _ => ⟨key, userId, none, none, none, .pending⟩

def ensurePendingConflict (rows : List Row) (key : String) (userId : UserId) (verb : Verb) :
    List Row :=
  if key = "" ∨ key ∈ rows.map (·.canonicalKey) then rows else verb.row key userId :: rows

def Row.shown (r : Row) : ConflictRecord where
  canonicalKey := r.canonicalKey
  userId := r.userId
  scimExternalId := r.scimExternalId.getD ""
  scimUsernameSnapshot := r.scimUsernameSnapshot.getD ""
  scimEmailSnapshot := r.scimEmailSnapshot.getD ""
  status := r.status

/-- The external id is the one nullable column without a `COALESCE`: a null fails the scan. -/
def Row.scan (r : Row) : Option ConflictRecord :=
  if r.scimExternalId.isSome then some r.shown else none

def listConflicts (rows : List Row) : Option (List ConflictRecord) := rows.mapM Row.scan

def lookupConflict (rows : List Row) (key : String) : Option (Option ConflictRecord) :=
  match rows.find? (·.canonicalKey = key) with
  | none => some none
  | some r => (Row.scan r).map some

def getConflict (rows : List Row) (key : String) : Option (Option ConflictRecord) :=
  if key = "" then some none else lookupConflict rows key

inductive Reply
  | ok
  | notFound
  | conflict
  | forbidden
  | serverError
deriving DecidableEq

/-- `held`: the caller has the permission that `AcceptLink` asks for. -/
def resolve (rows : List Row) (key : String) (op : Op) (held : Bool) : Reply × List Row :=
  match lookupConflict rows key with
  | none => (.serverError, rows)
  | some none => (.notFound, rows)
  | some (some c) =>
    if c.status ≠ op.before then (.conflict, rows)
    else if op = .acceptLink ∧ held = false then (.forbidden, rows)
    else (.ok, rows.map fun r => if r.canonicalKey = key then { r with status := op.after } else r)

inductive Call
  | ensure (key : String) (userId : UserId) (verb : Verb)
  | resolve (key : String) (op : Op) (held : Bool)

def after (rows : List Row) : Call → List Row
  | .ensure key userId verb => ensurePendingConflict rows key userId verb
  | .resolve key op held => (resolve rows key op held).2

def run (calls : List Call) : List Row := calls.foldl after []

/-- One row for each key, and each can be scanned. -/
structure Readable (rows : List Row) : Prop where
  nodup : (rows.map (·.canonicalKey)).Nodup
  scanned : ∀ r ∈ rows, r.canonicalKey ≠ "" ∧ r.scimExternalId.isSome

/-- The operations whose conflicts carry an external id. -/
def Call.Provisions : Call → Prop
  | .ensure _ _ verb => ∃ userName email, verb = .provision userName email
  | .resolve .. => True

variable {rows : List Row} {r : Row}

lemma Readable.after (h : Readable rows) {call} (hc : call.Provisions) :
    Readable (after rows call) := by
  obtain ⟨hn, hs⟩ := h
  cases call with
  | ensure key uid verb =>
    obtain ⟨userName, email, rfl⟩ := hc
    simp only [ConflictQueue.after, ensurePendingConflict]
    split_ifs with hk
    · exact ⟨hn, hs⟩
    · obtain ⟨hne, hnew⟩ := not_or.1 hk
      refine ⟨List.nodup_cons.2 ⟨hnew, hn⟩, List.forall_mem_cons.2 ⟨⟨hne, ?_⟩, hs⟩⟩
      simp [Verb.row, nullIfText, hne]
  | resolve key op held =>
    simp only [ConflictQueue.after, resolve]
    split
    · exact ⟨hn, hs⟩
    · exact ⟨hn, hs⟩
    · split_ifs
      · exact ⟨hn, hs⟩
      · exact ⟨hn, hs⟩
      · constructor
        · grind
        · refine List.forall_mem_map.2 fun r hr => ?_
          split_ifs <;> exact hs r hr

lemma readable_run {calls} (h : ∀ call ∈ calls, call.Provisions) : Readable (run calls) := by
  induction calls using List.reverseRecOn with
  | nil => exact ⟨.nil, nofun⟩
  | append_singleton calls call ih =>
    have hc := List.forall_mem_append.1 h
    rw [run, List.foldl_append]
    exact (ih hc.1).after (hc.2 call (List.mem_singleton_self call))

lemma listConflicts_eq (h : ∀ r ∈ rows, r.scimExternalId.isSome) :
    listConflicts rows = some (rows.map Row.shown) := by
  induction rows with
  | nil => rfl
  | cons r rows ih =>
    obtain ⟨hr, hrw⟩ := List.forall_mem_cons.1 h
    have hl : rows.mapM Row.scan = some (rows.map Row.shown) := ih hrw
    simp [listConflicts, List.mapM_cons, Row.scan, hr, hl]

lemma find?_canonicalKey (h : (rows.map (·.canonicalKey)).Nodup) (hr : r ∈ rows) :
    rows.find? (·.canonicalKey = r.canonicalKey) = some r := by
  induction rows with
  | nil => cases hr
  | cons r' rows ih => grind

/-- Every conflict is listed with all others, found under its key, and resolved by its status. -/
structure Served (rows : List Row) (r : Row) : Prop where
  listed : listConflicts rows = some (rows.map Row.shown)
  got : getConflict rows r.canonicalKey = some (some r.shown)
  resolved : ∀ op held, (resolve rows r.canonicalKey op held).1 =
    if r.status ≠ op.before then .conflict
    else if op = .acceptLink ∧ held = false then .forbidden
    else .ok

/-- **Every conflict that a provisioning records** can be seen and resolved, in every run in which
only these record. -/
theorem served_of_provisions (calls : List Call) (h : ∀ call ∈ calls, call.Provisions) :
    ∀ r ∈ run calls, Served (run calls) r := by
  intro r hr
  obtain ⟨hn, hs⟩ := readable_run h
  obtain ⟨hne, hsm⟩ := hs r hr
  have hl : lookupConflict (run calls) r.canonicalKey = some (some r.shown) := by
    simp [lookupConflict, find?_canonicalKey hn hr, Row.scan, hsm]
  refine ⟨listConflicts_eq fun r hr => (hs r hr).2, (if_neg hne).trans hl, fun op held => ?_⟩
  simp only [resolve, hl, Row.shown]
  split_ifs <;> rfl

theorem served_provisioned :
    Served (run [.ensure "k" 7 (.provision "" "a@b"), .resolve "k" .reject true])
      ⟨"k", 7, some "k", none, some "a@b", .rejected⟩ :=
  served_of_provisions [.ensure "k" 7 (.provision "" "a@b"), .resolve "k" .reject true]
    (by simp [Call.Provisions]) _ (by decide)

/-- After a deprovisioning has recorded one, no conflict of the connection is listed any more. -/
theorem deprovisioned_unreadable :
    let rows := run [.ensure "j" 1 (.provision "b" "b@c"), .ensure "k" 7 .deprovision]
    listConflicts rows = none ∧ getConflict rows "k" = none ∧
      (resolve rows "k" .acceptLink true).1 = .serverError ∧
      (resolve rows "k" .reject true).1 = .serverError ∧
      (resolve rows "k" .reopen true).1 = .serverError := by
  decide

end Zecurity.ConflictQueue
