import Mathlib.Data.Finset.Insert
import Zecurity.FiniteMap
import Zecurity.Runs

/-!
The conflicts of one canonical key (`controller/internal/scim/conflict.go`): SCIM requests record
them, and `AcceptLink`, `Reject` and `Reopen` read the newest one and write in a transaction later.

A transaction is one step, since row locks put two of them in order. `changes` is no column; it
counts the changes of a status.
-/

namespace Zecurity.ScimConflicts

open FiniteMap Option Runs

abbrev CallId := ℕ
abbrev ConflictId := ℕ
abbrev UserId := ℕ

inductive Status
  | pending | approved | rejected
  deriving DecidableEq

structure Conflict where
  userId : UserId
  scimExternalId : Option String
  status : Status
  changes : ℕ
  deriving DecidableEq

inductive Op
  | acceptLink | reject | reopen
  deriving DecidableEq

def Op.before : Op → Status
  | .acceptLink | .reject => .pending
  | .reopen => .rejected

def Op.after : Op → Status
  | .acceptLink => .approved
  | .reject => .rejected
  | .reopen => .pending

inductive Call
  /-- `ensurePendingConflict` has found no conflict -/
  | ensure (userId : UserId) (externalId : String)
  | resolve (op : Op) (id : ConflictId) (c : Conflict)

structure State where
  conflicts : Map ConflictId Conflict
  newest : Option ConflictId
  link : Option UserId
  scimOwned : Finset UserId
  audit : List (Op × ConflictId × Conflict)
  calls : Map CallId Call

def start (link : Option UserId) (scimOwned : Finset UserId) : State :=
  ⟨∅, none, link, scimOwned, [], ∅⟩

inductive Action
  | ensurePendingConflict (i : CallId) (userId : UserId) (externalId : String)
  | lookupConflict (i : CallId) (op : Op)
  | write (i : CallId) (id : ConflictId)

/-- `idx_conflicts_uniq_pending` -/
def uniqPending (conflicts : Map ConflictId Conflict) : Bool :=
  count conflicts (fun c => c.status = .pending) ≤ 1

def newConflict (userId : UserId) (externalId : String) : Conflict :=
  ⟨userId, if externalId = "" then none else some externalId, .pending, 0⟩

def Conflict.move (c : Conflict) (op : Op) : Conflict :=
  { c with status := op.after, changes := c.changes + 1 }

/-- `WHERE id = $1 AND status = $2` -/
def transition (conflicts : Map ConflictId Conflict) (op : Op) (id : ConflictId) :
    Map ConflictId Conflict :=
  ((conflicts.lookup id).filter fun c => c.status = op.before).elim conflicts fun c =>
    conflicts.insert id (c.move op)

def State.write (s : State) (new : ConflictId) : Call → Option State
  | .ensure userId externalId =>
    let conflicts := s.conflicts.insert new (newConflict userId externalId)
    if s.conflicts.lookup new = none then
      some (if uniqPending conflicts then { s with conflicts, newest := some new } else s)
    else none
  | .resolve op id c =>
    if uniqPending (transition s.conflicts op id) then
      some { s with
        conflicts := transition s.conflicts op id
        link := if op = .acceptLink then s.link <|> some c.userId else s.link
        scimOwned := if op = .acceptLink then insert c.userId s.scimOwned else s.scimOwned
        audit := (op, id, c) :: s.audit }
    else none

def step (s : State) : Action → Option State
  | .ensurePendingConflict i userId externalId =>
    if s.newest = none ∧ s.calls.lookup i = none then
      some { s with calls := s.calls.insert i (.ensure userId externalId) }
    else none
  | .lookupConflict i op =>
    s.newest.bind fun id => (s.conflicts.lookup id).bind fun c =>
      -- a null is not scanned into a string
      if c.scimExternalId.isSome ∧ c.status = op.before ∧ s.calls.lookup i = none then
        some { s with calls := s.calls.insert i (.resolve op id c) }
      else none
  | .write i id =>
    (s.calls.lookup i).bind fun call => ({ s with calls := s.calls.erase i } : State).write id call

/-! ### The properties -/

/-- The conflict was there, in the state that the operation is for, and has been moved. -/
structure Moved (s s' : State) (op : Op) (id : ConflictId) (c : Conflict) : Prop where
  read : s.conflicts.lookup id = some c
  status : c.status = op.before
  written : s'.conflicts.lookup id = some (c.move op)

/-- An approved conflict has the link, and no two operations on a conflict, both as it was between
two changes of its status, have succeeded. -/
structure Resolved (s : State) : Prop where
  linked : ∀ id c, s.conflicts.lookup id = some c → c.status = .approved → s.link = some c.userId
  once : (s.audit.map fun e => (e.2.1, e.2.2.changes)).Nodup

structure Sound (s : State) (_ : Action) (s' : State) : Prop extends Resolved s' where
  audited : ∀ e ∈ s'.audit, e ∈ s.audit ∨ Moved s s' e.1 e.2.1 e.2.2
  owned : ∀ u ∈ s'.scimOwned, u ∈ s.scimOwned ∨ ∃ id c, c.userId = u ∧ Moved s s' .acceptLink id c

/-- What a call has read is still so when it writes, and the link is not another user's. -/
def Undisturbed (s : State) : Action → Prop
  | .write i _ => match s.calls.lookup i with
    | some (.resolve op id c) => s.conflicts.lookup id = some c ∧
      (op = .acceptLink → s.link = none ∨ s.link = some c.userId)
    | _ => True
  | _ => True

instance (s : State) : DecidablePred (Undisturbed s) := fun a => by
  unfold Undisturbed
  repeat' split
  all_goals infer_instance

def Call.Checked : Call → Prop
  | .ensure .. => True
  | .resolve op _ c => c.status = op.before

structure Inv (s : State) : Prop extends Resolved s where
  past : ∀ e ∈ s.audit, ∃ c, s.conflicts.lookup e.2.1 = some c ∧ e.2.2.changes < c.changes
  calls : All s.calls Call.Checked

variable {s s' : State} {id new : ConflictId} {c : Conflict} {op : Op}

lemma transition_eq (hc : s.conflicts.lookup id = some c) (hs : c.status = op.before) :
    transition s.conflicts op id = s.conflicts.insert id (c.move op) := by
  simp [transition, hc, Option.filter, hs]

lemma Inv.ensure (h : Inv s) (hn : s.conflicts.lookup id = none) (hc : c.status = .pending)
    (newest : Option ConflictId) : Inv { s with conflicts := s.conflicts.insert id c, newest } := by
  refine { h with linked := forall_lookup_insert h.linked (by simp [hc]), past := fun e he => ?_ }
  obtain ⟨d, hd, hlt⟩ := h.past e he
  exact ⟨d, lookup_insert_of_new hn hd, hlt⟩

lemma Inv.resolve (h : Inv s) (hc : s.conflicts.lookup id = some c) (hst : c.status = op.before)
    (hl : op = .acceptLink → s.link = none ∨ s.link = some c.userId)
    (hs : s.write new (.resolve op id c) = some s') : Inv s' ∧ Moved s s' op id c := by
  obtain ⟨-, rfl⟩ := ite_some_none_eq_some.1 hs
  rw [transition_eq hc hst]
  refine ⟨{ h with linked := forall_lookup_insert (fun k d hd ha => ?_) fun ha => ?_,
                   once := ?_, past := ?_ }, hc, hst, AList.lookup_insert _⟩
  · have hold := h.linked k d hd ha
    split <;> simp [hold]
  · cases op with
    | acceptLink => rcases hl rfl with hn | hsm <;> simp [*, Conflict.move]
    | _ => cases ha
  · refine List.nodup_cons.2 ⟨fun hm => ?_, h.once⟩
    -- a conflict that an operation has succeeded on has changed since
    obtain ⟨e, he, heq⟩ := List.mem_map.1 hm
    obtain ⟨d, hd, hlt⟩ := h.past e he
    obtain ⟨hid, hch⟩ := Prod.mk.inj heq
    rw [hid, hc] at hd
    cases hd
    exact hlt.ne hch
  · refine List.forall_mem_cons.2 ⟨⟨_, AList.lookup_insert _, Nat.lt_succ_self _⟩, fun e he => ?_⟩
    exact exists_lookup_insert hc Nat.lt_succ_of_lt (h.past e he)

lemma inv_step {a} (h : Inv s) (hok : Undisturbed s a) (hs : step s a = some s') :
    Inv s' ∧ Sound s a s' := by
  have hsm : ∀ {s'}, Inv s' → s'.audit = s.audit → s'.scimOwned = s.scimOwned →
      Inv s' ∧ Sound s a s' := fun h' ha ho => ⟨h', { h' with
        audited := fun e he => .inl (ha ▸ he), owned := fun u hu => .inl (ho ▸ hu) }⟩
  cases a with
  | ensurePendingConflict i uid eid =>
    obtain ⟨-, rfl⟩ := ite_some_none_eq_some.1 hs
    exact hsm { h with calls := h.calls.insert trivial } rfl rfl
  | lookupConflict i op =>
    obtain ⟨id, -, hs⟩ := bind_eq_some_iff.1 hs
    obtain ⟨c, -, ⟨-, hst, -⟩, ⟨⟩⟩ := bind_ite_eq_some.1 hs
    exact hsm { h with calls := h.calls.insert hst } rfl rfl
  | write i new =>
    obtain ⟨call, hc, hs⟩ := bind_eq_some_iff.1 hs
    have hend : Inv { s with calls := s.calls.erase i } :=
      { h with calls := forall_lookup_erase h.calls }
    cases call with
    | ensure uid eid =>
      obtain ⟨hn, rfl⟩ := ite_some_none_eq_some.1 hs
      split
      · exact hsm (hend.ensure hn rfl _) rfl rfl
      · exact hsm hend rfl rfl
    | resolve op id c =>
      simp only [Undisturbed, hc] at hok
      obtain ⟨hi, hm⟩ := hend.resolve hok.1 (h.calls i _ hc) hok.2 hs
      obtain ⟨-, rfl⟩ := ite_some_none_eq_some.1 hs
      refine ⟨hi, { hi with audited := ?_, owned := fun u hu => ?_ }⟩
      · exact List.forall_mem_cons.2 ⟨.inr { hm with }, fun e he => .inl he⟩
      · dsimp only at hu
        split at hu
        · next hop =>
          subst hop
          rcases Finset.mem_insert.1 hu with rfl | hu
          · exact .inr ⟨id, c, rfl, { hm with }⟩
          · exact .inl hu
        · exact .inl hu

/-- In every run in which no conflict changes between the read and the write of a call, and no
other user has the link, every audited operation has moved its conflict, users become owned by SCIM
by approvals only, and approved conflicts have the link. -/
theorem conflicts_resolved_soundly (link : Option UserId) (scimOwned : Finset UserId)
    (acts : List Action) (h : Meets step Undisturbed (start link scimOwned) acts) :
    Always step Sound (start link scimOwned) acts := by
  have hst : Inv (start link scimOwned) := ⟨⟨by rintro _ _ ⟨⟩, .nil⟩, by rintro _ ⟨⟩, .empty⟩
  exact always_of_meets (I := Inv) (fun s a s' hi hok hs => (inv_step hi hok hs).1)
    (fun s a s' hi hok hs => (inv_step hi hok hs).2) hst h

/-- A conflict of user 7 is recorded, and two calls have read it. -/
def bothRead : List Action :=
  [.ensurePendingConflict 0 7 "x", .write 0 0, .lookupConflict 1 .acceptLink,
    .lookupConflict 2 .reject]

theorem conflicts_resolved_soundly_rejected :
    Meets step Undisturbed (start none ∅) (bothRead ++ [.write 2 0]) ∧
      Always step Sound (start none ∅) (bothRead ++ [.write 2 0]) := by
  have h : Meets step Undisturbed (start none ∅) (bothRead ++ [.write 2 0]) := by decide +kernel
  exact ⟨h, conflicts_resolved_soundly none ∅ _ h⟩

/-- Both succeed: the conflict stays rejected, with an audited approval, and SCIM owns the user. -/
theorem rejected_conflict_approved :
    ∃ s, exec step (start none ∅) (bothRead ++ [.write 2 0, .write 1 0]) = some s ∧
      s.conflicts.lookup 0 = some ⟨7, some "x", .rejected, 1⟩ ∧
      s.audit.map Prod.fst = [.acceptLink, .reject] ∧ 7 ∈ s.scimOwned := by
  decide +kernel

end Zecurity.ScimConflicts
