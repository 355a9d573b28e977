import Mathlib.Data.Finset.Image
import Zecurity.ScimJson

/-!
The groups of a directory (`controller/internal/scim/groups.go`), and the five requests on one.

Every statement looks for its group anew, by `id::text = $x OR external_id = $x`. External ids are
unique within a connection, but one may be the id of another group: a statement that reads takes
the first of two rows, `UPDATE` and `DELETE` take both.
-/

namespace Zecurity.ScimGroups

open FiniteMap Option ScimJson Users
open PostureEvaluation (trimSpace)

/-! ### References to members -/

/-- A row of `external_identities`. -/
structure Link where
  userId : UserId
  connectionId : ConnectionId
  subject : String

/-- The users, and how `uuid.Parse` and Postgres read an identifier. -/
structure Directory where
  users : UserTable
  links : List Link
  canonicalID : String → Option UserId
  castUuid : String → Option UserId

/-- A reference with the user that it stands for. -/
abbrev Ref := String × Option UserId

def idsOf (refs : List Ref) : Finset UserId := (refs.filterMap Prod.snd).toFinset

def checkKnown (refs : List Ref) : Except SCIMError Unit :=
  match refs.filter fun r => r.2.isNone with
  | [] => .ok ()
  | unknowns =>
    .error ⟨404, "", "unknown members: " ++ ", ".intercalate (unknowns.map Prod.fst)⟩

inductive Verb
  | add
  | remove
  | replace

structure PatchOp where
  op : String
  values : List String

structure ResolvedOp where
  verb : Verb
  refs : List Ref

def PatchOp.verb (p : PatchOp) : Except SCIMError Verb :=
  match toUpper (trimSpace p.op) with
  | "ADD" => .ok .add
  | "REMOVE" => .ok .remove
  | "REPLACE" => .ok .replace
  | uop => .error ⟨400, "invalidValue", "unsupported group patch op: " ++ uop⟩

def ResolvedOp.apply (working : Finset UserId) (o : ResolvedOp) : Finset UserId :=
  match o.verb with
  | .add => working ∪ idsOf o.refs
  | .remove => working \ idsOf o.refs
  | .replace => idsOf o.refs

namespace Directory

variable (d : Directory) (sc : Scope)

/-- The users of the scope with a link that passes the test. -/
def usersWhere (p : Link → Bool) : List UserId :=
  ((d.links.filter fun l => decide (l.connectionId = sc.connectionId) && p l &&
    (d.users.lookup l.userId).any fun row =>
      decide (row.tenantId = sc.workspaceId) && decide (row.status ≠ .deleted)).map
    Link.userId).dedup

def userIDsByExternalOrUUID (value : String) : Except String (List UserId) :=
  match d.usersWhere sc fun l => decide (l.subject = value) with
  | id :: ids => .ok (id :: ids)
  | [] =>
    match d.canonicalID value with
    | none => .ok []
    | some _ =>
      match d.castUuid value with
      | none => .error "resolve member by id: invalid input syntax for type uuid"
      | some id => .ok (d.usersWhere sc fun l => decide (l.userId = id))

def resolve (value : String) : Except SCIMError Ref :=
  match d.userIDsByExternalOrUUID sc value with
  | .error err => .error ⟨500, "", "resolve members: " ++ err⟩
  | .ok ids => .ok (value, ids.head?)

def resolveMembers (values : List String) : Except SCIMError (Finset UserId) := do
  let refs ← values.mapM (d.resolve sc)
  checkKnown refs
  return idsOf refs

def resolveOps (ops : List PatchOp) : Except SCIMError (List ResolvedOp) := do
  let resolved ← ops.mapM fun p => do
    let verb ← p.verb
    let refs ← p.values.mapM (d.resolve sc)
    return ⟨verb, refs⟩
  checkKnown (resolved.flatMap ResolvedOp.refs)
  return resolved

end Directory

/-! ### Groups -/

abbrev GroupId := String

/-- `origin`, with the columns that only a group of a directory has. -/
inductive Origin
  | manual
  | system
  | scim (connectionId : ConnectionId) (externalId : String)
  deriving DecidableEq

structure GroupRow where
  workspaceId : WorkspaceId
  name : String
  origin : Origin

abbrev Group := GroupId × GroupRow

def externalId (sc : Scope) (g : GroupRow) : Option String :=
  match g.origin with
  | .scim connectionId externalId =>
    if g.workspaceId = sc.workspaceId ∧ connectionId = sc.connectionId then some externalId
    else none
  | _ => none

variable {i : GroupId} {g : GroupRow}

lemma externalId_eq_some {sc ext} :
    externalId sc g = some ext ↔
      g.workspaceId = sc.workspaceId ∧ g.origin = .scim sc.connectionId ext := by
  unfold externalId
  cases g.origin <;> simp [and_assoc]

/-- The `WHERE` clause of every statement. -/
def isTarget (sc : Scope) (idOrExternal : String) (id : GroupId) (g : GroupRow) : Bool :=
  (externalId sc g).any fun ext => decide (id = idOrExternal) || decide (ext = idOrExternal)

/-- The tables; external ids are unique by `idx_groups_scim_external_id`. -/
structure Tables where
  groups : Map GroupId GroupRow
  members : Finset (GroupId × UserId)
  unique : ∀ sc ext i j g h, groups.lookup i = some g → groups.lookup j = some h →
    externalId sc g = some ext → externalId sc h = some ext → i = j

inductive Request
  | get
  | update (displayName : String)
  /-- without members the membership is left alone -/
  | replace (displayName : String) (members : Option (List String))
  | patch (ops : List PatchOp)
  | delete

def groupNotFound : SCIMError := ⟨404, "", "group not found"⟩

/-- `SET name = COALESCE(NULLIF($3, ''), name)` -/
def setName (displayName : String) (g : GroupRow) : GroupRow :=
  { g with name := if displayName = "" then g.name else displayName }

lemma exists_of_lookup_setName {gs} {p : GroupId → GroupRow → Bool} {dn}
    (h : (updateWhere gs p (setName dn)).lookup i = some g) :
    ∃ old, gs.lookup i = some old ∧ ∀ sc, externalId sc g = externalId sc old := by
  obtain ⟨old, hold, ⟨-, rfl⟩ | ⟨-, rfl⟩⟩ := lookup_updateWhere_eq_some.1 h
  · exact ⟨old, hold, fun _ => rfl⟩
  · exact ⟨g, hold, fun _ => rfl⟩

namespace Tables

variable (t : Tables) (d : Directory) (sc : Scope) (x : String)

/-- The rows that a statement meets, of which a read takes the first. -/
def first : Option Group :=
  (t.groups.entries.find? fun e => isTarget sc x e.1 e.2).map fun e => (e.1, e.2)

def getGroup : Except SCIMError (Option Group) :=
  match t.first sc x with
  | none => .error groupNotFound
  | some g => .ok (some g)

def membersOf (id : GroupId) : Finset UserId :=
  (t.members.filter fun m => m.1 = id).image Prod.snd

def listGroupMembers : Finset UserId :=
  (t.members.filter fun m => (t.groups.lookup m.1).any (isTarget sc x m.1)).image Prod.snd

def rename (displayName : String) : Tables where
  groups := updateWhere t.groups (isTarget sc x) (setName displayName)
  members := t.members
  unique := by
    intro sc' ext i j g h hi hj hg hh
    obtain ⟨g', hi', hgg'⟩ := exists_of_lookup_setName hi
    obtain ⟨h', hj', hhh'⟩ := exists_of_lookup_setName hj
    exact t.unique sc' ext i j g' h' hi' hj' (hgg' sc' ▸ hg) (hhh' sc' ▸ hh)

/-- The `DELETE` of the members and the `INSERT` of each new one. -/
def setMembers (id : GroupId) (users : Finset UserId) : Tables :=
  { t with members := (t.members.filter fun m => m.1 ≠ id) ∪ users.image fun u => (id, u) }

/-- The `DELETE` of the groups, which takes the memberships with it. -/
def remove : Tables where
  groups := retain t.groups fun id g => !isTarget sc x id g
  members := t.members.filter fun m => !(t.groups.lookup m.1).any (isTarget sc x m.1)
  unique := by
    intro sc' ext i j g h hi hj
    exact t.unique sc' ext i j g h (lookup_retain_eq_some.1 hi).1 (lookup_retain_eq_some.1 hj).1

def addAndRemove (id : GroupId) (toAdd toRemove : Finset UserId) : Tables :=
  { t with members := (t.members ∪ toAdd.image fun u => (id, u)) \ toRemove.image fun u => (id, u) }

def applyGroupMembershipDelta (toAdd toRemove : Finset UserId) : Except String Tables :=
  match t.first sc x with
  | none => .error "resolve group id: no rows in result set"
  | some g => .ok (t.addAndRemove g.1 toAdd toRemove)

/-! ### Requests -/

/-- An answer, with the tables that it leaves. -/
abbrev Reply := Except SCIMError (Option Group) × Tables

def updateGroup (displayName : String) : Reply :=
  match (t.rename sc x displayName).first sc x with
  | none => (.error groupNotFound, t)
  | some g => (.ok (some g), t.rename sc x displayName)

def replaceGroup (displayName : String) : Option (List String) → Reply
  | none => t.updateGroup sc x displayName
  | some values =>
    match d.resolveMembers sc values with
    | .error err => (.error err, t)
    | .ok target =>
      match (t.rename sc x displayName).first sc x with
      | none => (.error groupNotFound, t)
      | some g => (.ok (some g), (t.rename sc x displayName).setMembers g.1 target)

def patchGroup : List PatchOp → Reply
  | [] => (t.getGroup sc x, t)
  | ops =>
    match d.resolveOps sc ops with
    | .error err => (.error err, t)
    | .ok resolved =>
      let current := t.listGroupMembers sc x
      let working := resolved.foldl ResolvedOp.apply current
      match t.applyGroupMembershipDelta sc x (working \ current) (current \ working) with
      | .error err => (.error ⟨500, "", "apply membership: " ++ err⟩, t)
      | .ok t' => (t'.getGroup sc x, t')

def deleteGroup : Reply :=
  match t.first sc x with
  | none => (.error groupNotFound, t)
  | some _ => (.ok none, t.remove sc x)

def serve : Request → Reply
  | .get => (t.getGroup sc x, t)
  | .update displayName => t.updateGroup sc x displayName
  | .replace displayName members => t.replaceGroup d sc x displayName members
  | .patch ops => t.patchGroup d sc x ops
  | .delete => t.deleteGroup sc x

end Tables

/-! ### What a request asks for -/

namespace Request

variable (d : Directory) (sc : Scope)

/-- Every reference of the request is resolved, and its operations are known. -/
def admitted : Request → Bool
  | .replace _ (some values) => (d.resolveMembers sc values).isOk
  | .patch ops => (d.resolveOps sc ops).isOk
  | _ => true

/-- The row of the group afterwards. -/
def row (g : Option GroupRow) : Request → Option GroupRow
  | .get | .patch _ => g
  | .update displayName | .replace displayName _ => g.map (setName displayName)
  | .delete => none

/-- The members of the group afterwards. -/
def membership (m : Finset UserId) : Request → Finset UserId
  | .get | .update _ | .replace _ none => m
  | .replace _ (some values) => (d.resolveMembers sc values).toOption.getD m
  | .patch ops => (d.resolveOps sc ops).toOption.elim m fun ops => ops.foldl ResolvedOp.apply m
  | .delete => ∅

end Request

/-- The request reads, answers and changes the group `o`, and no other. -/
structure ServedAs (t : Tables) (d : Directory) (sc : Scope) (x : String) (o : Option GroupId)
    (req : Request) : Prop where
  read : t.listGroupMembers sc x = o.elim ∅ t.membersOf
  accepted : (t.serve d sc x req).1.isOk = (o.isSome && req.admitted d sc)
  answered : ∀ g, (t.serve d sc x req).1 = .ok (some g) → o = some g.1
  changed : ∀ id r, o = some id → (t.serve d sc x req).1 = .ok r →
    (t.serve d sc x req).2.groups.lookup id = req.row (t.groups.lookup id) ∧
    (t.serve d sc x req).2.membersOf id = req.membership d sc (t.membersOf id)
  frame : ∀ id, o ≠ some id →
    (t.serve d sc x req).2.groups.lookup id = t.groups.lookup id ∧
    (t.serve d sc x req).2.membersOf id = t.membersOf id

/-- The identifier is not both the id of a group of the scope and the external id of another. -/
def Unambiguous (t : Tables) (sc : Scope) (x : String) : Prop :=
  ∀ g, t.groups.lookup x = some g → (externalId sc g).isSome →
    ∀ i h, t.groups.lookup i = some h → externalId sc h = some x → i = x

/-! ### One group -/

section OneGroup

variable {t : Tables} {d : Directory} {sc : Scope} {x : String} {o : Option GroupId}

/-- The rows that match the identifier are the one of `o`. -/
structure Resolves (t : Tables) (sc : Scope) (x : String) (o : Option GroupId) : Prop where
  target : ∀ k g, t.groups.lookup k = some g → (isTarget sc x k g = true ↔ o = some k)
  found : ∀ k, o = some k → ∃ g, t.groups.lookup k = some g

lemma Resolves.any (h : Resolves t sc x o) (k : GroupId) :
    (t.groups.lookup k).any (isTarget sc x k) = true ↔ o = some k := by
  cases hk : t.groups.lookup k with
  | none =>
    refine iff_of_false (by simp) fun ho => ?_
    obtain ⟨g, hg⟩ := h.found k ho
    rw [hk] at hg
    cases hg
  | some g => exact h.target k g hk

lemma first_eq_some {k} (h : t.first sc x = some (k, g)) :
    t.groups.lookup k = some g ∧ isTarget sc x k g = true := by
  obtain ⟨e, he, heq⟩ := map_eq_some_iff.1 h
  cases heq
  exact ⟨AList.mem_lookup_iff.2 (List.mem_of_find?_eq_some he),
    List.find?_some (p := fun e : (_ : GroupId) × GroupRow => isTarget sc x e.1 e.2) he⟩

lemma first_eq_none (h : t.first sc x = none) {k} (hk : t.groups.lookup k = some g) :
    isTarget sc x k g = false := by
  have := List.find?_eq_none.1 (map_eq_none_iff.1 h) _ (AList.mem_lookup_iff.1 hk)
  simpa using this

lemma Resolves.first_none (h : Resolves t sc x none) : t.first sc x = none := by
  cases hf : t.first sc x with
  | none => rfl
  | some e =>
    obtain ⟨hk, ht⟩ := first_eq_some hf
    cases (h.target _ _ hk).1 ht

lemma Resolves.first_some {k} (h : Resolves t sc x (some k)) : ∃ g, t.first sc x = some (k, g) := by
  cases hf : t.first sc x with
  | none =>
    obtain ⟨g, hg⟩ := h.found k rfl
    have := (h.target k g hg).2 rfl
    rw [first_eq_none hf hg] at this
    cases this
  | some e =>
    obtain ⟨hk, ht⟩ := first_eq_some hf
    cases (h.target _ _ hk).1 ht
    exact ⟨e.2, rfl⟩

lemma isTarget_iff {k} :
    isTarget sc x k g = true ↔ ∃ ext, externalId sc g = some ext ∧ (k = x ∨ ext = x) := by
  simp [isTarget, any_eq_true]

lemma Unambiguous.target_unique (h : Unambiguous t sc x) {j gi gj}
    (hi : t.groups.lookup i = some gi) (hj : t.groups.lookup j = some gj)
    (hix : isTarget sc x i gi = true) (hjx : isTarget sc x j gj = true) : i = j := by
  obtain ⟨exti, he, rfl | rfl⟩ := isTarget_iff.1 hix
  all_goals obtain ⟨extj, hex, rfl | rfl⟩ := isTarget_iff.1 hjx
  · rfl
  · exact (h gi hi (by simp [he]) j gj hj hex).symm
  · exact h gj hj (by simp [hex]) i gi hi he
  · exact t.unique sc _ i j gi gj hi hj he hex

lemma Unambiguous.resolves (h : Unambiguous t sc x) :
    Resolves t sc x ((t.first sc x).map Prod.fst) := by
  cases hf : t.first sc x with
  | none =>
    refine ⟨fun k g hk => ?_, by simp⟩
    rw [first_eq_none hf hk]
    exact iff_of_false (by decide) (by simp)
  | some e =>
    obtain ⟨hfr, ht⟩ := first_eq_some hf
    refine ⟨fun k g hk => ⟨fun hkx => ?_, ?_⟩, fun k hk => ?_⟩
    · rw [h.target_unique hk hfr hkx ht]
      rfl
    · rintro heq
      cases heq
      rw [hfr] at hk
      cases hk
      exact ht
    · cases hk
      exact ⟨e.2, hfr⟩

@[simp] lemma mem_membersOf {id : GroupId} {u : UserId} :
    u ∈ t.membersOf id ↔ (id, u) ∈ t.members := by
  simp [Tables.membersOf]

lemma Resolves.listGroupMembers (h : Resolves t sc x o) :
    t.listGroupMembers sc x = o.elim ∅ t.membersOf := by
  have hm : ∀ u, u ∈ t.listGroupMembers sc x ↔ ∃ k, o = some k ∧ (k, u) ∈ t.members := by
    intro u
    simp only [Tables.listGroupMembers, Finset.mem_image, Finset.mem_filter, h.any, Prod.exists]
    grind
  ext u
  rw [hm]
  cases o <;> simp

lemma Resolves.rename (h : Resolves t sc x o) (dn : String) :
    Resolves (t.rename sc x dn) sc x o where
  target k g hk := by
    obtain ⟨old, hold, he⟩ := exists_of_lookup_setName hk
    rw [isTarget, he sc]
    exact h.target k old hold
  found k ho := by
    obtain ⟨g, hg⟩ := h.found k ho
    exact isSome_iff_exists.1 (isSome_lookup_updateWhere.trans (by rw [hg]; rfl))

lemma Resolves.lookup_rename (h : Resolves t sc x o) (dn : String) (k : GroupId) :
    (t.rename sc x dn).groups.lookup k = if o = some k then (t.groups.lookup k).map (setName dn)
      else t.groups.lookup k := by
  rw [Tables.rename, lookup_updateWhere]
  cases hk : t.groups.lookup k with
  | none => simp
  | some g => by_cases ho : o = some k <;> simp [h.target k g hk, ho]

lemma membersOf_setMembers (id k : GroupId) (users : Finset UserId) :
    (t.setMembers id users).membersOf k = if k = id then users else t.membersOf k := by
  ext u
  by_cases hk : k = id
  · subst hk
    simp [Tables.setMembers]
  · simp [Tables.setMembers, hk, Ne.symm hk]

lemma membersOf_delta (id k : GroupId) (working : Finset UserId) :
    (t.addAndRemove id (working \ t.membersOf id) (t.membersOf id \ working)).membersOf k =
      if k = id then working else t.membersOf k := by
  ext u
  by_cases hk : k = id
  · subst hk
    by_cases hu : u ∈ working <;> simp [Tables.addAndRemove, hu, em]
  · simp [Tables.addAndRemove, hk, Ne.symm hk]

/-! ### Requests -/

/-- The tables differ in the row and the members of one group. -/
def ChangesOnly (t t' : Tables) (k : GroupId) (row : Option GroupRow) (users : Finset UserId) :
    Prop :=
  ∀ id, t'.groups.lookup id = (if id = k then row else t.groups.lookup id) ∧
    t'.membersOf id = if id = k then users else t.membersOf id

lemma ChangesOnly.refl (k : GroupId) : ChangesOnly t t k (t.groups.lookup k) (t.membersOf k) := by
  intro id
  by_cases hid : id = k
  · subst hid
    simp
  · simp [hid]

section Served

variable {k : GroupId} (h : Resolves t sc x (some k))
include h

lemma Resolves.changesOnly_rename (dn : String) :
    ChangesOnly t (t.rename sc x dn) k
      ((t.groups.lookup k).map (setName dn)) (t.membersOf k) := by
  intro id
  rw [h.lookup_rename]
  by_cases hid : id = k
  · subst hid
    exact ⟨by simp, by simp; rfl⟩
  · exact ⟨by simp [hid, Ne.symm hid], by simp [hid]; rfl⟩

lemma Resolves.getGroup : ∃ g, t.getGroup sc x = .ok (some (k, g)) := by
  obtain ⟨g, hg⟩ := h.first_some
  exact ⟨g, by rw [Tables.getGroup, hg]⟩

lemma Resolves.changesOnly_remove : ChangesOnly t (t.remove sc x) k none ∅ := by
  intro id
  constructor
  · refine Option.ext fun g => ?_
    rw [Tables.remove, lookup_retain_eq_some]
    split
    · next hid =>
      subst hid
      refine iff_of_false (fun hg => ?_) (by simp)
      simp [(h.target id g hg.1).2 rfl] at hg
    · next hid =>
      refine and_iff_left_of_imp fun hg => ?_
      have := mt (h.target id g hg).1 (by simpa using Ne.symm hid)
      simpa using this
  · ext u
    have ha := h.any id
    by_cases hid : id = k
    · subst hid
      simp [Tables.remove, ha.2 rfl]
    · have := mt ha.1 (by simpa using Ne.symm hid)
      simp [Tables.remove, hid, this]

/-- A request whose references are resolved succeeds, and does what it asks for to the group. -/
lemma Resolves.serve (req : Request) (ha : req.admitted d sc = true) :
    ∃ r t', t.serve d sc x req = (.ok r, t') ∧ (∀ g, r = some g → g.1 = k) ∧
      ChangesOnly t t' k (req.row (t.groups.lookup k)) (req.membership d sc (t.membersOf k)) := by
  have hu : ∀ dn, ∃ r t', t.updateGroup sc x dn = (.ok r, t') ∧ (∀ g, r = some g → g.1 = k) ∧
      ChangesOnly t t' k ((t.groups.lookup k).map (setName dn)) (t.membersOf k) := by
    intro dn
    obtain ⟨g, hg⟩ := (h.rename dn).first_some
    refine ⟨some (k, g), _, by rw [Tables.updateGroup, hg], ?_, h.changesOnly_rename dn⟩
    rintro _ ⟨⟩
    rfl
  cases req with
  | get =>
    obtain ⟨g, hg⟩ := h.getGroup
    refine ⟨some (k, g), t, by rw [Tables.serve, hg], ?_, .refl k⟩
    rintro _ ⟨⟩
    rfl
  | update dn => exact hu dn
  | replace dn ms =>
    cases ms with
    | none => exact hu dn
    | some vs =>
      cases hv : d.resolveMembers sc vs with
      | error err =>
        rw [Request.admitted, hv] at ha
        cases ha
      | ok tgt =>
        obtain ⟨g, hg⟩ := (h.rename dn).first_some
        refine ⟨some (k, g), _, by rw [Tables.serve, Tables.replaceGroup, hv, hg], ?_, ?_⟩
        · rintro _ ⟨⟩
          rfl
        · intro id
          obtain ⟨hr, hm⟩ := h.changesOnly_rename dn id
          refine ⟨hr, ?_⟩
          rw [membersOf_setMembers, hm, Request.membership, hv]
          by_cases hid : id = k <;> simp [hid, Except.toOption]
  | patch ops =>
    cases hops : d.resolveOps sc ops with
    | error err =>
      rw [Request.admitted, hops] at ha
      cases ha
    | ok res =>
      rw [Request.membership, hops]
      cases ops with
      | nil =>
        cases hops
        obtain ⟨g, hg⟩ := h.getGroup
        refine ⟨some (k, g), t, by rw [Tables.serve, Tables.patchGroup, hg], ?_, .refl k⟩
        rintro _ ⟨⟩
        rfl
      | cons op ops =>
        obtain ⟨g, hg⟩ := h.first_some
        -- the rows are as before, and so is the one that is answered
        have hget : ∀ add remove, (t.addAndRemove k add remove).getGroup sc x = t.getGroup sc x :=
          fun _ _ => rfl
        refine ⟨some (k, g), _, ?_, ?_, fun id => ⟨?_, membersOf_delta k id _⟩⟩
        · simp only [Tables.serve, Tables.patchGroup, hops, h.listGroupMembers, elim_some,
            Tables.applyGroupMembershipDelta, hg, hget, Except.toOption]
          rw [Tables.getGroup, hg]
        · rintro _ ⟨⟩
          rfl
        · exact (ChangesOnly.refl k id).1
  | delete =>
    obtain ⟨g, hg⟩ := h.first_some
    exact ⟨none, _, by rw [Tables.serve, Tables.deleteGroup, hg], by simp, h.changesOnly_remove⟩

end Served

lemma serve_error (h : Resolves t sc x o) (req : Request)
    (hno : (o.isSome && req.admitted d sc) = false) :
    ∃ err, t.serve d sc x req = (.error err, t) := by
  -- a request that is admitted fails because no row matches
  have hn : req.admitted d sc = true → t.first sc x = none ∧
      ∀ dn, (t.rename sc x dn).first sc x = none := by
    intro ha
    rw [ha, Bool.and_true] at hno
    obtain rfl := isNone_iff_eq_none.1 (by simpa using hno)
    exact ⟨h.first_none, fun dn => (h.rename dn).first_none⟩
  cases req with
  | get => exact ⟨_, by rw [Tables.serve, Tables.getGroup, (hn rfl).1]⟩
  | update dn => exact ⟨_, by rw [Tables.serve, Tables.updateGroup, (hn rfl).2]⟩
  | replace dn ms =>
    cases ms with
    | none => exact ⟨_, by rw [Tables.serve, Tables.replaceGroup, Tables.updateGroup, (hn rfl).2]⟩
    | some vs =>
      cases hv : d.resolveMembers sc vs with
      | error err => exact ⟨err, by rw [Tables.serve, Tables.replaceGroup, hv]⟩
      | ok tgt =>
        have hf := (hn (by rw [Request.admitted, hv]; rfl)).2 dn
        exact ⟨_, by rw [Tables.serve, Tables.replaceGroup, hv, hf]⟩
  | patch ops =>
    cases ops with
    | nil => exact ⟨_, by rw [Tables.serve, Tables.patchGroup, Tables.getGroup, (hn rfl).1]⟩
    | cons op ops =>
      cases hops : d.resolveOps sc (op :: ops) with
      | error err => exact ⟨err, by simp only [Tables.serve, Tables.patchGroup, hops]⟩
      | ok res =>
        have hf := (hn (by rw [Request.admitted, hops]; rfl)).1
        exact ⟨_, by simp only [Tables.serve, Tables.patchGroup, hops,
          Tables.applyGroupMembershipDelta, hf]; rfl⟩
  | delete => exact ⟨_, by rw [Tables.serve, Tables.deleteGroup, (hn rfl).1]⟩

lemma Resolves.servedAs (h : Resolves t sc x o) (req : Request) : ServedAs t d sc x o req := by
  cases hok : o.isSome && req.admitted d sc with
  | false =>
    obtain ⟨err, he⟩ := serve_error h req hok
    refine ⟨h.listGroupMembers, ?_, ?_, ?_, ?_⟩ <;> rw [he]
    · rw [hok]
      rfl
    · rintro g ⟨⟩
    · rintro id r - ⟨⟩
    · exact fun id _ => ⟨rfl, rfl⟩
  | true =>
    obtain ⟨hsm, hadm⟩ := Bool.and_eq_true_iff.1 hok
    obtain ⟨k, rfl⟩ := isSome_iff_exists.1 hsm
    obtain ⟨r, t', hs, ha, ho⟩ := h.serve req hadm
    refine ⟨h.listGroupMembers, ?_, ?_, ?_, ?_⟩ <;> rw [hs]
    · rw [hok]
      rfl
    · rintro g ⟨⟩
      rw [ha g rfl]
    · rintro _ r' ⟨⟩ -
      simpa using ho k
    · intro id hid
      have hne : id ≠ k := fun heq => hid (heq ▸ rfl)
      simpa [hne] using ho id

lemma ServedAs.eq_of_target {k} (h : ServedAs t d sc x o .delete)
    (hk : t.groups.lookup k = some g) (ht : isTarget sc x k g = true) : o = some k := by
  by_contra hne
  obtain ⟨hr, -⟩ := h.frame k hne
  cases hf : t.first sc x with
  | none =>
    rw [first_eq_none hf hk] at ht
    cases ht
  | some e =>
    rw [Tables.serve, Tables.deleteGroup, hf, hk] at hr
    obtain ⟨-, hkp⟩ := lookup_retain_eq_some.1 hr
    rw [ht] at hkp
    cases hkp

/-- All requests with the identifier are served as ones on one and the same group, with nothing
else read or changed, unless it is the id of one group of the connection and the external id of
another. -/
theorem serves_one_group (t : Tables) (d : Directory) (sc : Scope) (x : String) :
    (∃ o, ∀ req, ServedAs t d sc x o req) ↔ Unambiguous t sc x := by
  constructor
  · rintro ⟨o, h⟩ g hx hs i g' hi he
    obtain ⟨ext, hg⟩ := isSome_iff_exists.1 hs
    have hox := (h .delete).eq_of_target hx (isTarget_iff.2 ⟨ext, hg, .inl rfl⟩)
    have hoi := (h .delete).eq_of_target hi (isTarget_iff.2 ⟨x, he, .inr rfl⟩)
    rw [hox] at hoi
    exact (some.inj hoi).symm
  · intro h
    exact ⟨_, h.resolves.servedAs⟩

end OneGroup

/-! ### Two groups with one identifier -/

/-- The directory has given the second group the id of the first as its external id. -/
def clash : Tables where
  groups := (AList.singleton "g2" ⟨"acme", "Ops", .scim "okta" "g1"⟩).insert "g1"
    ⟨"acme", "Dev", .scim "okta" "dev"⟩
  members := {("g1", "ann"), ("g2", "bob")}
  unique := by
    intro sc ext i j g h hi hj hg hh
    rw [externalId_eq_some] at hg hh
    rw [lookup_insert_eq_some, lookup_singleton_eq_some] at hi hj
    rcases hi with ⟨rfl, rfl⟩ | ⟨-, rfl, rfl⟩
    all_goals rcases hj with ⟨rfl, rfl⟩ | ⟨-, rfl, rfl⟩
    · rfl
    · exact absurd (hg.2.trans hh.2.symm) (by decide)
    · exact absurd (hg.2.trans hh.2.symm) (by decide)
    · rfl

def ofAcme : Scope := ⟨"acme", "okta"⟩

def noUsers : Directory := ⟨∅, [], fun _ => none, fun _ => none⟩

/-- A `DELETE` of the first group takes the second with it, and a new name of the first is one of
the second. -/
theorem deletes_both_groups :
    ¬ (∃ o, ∀ req, ServedAs clash noUsers ofAcme "g1" o req) ∧
    (clash.serve noUsers ofAcme "g1" .delete).2.groups.lookup "g2" = none ∧
    ((clash.serve noUsers ofAcme "g1" (.update "Core")).2.groups.lookup "g2").map GroupRow.name =
      some "Core" := by
  refine ⟨?_, by decide +kernel, by decide +kernel⟩
  rintro ⟨o, h⟩
  have h1 : o = some "g1" := (h .delete).eq_of_target rfl (by decide +kernel)
  have h2 : o = some "g2" := (h .delete).eq_of_target rfl (by decide +kernel)
  rw [h1] at h2
  exact absurd h2 (by decide)

end Zecurity.ScimGroups
