import Mathlib.Data.Finset.Basic
import Zecurity.Runs
import Zecurity.ScimJson

/-!
The lifecycle of a user under the requests of a directory (`controller/internal/scim/users.go`,
`directory_service.go`): how `PUT`, `PATCH` and `DELETE` are read, and the three transactions that
they lead to.

A request with `active` goes to `Reactivate` or `Deprovision`, a request without it to `Update`,
which then leaves the status alone.
-/

namespace Zecurity.ScimLifecycle

open DeviceTrust FiniteMap Runs ScimJson Users
open PostureEvaluation (trimSpace)

/-! ### Requests -/

structure UserPatch where
  email : String
  active : Option Bool
  /-- the names of the attributes that the request touches -/
  attributes : List String

def UserPatch.empty : UserPatch := ⟨"", none, []⟩

def patchFromResource (resource : Object) : UserPatch :=
  let p :=
    match (resource.lookup "userName").bind Json.str? with
    | some v => { UserPatch.empty with email := trimSpace v, attributes := ["userName"] }
    | none => .empty
  match (resource.lookup "active").bind Json.bool? with
  | some b => { p with active := some b, attributes := p.attributes ++ ["active"] }
  | none => p

/-- `applyPatchValue` of one attribute. -/
def applyAttribute (p : UserPatch) (path : String) (value : Json) : UserPatch :=
  let lower := toLower (trimSpace path)
  if lower = "" ∨ lower = "emails" then
    match value with
    | .str s =>
      if s = "" then p else { p with email := s, attributes := p.attributes ++ ["emails"] }
    | _ => p
  else if lower = "username" ∨ lower = "user_name" then
    match value with
    | .str s => { p with email := s, attributes := p.attributes ++ ["userName"] }
    | _ => p
  else if lower = "active" then
    match value with
    | .bool b => { p with active := some b, attributes := p.attributes ++ ["active"] }
    | _ => p
  else p

/-- An object without a path stands for each of its attributes. -/
def applyPatchValue (p : UserPatch) (path : String) (value : Json) : UserPatch :=
  match toLower (trimSpace path), value with
  | "", .obj fields =>
    fields.foldl (fun p f => if trimSpace f.1 = "" then p else applyAttribute p f.1 f.2) p
  | _, _ => applyAttribute p path value

/-- An operation of another type is refused; the error is that type. -/
def applyOp (p : UserPatch) (op : Object) : Except String UserPatch :=
  let opType := toUpper (text op "op")
  if opType = "REPLACE" ∨ opType = "ADD" then
    .ok (applyPatchValue p (text op "path") ((op.lookup "value").getD .null))
  else if opType = "REMOVE" then .ok p
  else .error opType

def patchFromOps (ops : List Object) : Except String UserPatch := ops.foldlM applyOp .empty

/-- A request on a user; a body that cannot be decoded is the error of the decoder. -/
inductive Request
  | put (id : String) (body : Except String Object)
  | patch (id : String) (body : Except String (List Object))
  | delete (id : String) (hard : String)

/-! ### The service -/

structure State where
  users : UserTable
  links : Finset (UserId × ConnectionId)
  outbox : List Event

/-- What the surroundings decide about a request: how `uuid.Parse` and Postgres read an identifier,
how `%q` prints a text, the id that the event gets, and a statement that fails. -/
structure Setting where
  canonicalID : String → Option UserId
  castUuid : String → Option UserId
  quote : String → String
  correlationId : String
  fault : Option String

def notFound : SCIMError := ⟨404, "", "user not found"⟩

def lastAdminRefusal : SCIMError :=
  ⟨409, "mutability",
    "refused: this user is the workspace's last active admin; make another user Admin first"⟩

def supportedDirectoryAttr (name : String) : Bool :=
  decide (toLower name ∈ ["emails", "email", "active", "username"])

namespace State

variable (s : State) (env : Setting) (sc : Scope)

/-- `scopedProvisioningOwner`, and what each transaction makes of it. -/
def checkOwner (id : UserId) (conflict : String) : Except SCIMError Unit :=
  match (s.users.lookup id).filter fun row => row.tenantId = sc.workspaceId with
  | none => .error notFound
  | some row =>
    if row.provisioningOwner = .scim ∧ (id, sc.connectionId) ∈ s.links then .ok ()
    else .error ⟨409, "identity_conflict", conflict⟩

def guardLastAdmin (id : UserId) : Except SCIMError Unit :=
  let admins := (s.users.entries.filter fun e => isAdmin sc.workspaceId e.1 e.2).map Sigma.fst
  if lastAdminCheck admins [id] then .ok () else .error lastAdminRefusal

def checkFault : Except SCIMError Unit :=
  match env.fault with
  | none => .ok ()
  | some detail => .error ⟨500, "", detail⟩

def deprovision (userId : String) (hard : Bool) : Except SCIMError State :=
  match env.canonicalID userId with
  | none => .error notFound
  | some id => do
    s.checkOwner sc id "cannot deprovision a non-SCIM owned identity via SCIM"
    s.guardLastAdmin sc id
    checkFault env
    return { s with
      users := bump (setStatus s.users id sc.workspaceId (deprovisionedStatus hard)) id
        sc.workspaceId
      outbox := newDeviceTrustRevokeEvent sc.workspaceId id (deprovisionReason hard)
        env.correlationId :: s.outbox }

def reactivate (userId : String) : Except SCIMError State :=
  match env.castUuid userId with
  | none => .error notFound
  | some id => do
    s.checkOwner sc id "cannot reactivate a non-SCIM owned identity via SCIM"
    checkFault env
    return { s with
      users := setStatus s.users id sc.workspaceId .active
      outbox := newDeviceTrustReEnrollmentRequired sc.workspaceId id env.correlationId :: s.outbox }

/-- The `UPDATE` of `Update`. -/
def updateRow (patch : UserPatch) (row : UserRow) : UserRow :=
  { row with
    email := if patch.email = "" then row.email else patch.email
    status := patch.active.elim row.status fun b => if b then .active else .suspended }

/-- The attributes are ones that a directory owns. -/
def checkAttributes (patch : UserPatch) : Except SCIMError Unit :=
  match patch.attributes.find? fun name => !supportedDirectoryAttr name with
  | some name =>
    .error ⟨400, "invalidValue", "attribute not directory-owned in this release: " ++ name⟩
  | none => .ok ()

def update (userId : String) (patch : UserPatch) : Except SCIMError State :=
  match env.canonicalID userId with
  | none => .error notFound
  | some id => do
    s.checkOwner sc id "cannot update a non-SCIM owned identity via SCIM"
    checkAttributes patch
    (if patch.active = some false then s.guardLastAdmin sc id else .ok ())
    checkFault env
    return { s with users := updateWhere s.users (isUser id sc.workspaceId) (updateRow patch) }

/-- `dispatchActive`, and `Update` where it has nothing to do. -/
def dispatch (userId : String) (patch : UserPatch) : Except SCIMError State :=
  match patch.active with
  | some true => s.reactivate env sc userId
  | some false => s.deprovision env sc userId false
  | none => s.update env sc userId patch

def handle : Request → Except SCIMError State
  | .put _ (.error err) =>
    .error ⟨400, "invalidValue", "invalid SCIM User resource: " ++ err⟩
  | .put id (.ok resource) => s.dispatch env sc id (patchFromResource resource)
  | .patch _ (.error err) => .error ⟨400, "invalidValue", "invalid SCIM PATCH: " ++ err⟩
  | .patch id (.ok ops) =>
    match patchFromOps ops with
    | .error opType =>
      .error ⟨400, "invalidValue", "unsupported PATCH op " ++ env.quote opType⟩
    | .ok patch => s.dispatch env sc id patch
  | .delete id hard => s.deprovision env sc id (decide (hard = "true"))

end State

/-! ### The system -/

inductive Action
  | request (env : Setting) (sc : Scope) (req : Request)
  | others (s' : State)

/-- A request that is refused leaves everything as it is. -/
def step (s : State) : Action → Option State
  | .request env sc req => some ((s.handle env sc req).toOption.getD s)
  | .others s' => some s'

/-- The user's row before and after a request: one that was deleted does not come back. -/
def StaysDeleted (s : State) (a : Action) (s' : State) : Prop :=
  match a with
  | .others _ => True
  | .request _ _ _ => ∀ id row, s.users.lookup id = some row → row.status = .deleted →
      ∃ row', s'.users.lookup id = some row' ∧ row'.status ≠ .active ∧ row'.status ≠ .suspended

/-- A request that leaves an active user as something else bumps the generation and enqueues exactly
one event, which asks for the revocation of the user's devices. -/
def CutsAccess (s : State) (a : Action) (s' : State) : Prop :=
  match a with
  | .others _ => True
  | .request _ _ _ => ∀ id row, s.users.lookup id = some row → row.status = .active →
      ∃ row', s'.users.lookup id = some row' ∧ (row'.status = .active ∨
        row'.identityGeneration = row.identityGeneration + 1 ∧
        ∃ hard correlationId, row'.status = deprovisionedStatus hard ∧
          s'.outbox = newDeviceTrustRevokeEvent row.tenantId id (deprovisionReason hard)
            correlationId :: s.outbox)

/-! ### The condition -/

/-- The request asks for another status: it has `active`, or is a `DELETE` without `hard=true`. -/
def Request.revives : Request → Bool
  | .put _ body => body.toOption.any fun resource => (patchFromResource resource).active.isSome
  | .patch _ body =>
    (body.bind patchFromOps).toOption.any fun patch => patch.active.isSome
  | .delete _ hard => decide (hard ≠ "true")

def Request.id : Request → String
  | .put id _ | .patch id _ | .delete id _ => id

def State.notDeleted (s : State) (id : UserId) : Bool :=
  (s.users.lookup id).all fun row => !decide (row.status = .deleted)

/-- No such request is about a user who was deleted. -/
def SparesDeleted (s : State) : Action → Prop
  | .others _ => True
  | .request env _ req => req.revives = true →
      (env.canonicalID req.id).all s.notDeleted = true ∧
        (env.castUuid req.id).all s.notDeleted = true

instance (s : State) : DecidablePred (SparesDeleted s) := fun a => by
  cases a <;> unfold SparesDeleted <;> infer_instance

/-! ### What a request commits -/

section Requests

open Checks (bind_eq_ok)

variable {s s' : State} {env : Setting} {sc : Scope} {req : Request} {userId : String}

/-- The row of one user is changed, and no other. -/
def Changes (s s' : State) (sc : Scope) (id : UserId) (f : UserRow → UserRow) : Prop :=
  ∀ k, s'.users.lookup k =
    (s.users.lookup k).map fun row => if isUser id sc.workspaceId k row then f row else row

/-- What a request that succeeds has committed. -/
inductive Commits (s : State) (env : Setting) (sc : Scope) (req : Request) (s' : State) : Prop
  | updated (id : UserId) (patch : UserPatch) (hactive : patch.active = none)
      (hrows : Changes s s' sc id (State.updateRow patch))
  | reactivated (id : UserId) (hid : env.castUuid req.id = some id) (hreq : req.revives = true)
      (hrows : Changes s s' sc id fun row => { row with status := .active })
  | deprovisioned (id : UserId) (hard : Bool) (hid : env.canonicalID req.id = some id)
      (hreq : hard = false → req.revives = true)
      (hrows : Changes s s' sc id fun row =>
        { row with
          status := deprovisionedStatus hard
          identityGeneration := row.identityGeneration + 1 })
      (hout : s'.outbox = newDeviceTrustRevokeEvent sc.workspaceId id (deprovisionReason hard)
        env.correlationId :: s.outbox)

lemma lookup_bump_setStatus (users : UserTable) (id : UserId) (w : WorkspaceId)
    (status : UserStatus) (k : UserId) :
    (bump (setStatus users id w status) id w).lookup k =
      (users.lookup k).map fun row => if isUser id w k row then
        { row with status := status, identityGeneration := row.identityGeneration + 1 }
      else row := by
  rw [bump, lookup_updateWhere, setStatus, lookup_updateWhere, Option.map_map]
  congr 1
  funext row
  by_cases h : isUser id w k row = true
  · have h' : isUser id w k { row with status := status } = true := h
    simp only [Function.comp_apply, h, h', if_true]
  · simp only [Function.comp_apply, h, Bool.false_eq_true, if_false]

/-- The user is of the workspace. -/
def State.HasUser (s : State) (sc : Scope) (id : UserId) : Prop :=
  ∃ row, s.users.lookup id = some row ∧ row.tenantId = sc.workspaceId

lemma hasUser_of_checkOwner {id detail u} (h : s.checkOwner sc id detail = .ok u) :
    s.HasUser sc id := by
  unfold State.checkOwner at h
  split at h
  · cases h
  · next row hr =>
    obtain ⟨hr, ht⟩ := Option.filter_eq_some_iff.1 hr
    exact ⟨row, hr, by simpa using ht⟩

lemma deprovision_eq_ok {hard} (h : s.deprovision env sc userId hard = .ok s') :
    ∃ id, env.canonicalID userId = some id ∧ s.HasUser sc id ∧
      Changes s s' sc id (fun row =>
        { row with
          status := deprovisionedStatus hard
          identityGeneration := row.identityGeneration + 1 }) ∧
      s'.outbox = newDeviceTrustRevokeEvent sc.workspaceId id (deprovisionReason hard)
        env.correlationId :: s.outbox := by
  unfold State.deprovision at h
  split at h
  · cases h
  · next id hc =>
    obtain ⟨_, ho, h⟩ := bind_eq_ok.1 h
    obtain ⟨-, -, h⟩ := bind_eq_ok.1 h
    obtain ⟨-, -, h⟩ := bind_eq_ok.1 h
    cases h
    exact ⟨id, hc, hasUser_of_checkOwner ho, lookup_bump_setStatus s.users id _ _, rfl⟩

lemma reactivate_eq_ok (h : s.reactivate env sc userId = .ok s') :
    ∃ id, env.castUuid userId = some id ∧ s.HasUser sc id ∧
      Changes s s' sc id fun row => { row with status := .active } := by
  unfold State.reactivate at h
  split at h
  · cases h
  · next id hc =>
    obtain ⟨_, ho, h⟩ := bind_eq_ok.1 h
    obtain ⟨-, -, h⟩ := bind_eq_ok.1 h
    cases h
    exact ⟨id, hc, hasUser_of_checkOwner ho, fun k => lookup_updateWhere s.users _ _ k⟩

lemma update_eq_ok {patch} (h : s.update env sc userId patch = .ok s') :
    ∃ id, env.canonicalID userId = some id ∧ s.HasUser sc id ∧
      Changes s s' sc id (State.updateRow patch) := by
  unfold State.update at h
  split at h
  · cases h
  · next id hc =>
    obtain ⟨_, ho, h⟩ := bind_eq_ok.1 h
    obtain ⟨-, -, h⟩ := bind_eq_ok.1 h
    obtain ⟨-, -, h⟩ := bind_eq_ok.1 h
    obtain ⟨-, -, h⟩ := bind_eq_ok.1 h
    cases h
    exact ⟨id, hc, hasUser_of_checkOwner ho, fun k => lookup_updateWhere s.users _ _ k⟩

lemma commits_of_deprovision {hard} (hid : req.id = userId)
    (hr : hard = false → req.revives = true) (h : s.deprovision env sc userId hard = .ok s') :
    Commits s env sc req s' := by
  obtain ⟨id, hc, -, hch, ho⟩ := deprovision_eq_ok h
  exact .deprovisioned id hard (hid ▸ hc) hr hch ho

lemma commits_of_dispatch {patch} (hid : req.id = userId)
    (hr : patch.active.isSome → req.revives = true) (h : s.dispatch env sc userId patch = .ok s') :
    Commits s env sc req s' := by
  unfold State.dispatch at h
  split at h
  · next ha =>
    obtain ⟨id, hc, -, hch⟩ := reactivate_eq_ok h
    exact .reactivated id (hid ▸ hc) (hr (by rw [ha]; rfl)) hch
  · next ha => exact commits_of_deprovision hid (fun _ => hr (by rw [ha]; rfl)) h
  · next ha =>
    obtain ⟨id, -, -, hch⟩ := update_eq_ok h
    exact .updated id patch ha hch

lemma commits_of_handle (h : s.handle env sc req = .ok s') : Commits s env sc req s' := by
  cases req with
  | put id body =>
    cases body with
    | error err => cases h
    | ok res => exact commits_of_dispatch rfl (fun hs => hs) h
  | patch id body =>
    cases body with
    | error err => cases h
    | ok ops =>
      dsimp only [State.handle] at h
      split at h
      · cases h
      · next patch hp =>
        refine commits_of_dispatch rfl (fun hs => ?_) h
        have hb : (Except.ok ops).bind patchFromOps = .ok patch := hp
        rw [Request.revives, hb]
        exact hs
  | delete id hard =>
    refine commits_of_deprovision rfl (fun hsf => ?_) h
    simpa [Request.revives] using hsf

lemma Changes.row {id k} {f : UserRow → UserRow} {row} (h : Changes s s' sc id f)
    (hr : s.users.lookup k = some row) :
    s'.users.lookup k = some (if isUser id sc.workspaceId k row then f row else row) := by
  rw [h k, hr]
  rfl

lemma isUser_iff {id k w row} : isUser id w k row = true ↔ k = id ∧ row.tenantId = w := by
  simp [isUser]

lemma Commits.cutsAccess (h : Commits s env sc req s') : CutsAccess s (.request env sc req) s' := by
  intro k row hrow ha
  cases h with
  | updated id patch hp hr =>
    refine ⟨_, hr.row hrow, .inl ?_⟩
    split
    · simpa [State.updateRow, hp] using ha
    · exact ha
  | reactivated id hid hreq hr =>
    refine ⟨_, hr.row hrow, .inl ?_⟩
    split
    · rfl
    · exact ha
  | deprovisioned id hard hid hreq hr ho =>
    refine ⟨_, hr.row hrow, ?_⟩
    split
    · next ht =>
      obtain ⟨rfl, htn⟩ := isUser_iff.1 ht
      exact .inr ⟨rfl, hard, env.correlationId, rfl, htn ▸ ho⟩
    · exact .inl ha

lemma Commits.staysDeleted (h : Commits s env sc req s')
    (hs : SparesDeleted s (.request env sc req)) : StaysDeleted s (.request env sc req) s' := by
  intro k row hrow hd
  -- a request that revives is not about this user
  have ho : ∀ id, req.revives = true → env.canonicalID req.id = some id ∨
      env.castUuid req.id = some id → isUser id sc.workspaceId k row = false := by
    intro id hreq hid
    by_contra ht
    obtain ⟨rfl, -⟩ := isUser_iff.1 (by simpa using ht)
    obtain ⟨hc, hcs⟩ := hs hreq
    rcases hid with hid | hid
    · simp [hid, State.notDeleted, hrow, hd] at hc
    · simp [hid, State.notDeleted, hrow, hd] at hcs
  have hk : ∀ {new : UserRow}, new.status = .deleted →
      new.status ≠ .active ∧ new.status ≠ .suspended := by
    intro new hn
    rw [hn]
    decide
  cases h with
  | updated id patch hp hr =>
    refine ⟨_, hr.row hrow, hk ?_⟩
    split
    · simpa [State.updateRow, hp] using hd
    · exact hd
  | reactivated id hid hreq hr =>
    refine ⟨_, hr.row hrow, hk ?_⟩
    rw [ho id hreq (.inr hid)]
    exact hd
  | deprovisioned id hard hid hreq hr hout =>
    refine ⟨_, hr.row hrow, hk ?_⟩
    cases hard with
    | true =>
      split
      · rfl
      · exact hd
    | false =>
      rw [ho id (hreq rfl) (.inl hid)]
      exact hd

end Requests

/-- In every run of requests, whatever others do between them, a user who is made inactive loses
the generation and the devices in the same transaction. A user who was deleted stays so, if no
request with `active` and no `DELETE` without `hard=true` is about a deleted user. -/
theorem lifecycle_sound (s : State) (acts : List Action) :
    Always step CutsAccess s acts ∧
      (Meets step SparesDeleted s acts → Always step StaysDeleted s acts) := by
  constructor
  · intro pre a post u u' _ _ hs
    cases a with
    | others s'' => trivial
    | request env sc req =>
      cases hs
      cases hh : u.handle env sc req with
      | ok u' => exact (commits_of_handle hh).cutsAccess
      | error err => exact fun id row hr ha => ⟨row, hr, .inl ha⟩
  · intro hm pre a post u u' heq hp hs
    have hsp := meets_iff.1 hm pre a post u heq hp
    cases a with
    | others s'' => trivial
    | request env sc req =>
      cases hs
      cases hh : u.handle env sc req with
      | ok u' => exact (commits_of_handle hh).staysDeleted hsp
      | error err =>
        intro id row hr hd
        refine ⟨row, hr, ?_⟩
        rw [hd]
        decide

/-! ### Runs -/

def State.statusOf (s : State) (id : UserId) : Option UserStatus :=
  (s.users.lookup id).map UserRow.status

def annId : UserId := "aaaaaaaa-aaaa-aaaa-aaaa-aaaaaaaaaaaa"

def ofAcme : Scope := ⟨"acme", "okta"⟩

def withAnn : State :=
  ⟨AList.singleton annId ⟨"acme", "ann@x", .member, .active, 1, .scim⟩, {(annId, "okta")}, []⟩

def plain : Setting := ⟨some, some, String.quote, "c", none⟩

def activeOp (b : Bool) : Object := [("op", .str "replace"), ("value", .obj [("active", .bool b)])]

/-- The directory suspends the user, takes it back, and deletes the user for good; another update
of the user's name follows. -/
def inOrder : List Action :=
  [Action.request plain ofAcme (.patch annId (.ok [activeOp false])),
    .request plain ofAcme (.patch annId (.ok [activeOp true])),
    .request plain ofAcme (.delete annId "true"),
    .request plain ofAcme (.put annId (.ok [("userName", .str "ann@y")]))]

theorem lifecycle_sound_inOrder :
    Meets step SparesDeleted withAnn inOrder ∧
    Always step CutsAccess withAnn inOrder ∧
    Always step StaysDeleted withAnn inOrder ∧
    ∃ s ∈ exec step withAnn inOrder,
      s.statusOf annId = some .deleted ∧ s.outbox.length = 3 := by
  have hm : Meets step SparesDeleted withAnn inOrder := by decide +kernel
  obtain ⟨hc, hs⟩ := lifecycle_sound withAnn inOrder
  refine ⟨hm, hc, hs hm, ?_⟩
  decide +kernel

lemma not_staysDeleted {u u' env sc req id} (hd : u.statusOf id = some .deleted)
    (hb : u'.statusOf id = some .active ∨ u'.statusOf id = some .suspended) :
    ¬ StaysDeleted u (.request env sc req) u' := by
  intro h
  obtain ⟨row, hr, hst⟩ := Option.map_eq_some_iff.1 hd
  obtain ⟨row', hr', ha, hs⟩ := h id row hr hst
  rcases hb with hb | hb
  · exact ha (by simpa [State.statusOf, hr'] using hb)
  · exact hs (by simpa [State.statusOf, hr'] using hb)

def deleteForGood : Action := .request plain ofAcme (.delete annId "true")

/-- A user who was deleted for good is active again after `active=true`, and suspended after a
`DELETE` without `hard=true`. -/
theorem deleted_comes_back :
    ¬ Always step StaysDeleted withAnn
      [deleteForGood, .request plain ofAcme (.patch annId (.ok [activeOp true]))] ∧
    ¬ Always step StaysDeleted withAnn
      [deleteForGood, .request plain ofAcme (.delete annId "")] := by
  constructor
  · intro h
    obtain ⟨u, hu, hd, u', hu', hb⟩ : ∃ u ∈ exec step withAnn [deleteForGood],
        u.statusOf annId = some .deleted ∧
          ∃ u' ∈ step u (.request plain ofAcme (.patch annId (.ok [activeOp true]))),
            u'.statusOf annId = some .active := by
      decide +kernel
    exact not_staysDeleted hd (.inl hb) (h [deleteForGood] _ [] u u' rfl hu hu')
  · intro h
    obtain ⟨u, hu, hd, u', hu', hb⟩ : ∃ u ∈ exec step withAnn [deleteForGood],
        u.statusOf annId = some .deleted ∧ ∃ u' ∈ step u (.request plain ofAcme (.delete annId "")),
            u'.statusOf annId = some .suspended := by
      decide +kernel
    exact not_staysDeleted hd (.inr hb) (h [deleteForGood] _ [] u u' rfl hu hu')

end Zecurity.ScimLifecycle
