import Zecurity.PostureEvaluation
import Zecurity.PostureFreshness

/-!
Resource policies and device profiles in the database, and the two reads of them that a
compile makes (`controller/internal/posture/store.go`,
`controller/internal/posture/resource_policy.go`, migration 049).

One workspace is modelled. A writer is one transaction; a failed one changes nothing, so a
database failure is no step at all. Identifiers that the database generates are arguments.
Timestamps, descriptions and the parameters of a requirement are left out. The compiler reads the
profiles first and the resources' profile ids second; a listed id that the first read did not
return is dropped.
-/

namespace Zecurity.PostureDb

open Posture Checks Compiler PostureFreshness List
open PostureEvaluation (trimSpace)

structure ProfileRow where
  id : Uuid
  name : String
  revision : Int
  requirements : List String

structure PolicyRow where
  id : Uuid
  name : String
  isDefault : Bool

structure Db where
  profiles : List ProfileRow
  policies : List PolicyRow
  /-- `resource_policy_profiles`: policy id and profile id -/
  policyProfiles : List (Uuid × Uuid)
  resources : List (Uuid × Uuid)

/-! ### The reads -/

def listProfiles (db : Db) : List Profile :=
  (db.profiles.map fun p => ⟨p.id, p.name, p.revision⟩).insertionSort fun a b => a.name ≤ b.name

def resourceProfilesForWorkspace (db : Db) (resourceId : Uuid) : List Uuid :=
  (db.resources.filter fun r => r.1 = resourceId).flatMap fun r =>
    sortStrings ((db.policyProfiles.filter fun l => l.1 = r.2).map Prod.snd)

/-! ### The writers -/

def createProfile (db : Db) (id : Uuid) (name : String) : Except String Db :=
  let name := trimSpace name
  if name = "" then .error "device profile name is required"
  else if db.profiles.any fun p => p.id = id || p.name = name then
    .error "create device profile: duplicate key value violates unique constraint"
  else .ok { db with profiles := db.profiles ++ [⟨id, name, 1, []⟩] }

def updateProfile (db : Db) (id : Uuid) (f : ProfileRow → ProfileRow) : Db :=
  { db with profiles := db.profiles.map fun p => if p.id = id then f p else p }

def addRequirement (db : Db) (profileId : Uuid) (checkId : String) : Except String Db :=
  match db.profiles.find? fun p => p.id = profileId with
  | none => .error "posture record not found"
  | some p =>
    if checkId ∈ p.requirements then .error "duplicate posture requirement"
    else .ok (updateProfile db profileId fun p =>
      { p with revision := p.revision + 1, requirements := p.requirements ++ [checkId] })

def profileInUse (db : Db) (profileId : Uuid) : Bool :=
  db.policyProfiles.any fun l => l.2 = profileId

def removeRequirement (db : Db) (profileId : Uuid) (checkId : String) : Except String Db :=
  match db.profiles.find? fun p => p.id = profileId with
  | none => .error "posture record not found"
  | some p =>
    if checkId ∉ p.requirements then .error "posture record not found"
    else if p.requirements.filter (· ≠ checkId) = [] ∧ profileInUse db profileId then
      .error "cannot remove the last requirement of a device profile that resource policies use"
    else .ok (updateProfile db profileId fun p =>
      { p with
        revision := p.revision + 1
        requirements := p.requirements.filter (· ≠ checkId) })

def policiesUsingProfile (db : Db) (profileId : Uuid) : List String :=
  (db.policies.filter fun pol => db.policyProfiles.contains (pol.id, profileId)).map PolicyRow.name

/-- Deleting a profile takes it out of its policies (`ON DELETE CASCADE`). -/
def deleteProfile (db : Db) (profileId : Uuid) (confirmInUse : Bool) : Except String Db :=
  match db.profiles.find? fun p => p.id = profileId with
  | none => .error "posture record not found"
  | some _ =>
    let policies := policiesUsingProfile db profileId
    if policies ≠ [] ∧ !confirmInUse then
      .error ("device profile is used by resource policies: " ++ ", ".intercalate policies ++
        "; confirm to remove it from them (a policy left with no profiles allows any device)")
    else .ok { db with
      profiles := db.profiles.filter fun p => p.id ≠ profileId
      policyProfiles := db.policyProfiles.filter fun l => l.2 ≠ profileId }

def validPolicyName (name : String) : Except String String :=
  let n := trimSpace name
  if n.utf8ByteSize < 1 ∨ 100 < n.utf8ByteSize then
    .error "resource policy name must be 1 to 100 characters"
  else .ok n

def createResourcePolicy (db : Db) (id : Uuid) (name : String) : Except String Db := do
  let n ← validPolicyName name
  if db.policies.any fun p => p.id = id || p.name = n then
    .error "a resource policy with this name already exists"
  else .ok { db with policies := db.policies ++ [⟨id, n, false⟩] }

def updateResourcePolicy (db : Db) (policyId : Uuid) (name : String) : Except String Db :=
  match db.policies.find? fun p => p.id = policyId with
  | none => .error "resource policy not found"
  | some p => do
    let n ← validPolicyName name
    if p.isDefault ∧ n ≠ p.name then
      .error "the Default resource policy can't be deleted or renamed"
    else if db.policies.any fun q => q.id ≠ policyId && q.name = n then
      .error "a resource policy with this name already exists"
    else .ok { db with
      policies := db.policies.map fun q => if q.id = policyId then { q with name := n } else q }

/-- The check of one profile id, under the profile's row lock. -/
def checkPolicyProfile (db : Db) (pid : Uuid) : Except String Unit :=
  match db.profiles.find? fun p => p.id = pid with
  | none => .error "device profile not found"
  | some p =>
    if p.requirements = [] then
      .error ("a device profile with no requirements can't be added to a resource policy; " ++
        "it would block every device")
    else .ok ()

def setResourcePolicyProfiles (db : Db) (policyId : Uuid) (profileIds : List Uuid) :
    Except String Db := do
  let ids := sortStrings profileIds.dedup
  let _ ← ids.mapM (checkPolicyProfile db)
  if db.policies.any fun p => p.id = policyId then
    .ok { db with
      policyProfiles := db.policyProfiles.filter (fun l => l.1 ≠ policyId) ++
        ids.map fun pid => (policyId, pid) }
  else .error "resource policy not found"

def moveToDefault (db : Db) (policyId : Uuid) : List (Uuid × Uuid) :=
  match db.policies.find? fun d => d.isDefault with
  | some d => db.resources.map fun r => if r.2 = policyId then (r.1, d.id) else r
  | none => db.resources

/-- A resource left in the policy, where there is no Default, keeps it from being deleted. -/
def deleteResourcePolicy (db : Db) (policyId : Uuid) : Except String Db :=
  match db.policies.find? fun p => p.id = policyId with
  | none => .error "resource policy not found"
  | some p =>
    if p.isDefault then .error "the Default resource policy can't be deleted or renamed"
    else if (moveToDefault db policyId).any fun r => r.2 = policyId then
      .error "delete resource policy: update or delete violates foreign key constraint"
    else .ok { db with
      policies := db.policies.filter fun q => q.id ≠ policyId
      policyProfiles := db.policyProfiles.filter fun l => l.1 ≠ policyId
      resources := moveToDefault db policyId }

def setResourcePolicy (db : Db) (resourceId policyId : Uuid) : Except String Db :=
  if db.resources.all fun r => r.1 ≠ resourceId then .error "resource not found"
  else if db.policies.any fun p => p.id = policyId then
    .ok { db with
      resources := db.resources.map fun r => if r.1 = resourceId then (r.1, policyId) else r }
  else .error "resource policy not found"

inductive Op
  | createProfile (id : Uuid) (name : String)
  | addRequirement (profileId : Uuid) (checkId : String)
  | removeRequirement (profileId : Uuid) (checkId : String)
  | deleteProfile (profileId : Uuid) (confirmInUse : Bool)
  | createResourcePolicy (id : Uuid) (name : String)
  | updateResourcePolicy (policyId : Uuid) (name : String)
  | setResourcePolicyProfiles (policyId : Uuid) (profileIds : List Uuid)
  | deleteResourcePolicy (policyId : Uuid)
  | setResourcePolicy (resourceId policyId : Uuid)

def Op.exec (db : Db) : Op → Except String Db
  | .createProfile id name => PostureDb.createProfile db id name
  | .addRequirement profileId checkId => PostureDb.addRequirement db profileId checkId
  | .removeRequirement profileId checkId => PostureDb.removeRequirement db profileId checkId
  | .deleteProfile profileId confirmInUse => PostureDb.deleteProfile db profileId confirmInUse
  | .createResourcePolicy id name => PostureDb.createResourcePolicy db id name
  | .updateResourcePolicy policyId name => PostureDb.updateResourcePolicy db policyId name
  | .setResourcePolicyProfiles policyId ids => PostureDb.setResourcePolicyProfiles db policyId ids
  | .deleteResourcePolicy policyId => PostureDb.deleteResourcePolicy db policyId
  | .setResourcePolicy resourceId policyId => PostureDb.setResourcePolicy db resourceId policyId

/-- The transaction is rolled back where it fails. -/
def step (db : Db) (op : Op) : Db :=
  match op.exec db with
  | .ok db' => db'
  | .error _ => db

def run (db : Db) (ops : List Op) : Db := ops.foldl step db

variable {r : Reads} {now : Time} {db : Db} {profiles : List Profile} {listed : Uuid → List Uuid}
  {rid pid : Uuid}

/-! ### What the compiler makes of two reads -/

/-- The device has a satisfied evaluation, of the current revision and unexpired, of one of
the profiles the resource lists. -/
def HasEvaluation (r : Reads) (now : Time) (resourceId : String) (device : Uuid) : Prop :=
  ∃ pid ∈ r.resourceProfiles resourceId, ∃ profile ∈ r.profiles, profile.id = pid ∧
    ∃ e ∈ r.evaluations device, e.profileId = pid ∧ e.satisfied = true ∧
      e.profileRevision = profile.revision ∧
      ∃ received, e.reportReceivedAt = some received ∧ now < received + maxReportAge

/-- **Posture gating fails closed.** Every resource that lists a profile id is compiled as
gated, and its entry lists only devices with such an evaluation. -/
def FailsClosed (r : Reads) (now : Time) : Prop :=
  ∀ x ∈ sortedEntries r.collected, r.resourceProfiles x.1.resourceId ≠ [] →
    Gated (r.postureInputs now) x ∧
    ∀ spiffe ∈ (aclEntry (r.postureInputs now) x).allowedSpiffeIds,
      ∃ device, (device, spiffe) ∈ devices (r.postureInputs now) x ∧
        HasEvaluation r now x.1.resourceId device

lemma mem_requiredProfiles {prof} (h : prof ∈ requiredProfiles profiles listed rid) :
    prof ∈ profiles ∧ prof.id ∈ listed rid := by
  obtain ⟨pid, hp, hf⟩ := mem_filterMap.1 h
  have hid : prof.id = pid := by simpa using List.find?_some hf
  exact ⟨mem_reverse.1 (mem_of_find?_eq_some hf), hid ▸ hp⟩

lemma requiredProfiles_ne_nil_iff : requiredProfiles profiles listed rid ≠ [] ↔
      ∃ pid ∈ listed rid, ∃ profile ∈ profiles, profile.id = pid := by
  constructor
  · intro hne
    obtain ⟨profile, h⟩ := exists_mem_of_ne_nil _ hne
    obtain ⟨hm, hid⟩ := mem_requiredProfiles h
    exact ⟨profile.id, hid, profile, hm, rfl⟩
  · rintro ⟨pid, hp, profile, hm, hid⟩ hn
    have hf : (profiles.reverse.find? fun p => p.id = pid) = none :=
      filterMap_eq_nil_iff.1 hn pid hp
    exact List.find?_eq_none.1 hf profile (mem_reverse.2 hm) (by simpa using hid)

lemma hasEvaluation_of_authorized {x d} (h : AuthorizedAt (r.postureInputs now) now x d) :
    HasEvaluation r now x.1.resourceId d.1 := by
  obtain ⟨y, profile, hp, e, hf, hs, hrev, received, hr, rfl, hlt⟩ := authorized_iff.1 h
  obtain ⟨hm, hid⟩ := mem_requiredProfiles hp
  exact ⟨profile.id, hid, profile, hm, rfl, e, mem_of_find?_eq_some hf,
    by simpa using List.find?_some hf, hs, hrev, received, hr, hlt⟩

lemma failsClosed_iff_read :
    FailsClosed r now ↔ ∀ x ∈ sortedEntries r.collected, r.resourceProfiles x.1.resourceId ≠ [] →
      ∃ pid ∈ r.resourceProfiles x.1.resourceId, ∃ prof ∈ r.profiles, prof.id = pid := by
  constructor
  · intro hc x hx hl
    exact requiredProfiles_ne_nil_iff.1 (hc x hx hl).1
  · intro hr x hx hl
    have hg : Gated (r.postureInputs now) x := requiredProfiles_ne_nil_iff.2 (hr x hx hl)
    refine ⟨hg, fun spiffe hs => ?_⟩
    rw [aclEntry, mem_sortStrings, entryPosture, applyPosture_gated hg] at hs
    obtain ⟨d, hd, rfl⟩ := mem_map.1 hs
    obtain ⟨hm, ha⟩ := mem_filter.1 hd
    exact ⟨d.1, hm, hasEvaluation_of_authorized (of_decide_eq_true ha)⟩

/-- The posture store of a compile whose first read finds `db` and whose second finds
`db'`. -/
def postureReads (db db' : Db) (evaluations : List Uuid → Except String (Uuid → List Evaluation)) :
    PostureStore where
  listProfiles := .ok (listProfiles db)
  resourceProfilesForWorkspace := .ok (resourceProfilesForWorkspace db')
  evaluationsForDevices := evaluations

lemma exists_mem_listProfiles :
    (∃ prof ∈ listProfiles db, prof.id = pid) ↔ ∃ p ∈ db.profiles, p.id = pid := by
  simp [listProfiles]

/-- **Fail closed across the two reads.** Whatever writers ran between the reads: the list
fails closed exactly if, for each compiled resource whose policy lists profiles at the second
read, one of those profiles was there at the first. -/
theorem failsClosed_iff {db : Db} {ops : List Op} {store : Store} {now : Time} {r : Reads}
    {evaluations : List Uuid → Except String (Uuid → List Evaluation)}
    (hr : reads store (postureReads db (run db ops) evaluations) = .ok r) :
    FailsClosed r now ↔ ∀ x ∈ sortedEntries r.collected,
      resourceProfilesForWorkspace (run db ops) x.1.resourceId ≠ [] →
      ∃ pid ∈ resourceProfilesForWorkspace (run db ops) x.1.resourceId,
        ∃ p ∈ db.profiles, p.id = pid := by
  obtain ⟨-, -, -, -, -, -, -, hpr, hls, -⟩ := reads_ok hr
  have hp : r.profiles = listProfiles db := (Except.ok.inj hpr).symm
  have hl : r.resourceProfiles = resourceProfilesForWorkspace (run db ops) :=
    (Except.ok.inj hls).symm
  rw [failsClosed_iff_read, hp, hl]
  simp only [exists_mem_listProfiles]

/-! ### A policy moved to a new profile between the reads -/

/-- The policy of `res-1` requires the profile `p-old`. -/
def policyDb : Db where
  profiles := [⟨"p-old", "managed", 2, ["disk"]⟩]
  policies := [⟨"pol-0", "Default", true⟩, ⟨"pol-1", "databases", false⟩]
  policyProfiles := [("pol-1", "p-old")]
  resources := [("res-1", "pol-1")]

/-- An administrator replaces it by a new profile. -/
def replaceProfile : List Op :=
  [.createProfile "p-new" "managed 2", .addRequirement "p-new" "disk",
    .setResourcePolicyProfiles "pol-1" ["p-new"]]

def noEvaluations : List Uuid → Except String (Uuid → List Evaluation) := fun _ => .ok fun _ => []

theorem failsClosed_requirement_added :
    ∃ r, reads (gatedStore [⟨"dev-a", "spiffe://ws/client/dev-a"⟩])
      (postureReads policyDb (run policyDb [.addRequirement "p-old" "firewall"]) noEvaluations) =
        .ok r ∧ FailsClosed r 0 := by
  have hr : reads (gatedStore [⟨"dev-a", "spiffe://ws/client/dev-a"⟩])
    (postureReads policyDb (run policyDb [.addRequirement "p-old" "firewall"]) noEvaluations) =
      .ok _ := rfl
  refine ⟨_, hr, (failsClosed_iff hr).2 fun x hx _ => ?_⟩
  obtain rfl : x = gatedEntry := mem_singleton.1 hx
  exact ⟨"p-old", by decide, _, mem_singleton.2 rfl, rfl⟩

/-- The resource is gated before and after, and the compile lists a device without any
evaluation. -/
theorem open_between_policies :
    ∃ r c, resourceProfilesForWorkspace policyDb "res-1" = ["p-old"] ∧
      resourceProfilesForWorkspace (run policyDb replaceProfile) "res-1" = ["p-new"] ∧
      reads (gatedStore [⟨"dev-a", "spiffe://ws/client/dev-a"⟩])
        (postureReads policyDb (run policyDb replaceProfile) noEvaluations) = .ok r ∧
      compileAclSnapshot (gatedStore [⟨"dev-a", "spiffe://ws/client/dev-a"⟩])
        (postureReads policyDb (run policyDb replaceProfile) noEvaluations) 1 "ws" 0 = .ok c ∧
      c.snapshot.entries.map Acl.AclEntry.allowedSpiffeIds = [["spiffe://ws/client/dev-a"]] ∧
      ¬ FailsClosed r 0 := by
  refine ⟨_, _, by decide, by decide, rfl, rfl, by decide, fun hc => ?_⟩
  have hg := (hc gatedEntry (mem_singleton.2 rfl) (by decide)).1
  revert hg
  decide

end Zecurity.PostureDb
