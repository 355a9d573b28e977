import Zecurity.FiniteMap

/-!
The rows of `users` (`controller/migrations/001_schema.sql`, `031_identity_federation.sql`,
`034_scim_directory_sync.sql`, `047_workspace_roles.sql`), and the statements that change a user's
standing.
-/

namespace Zecurity.Users

open FiniteMap

abbrev UserId := String

abbrev WorkspaceId := String

inductive UserStatus
  | active
  | suspended
  | locked
  | deleted
  deriving DecidableEq

inductive Role
  | admin
  | viewer
  | devops
  | security
  | helpdesk
  | member
  deriving DecidableEq

inductive ProvisioningOwner
  | jit
  | manual
  | scim
  | unmanaged
  deriving DecidableEq

structure UserRow where
  tenantId : WorkspaceId
  email : String
  role : Role
  status : UserStatus
  identityGeneration : ℕ
  provisioningOwner : ProvisioningOwner
  deriving DecidableEq

abbrev UserTable := Map UserId UserRow

/-! ### The statements -/

section Statements

variable (users : UserTable) (id : UserId) (tenantId : WorkspaceId)

/-- `WHERE id = $1 AND tenant_id = $2` -/
def isUser (k : UserId) (row : UserRow) : Bool := k == id && row.tenantId == tenantId

def setStatus (status : UserStatus) : UserTable :=
  updateWhere users (isUser id tenantId) fun row => { row with status := status }

def bump : UserTable :=
  updateWhere users (isUser id tenantId) fun row =>
    { row with identityGeneration := row.identityGeneration + 1 }

end Statements

def deprovisionedStatus (hard : Bool) : UserStatus := if hard then .deleted else .suspended

/-! ### Admins -/

def activeAdmin (row : UserRow) : Bool :=
  decide (row.role = .admin) && decide (row.status = .active)

/-- `tenant_id = $1 AND role = 'admin' AND status = 'active'` -/
def isAdmin (workspaceId : WorkspaceId) (_ : UserId) (row : UserRow) : Bool :=
  decide (row.tenantId = workspaceId) && activeAdmin row

/-- The check of `GuardLastAdminTx`, on the admins that it has locked. -/
def lastAdminCheck (admins removed : List UserId) : Bool :=
  !((admins.any fun id => decide (id ∈ removed)) && (admins.all fun id => decide (id ∈ removed)))

end Zecurity.Users

/-! ### The device-trust events (`controller/internal/identity/device_trust.go`) -/

namespace Zecurity.DeviceTrust

open Users

inductive Reason
  | suspended
  | deleted

inductive Kind
  | revoke (reason : Reason)
  | reEnroll

structure Event where
  kind : Kind
  workspaceId : WorkspaceId
  /-- the typed column, which may be NULL -/
  userId : Option UserId
  correlationId : String

def newDeviceTrustRevokeEvent (workspaceId : WorkspaceId) (userId : UserId) (reason : Reason)
    (correlationId : String) : Event :=
  ⟨.revoke reason, workspaceId, some userId, correlationId⟩

def newDeviceTrustReEnrollmentRequired (workspaceId : WorkspaceId) (userId : UserId)
    (correlationId : String) : Event :=
  ⟨.reEnroll, workspaceId, some userId, correlationId⟩

def deprovisionReason (hard : Bool) : Reason := if hard then .deleted else .suspended

end Zecurity.DeviceTrust
