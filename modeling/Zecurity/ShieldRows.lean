import Zecurity.ConnectorRow
import Zecurity.ResourceStore

/-!
The rows of `shields` and the statements on them (`controller/internal/shield/heartbeat.go`,
`token.go`, `enrollment.go`, `renewal.go`, `revocation.go`).

A statement is a function of the rows it reads; where its `WHERE` matches nothing, or the row
that it would write is refused by the table, it is `none`. A public key is named by its
fingerprint. The LAN IP and the resources that follow it are in `ResourceStore`.
-/

namespace Zecurity.ShieldRows

open FiniteMap
open ResourceStore (TenantId NetworkId ShieldId ShieldStatus)

abbrev ConnectorId := String
abbrev Jti := String
abbrev Key := String

structure Connector where
  tenantId : TenantId
  remoteNetworkId : NetworkId
  trustDomain : String
  row : ConnectorRow.Row

def Connector.revoked (c : Connector) : Bool := c.row.status == .revoked || c.row.revokedAt

/-- Active or disconnected, and not revoked. -/
def Connector.live (c : Connector) : Bool :=
  (c.row.status == .active || c.row.status == .disconnected) && !c.row.revokedAt

/-- A remote network, with its workspace. -/
abbrev Network := TenantId × NetworkId

def Connector.network (c : Connector) : Network := (c.tenantId, c.remoteNetworkId)

structure ShieldRow where
  tenantId : TenantId
  remoteNetworkId : NetworkId
  connectorId : ConnectorId
  status : ShieldStatus
  enrollmentTokenJti : Option Jti
  trustDomain : Option String
  interfaceAddr : Option String
  certSerial : Option ℕ
  lastHeartbeatAt : Option ℤ
  version : Option String
  hostname : Option String
  publicKeyFingerprint : Option Key

/-- The row as `GenerateShieldToken` inserts it. -/
def ShieldRow.new (tenantId : TenantId) (remoteNetworkId : NetworkId) (connectorId : ConnectorId) :
    ShieldRow where
  tenantId := tenantId
  remoteNetworkId := remoteNetworkId
  connectorId := connectorId
  status := .pending
  enrollmentTokenJti := none
  trustDomain := none
  interfaceAddr := none
  certSerial := none
  lastHeartbeatAt := none
  version := none
  hostname := none
  publicKeyFingerprint := none

def ShieldRow.network (row : ShieldRow) : Network := (row.tenantId, row.remoteNetworkId)

/-- Active or disconnected: enrolled and not revoked. -/
def ShieldRow.live (row : ShieldRow) : Bool :=
  row.status == .active || row.status == .disconnected

/-- What the `CHECK` of the column lets through. -/
def statusOf : String → Option ShieldStatus
  | "pending" => some .pending
  | "active" => some .active
  | "disconnected" => some .disconnected
  | "revoked" => some .revoked
  | _ => none

/-! ### `UpdateShieldHealth` -/

structure ShieldStatusUpdate where
  shieldId : ShieldId
  status : String
  version : String
  lastSeenUnix : ℤ
  deriving DecidableEq

/-- The connector is active and in the shield's network, and the shield is not revoked. -/
def healthMatches (c : Connector) (row : ShieldRow) : Bool :=
  c.tenantId == row.tenantId && c.remoteNetworkId == row.remoteNetworkId &&
    c.row.status == .active && row.status != .revoked

def ShieldRow.withHealth (row : ShieldRow) (connectorId : ConnectorId) (status : ShieldStatus)
    (u : ShieldStatusUpdate) : ShieldRow :=
  { row with
    connectorId := connectorId
    lastHeartbeatAt := some u.lastSeenUnix
    status := status
    version := some u.version }

def updateShieldHealth (connectors : Map ConnectorId Connector) (shields : Map ShieldId ShieldRow)
    (connectorId : ConnectorId) (u : ShieldStatusUpdate) : Option (Map ShieldId ShieldRow) :=
  (shields.lookup u.shieldId).bind fun row =>
    (connectors.lookup connectorId).bind fun c =>
      (statusOf u.status).bind fun status =>
        if healthMatches c row then
          some (shields.insert u.shieldId (row.withHealth connectorId status u))
        else none

lemma updateShieldHealth_eq_some {cs shs shields' cid u} :
    updateShieldHealth cs shs cid u = some shields' ↔
      ∃ row c status, shs.lookup u.shieldId = some row ∧
        cs.lookup cid = some c ∧ statusOf u.status = some status ∧ healthMatches c row = true ∧
        shs.insert u.shieldId (row.withHealth cid status u) = shields' := by
  simp only [updateShieldHealth, Option.bind_eq_some_iff, Option.ite_none_right_eq_some,
    Option.some_inj]
  grind

/-! ### `markDisconnected` -/

def markDisconnected (workspaces : Map TenantId Bool) (now threshold : ℤ)
    (row : ShieldRow) : ShieldRow :=
  if row.status = .active ∧ row.lastHeartbeatAt.any (fun t => decide (t < now - threshold)) ∧
      workspaces.lookup row.tenantId = some true then
    { row with status := .disconnected }
  else row

section MarkDisconnected

variable (workspaces : Map TenantId Bool) (now threshold : ℤ) (row : ShieldRow)

lemma markDisconnected_live : (markDisconnected workspaces now threshold row).live = row.live := by
  unfold markDisconnected
  split
  next h => simp [ShieldRow.live, h.1]
  next => rfl

lemma markDisconnected_connectorId :
    (markDisconnected workspaces now threshold row).connectorId = row.connectorId := by
  unfold markDisconnected
  split <;> rfl

lemma markDisconnected_network :
    (markDisconnected workspaces now threshold row).network = row.network := by
  unfold markDisconnected
  split <;> rfl

end MarkDisconnected

/-! ### Enrollment -/

structure EnrollmentClaims where
  id : Jti
  shieldId : ShieldId
  remoteNetworkId : NetworkId
  workspaceId : TenantId
  trustDomain : String
  connectorId : ConnectorId
  connectorAddr : String
  interfaceAddr : String
  deriving DecidableEq

def EnrollmentClaims.network (claims : EnrollmentClaims) : Network :=
  (claims.workspaceId, claims.remoteNetworkId)

/-- No required claim is missing. -/
def EnrollmentClaims.complete (claims : EnrollmentClaims) : Bool :=
  claims.id != "" && claims.shieldId != "" && claims.workspaceId != "" &&
    claims.trustDomain != "" && claims.connectorId != "" && claims.connectorAddr != "" &&
    claims.interfaceAddr != ""

structure Csr where
  key : Key
  uris : List String

def shieldSpiffeId (trustDomain shieldId : String) : String :=
  "spiffe://" ++ trustDomain ++ "/shield/" ++ shieldId

def csrHasSpiffeUri (csr : Csr) (expected : String) : Bool := csr.uris.any (· == expected)

/-- The swap of `GenerateShieldToken`. -/
def ShieldRow.withToken (row : ShieldRow) (claims : EnrollmentClaims) : ShieldRow :=
  { row with
    enrollmentTokenJti := some claims.id
    connectorId := claims.connectorId
    trustDomain := some claims.trustDomain
    interfaceAddr := some claims.interfaceAddr }

def tokenMatches (claims : EnrollmentClaims) (row : ShieldRow) : Bool :=
  row.tenantId == claims.workspaceId && row.remoteNetworkId == claims.remoteNetworkId &&
    row.status == .pending

/-- The row is still pending, and the token is its current one. -/
def claimable (claims : EnrollmentClaims) (row : ShieldRow) : Bool :=
  row.status == .pending && row.enrollmentTokenJti == some claims.id

/-- The checks of the claimed row against the token. -/
def claimAgrees (claims : EnrollmentClaims) (row : ShieldRow) : Bool :=
  row.tenantId == claims.workspaceId && row.connectorId == claims.connectorId &&
    row.remoteNetworkId == claims.remoteNetworkId &&
    row.interfaceAddr.all fun addr => addr == "" || addr == claims.interfaceAddr

/-- The connector that `Enroll` reads. -/
def enrollConnectorActive (claims : EnrollmentClaims) (c : Connector) : Bool :=
  c.tenantId == claims.workspaceId && c.remoteNetworkId == claims.remoteNetworkId &&
    c.row.status == .active

def ShieldRow.enrolled (row : ShieldRow) (claims : EnrollmentClaims) (key : Key) (serial : ℕ)
    (hostname version : String) (now : ℤ) : ShieldRow :=
  { row with
    status := .active
    trustDomain := some claims.trustDomain
    interfaceAddr := some claims.interfaceAddr
    certSerial := some serial
    hostname := some hostname
    version := some version
    lastHeartbeatAt := some now
    enrollmentTokenJti := none
    publicKeyFingerprint := some key }

/-! ### Renewal -/

/-- The request, with the caller's verified identity. -/
structure RenewCertRequest where
  role : String
  connectorId : ConnectorId
  trustDomain : String
  shieldId : ShieldId
  key : Key

/-- The row's trust domain is unset or the caller's. -/
def domainAgrees (row : ShieldRow) (trustDomain : String) : Bool :=
  row.trustDomain.all fun d => d == "" || d == trustDomain

/-- The checks of `RenewCert` on what it has read. -/
def renewAuthorized (req : RenewCertRequest) (row : ShieldRow) (c : Connector)
    (tombstoned : Bool) : Bool :=
  req.role == "connector" && req.shieldId != "" && !tombstoned && row.status != .revoked &&
    row.connectorId == req.connectorId && domainAgrees row req.trustDomain &&
    c.trustDomain == req.trustDomain && !c.revoked && row.publicKeyFingerprint == some req.key

/-- The `WHERE` of the final write of `RenewCert`. -/
def renewEligible (req : RenewCertRequest) (tenantId : TenantId) (row : ShieldRow) (c : Connector)
    (tombstoned : Bool) : Bool :=
  c.trustDomain == req.trustDomain && !c.revoked && row.tenantId == tenantId &&
    row.connectorId == req.connectorId && row.status != .revoked &&
    domainAgrees row req.trustDomain && !tombstoned && row.publicKeyFingerprint == some req.key

/-! ### Revocation -/

def revocable (tenantId : TenantId) (row : ShieldRow) : Bool :=
  row.tenantId == tenantId && (row.status == .active || row.status == .disconnected)

end Zecurity.ShieldRows
