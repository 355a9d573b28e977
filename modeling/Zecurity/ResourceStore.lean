import Zecurity.Compiler
import Zecurity.FiniteMap

/-!
The controller's resources and the operations on them
(`controller/internal/resource/store.go`; `UpdateShieldHealth` in
`controller/internal/shield/heartbeat.go`).

Each statement of the source is one function on the tables, so that statements of different
callers interleave; a statement that is refused changes nothing and is `none`. Where a query
takes one row of several in no fixed order, the row is an argument and is checked. Hosts come
here already normalised.
-/

namespace Zecurity.ResourceStore

open FiniteMap

abbrev TenantId := String
abbrev NetworkId := String
abbrev ShieldId := String

/-- The text of a UUID: none of its characters is a separator of the fingerprint. -/
@[ext]
structure ResourceId where
  text : String
  plain : ∀ c ∈ text.toList, c ≠ '|' ∧ c ≠ '\n'
  deriving DecidableEq

lemma plain_r1 : ∀ c ∈ "r1".toList, c ≠ '|' ∧ c ≠ '\n' := by
  intro c hc
  rcases List.mem_cons.1 hc with rfl | hc
  · decide
  · obtain rfl := List.mem_singleton.1 hc
    decide

/-- What the column accepts. -/
inductive ResourceStatus
  | pending
  | protecting
  | protected_
  | unprotected
  | failed
  | deleting
  deriving DecidableEq

def ResourceStatus.text : ResourceStatus → String
  | .pending => "pending"
  | .protecting => "protecting"
  | .protected_ => "protected"
  | .unprotected => "unprotected"
  | .failed => "failed"
  | .deleting => "deleting"

inductive PendingAction
  | apply
  | remove
  deriving DecidableEq

inductive Protocol
  | tcp
  | udp
  | any
  deriving DecidableEq

def Protocol.text : Protocol → String
  | .tcp => "tcp"
  | .udp => "udp"
  | .any => "any"

structure ResourceRow where
  tenantId : TenantId
  remoteNetworkId : NetworkId
  name : String
  host : String
  protocol : Protocol
  portFrom : ℕ
  portTo : ℕ
  status : ResourceStatus
  pendingAction : PendingAction
  errorMessage : Option String
  appliedAt : Option ℤ
  lastVerifiedAt : Option ℤ
  updatedAt : ℤ
  shieldId : Option ShieldId
  deriving DecidableEq

inductive ShieldStatus
  | pending
  | active
  | disconnected
  | revoked
  deriving DecidableEq

structure ShieldRow where
  tenantId : TenantId
  remoteNetworkId : NetworkId
  connectorId : String
  lanIp : Option String
  status : ShieldStatus
  tombstone : Bool

/-- An enabled access rule whose group and network are in its workspace. -/
structure AccessRule where
  workspaceId : TenantId
  resourceId : ResourceId
  groupId : String

structure Db where
  resources : Map ResourceId ResourceRow
  shields : ShieldId → Option ShieldRow
  /-- the workspace of a network, and its name -/
  networks : NetworkId → Option (TenantId × String)
  rules : List AccessRule

/-! ### Hosts -/

/-- `^[0-9.]+$` -/
def isIpv4Host (host : String) : Bool :=
  host ≠ "" && host.toList.all fun c => c.isDigit || c == '.'

def isNameHost (host : String) : Bool := !isIpv4Host host

/-- `shieldHostSQL`: a DNS name is protected at its shield's LAN IP. -/
def shieldHost (host : String) (shield : Option ShieldRow) : String :=
  if isIpv4Host host then host
  else
    match shield.bind ShieldRow.lanIp with
    | none => host
    | some lanIp => if lanIp = "" then host else lanIp

/-! ### Reads -/

/-- The rows that a shield should enforce. -/
def ResourceRow.desired (row : ResourceRow) (shieldId : ShieldId) : Bool :=
  row.shieldId == some shieldId &&
    (row.status == .protected_ || row.status == .failed ||
      row.status == .protecting && row.pendingAction == .apply)

/-- The rows that a shield should let go of. -/
def ResourceRow.removing (row : ResourceRow) (shieldId : ShieldId) : Bool :=
  row.shieldId == some shieldId &&
    (row.status == .protecting && row.pendingAction == .remove || row.status == .deleting)

/-- `PendingRow`, as far as it goes into a snapshot. -/
structure PendingRow where
  id : ResourceId
  host : String
  protocol : Protocol
  portFrom : ℕ
  portTo : ℕ

def Db.pendingRow (db : Db) (id : ResourceId) (row : ResourceRow) : PendingRow :=
  ⟨id, shieldHost row.host (row.shieldId.bind db.shields), row.protocol, row.portFrom, row.portTo⟩

def Db.pendingRows (db : Db) (p : ResourceRow → Bool) : List PendingRow :=
  (retain db.resources fun _ row => p row).entries.map fun e => db.pendingRow e.1 e.2

def Db.desiredForShield (db : Db) (shieldId : ShieldId) : List PendingRow :=
  db.pendingRows (·.desired shieldId)

/-- The removals query of `signResourceSet`. -/
def Db.removesForShield (db : Db) (shieldId : ShieldId) : List PendingRow :=
  db.pendingRows (·.removing shieldId)

/-! ### Statements -/

def Db.setRow (db : Db) (id : ResourceId) (row : ResourceRow) : Db :=
  { db with resources := db.resources.insert id row }

def Db.deleteRow (db : Db) (id : ResourceId) : Db :=
  { db with resources := db.resources.erase id }

def Db.row (db : Db) (tenantId : TenantId) (id : ResourceId) : Option ResourceRow :=
  (db.resources.lookup id).filter fun row => row.tenantId == tenantId

/-- `COALESCE((SELECT s.status ...), 'revoked') = 'revoked'` -/
def Db.shieldGone (db : Db) (shieldId : Option ShieldId) : Bool :=
  match shieldId.bind db.shields with
  | none => true
  | some shield => shield.status == .revoked

/-- A resource with the same name in another network of the workspace has a port in common. -/
def Db.nameCollision (db : Db) (tenantId : TenantId) (host : String) (networkId : NetworkId)
    (exclude : Option ResourceId) (portFrom portTo : ℕ) : Bool :=
  db.resources.entries.any fun e =>
    e.2.tenantId == tenantId && e.2.host == host && e.2.remoteNetworkId != networkId &&
      some e.1 != exclude && decide (e.2.portFrom ≤ portTo) && decide (portFrom ≤ e.2.portTo)

def Db.activeShieldOn (db : Db) (tenantId : TenantId) (networkId : NetworkId) (host : String)
    (shieldId : ShieldId) : Bool :=
  (db.shields shieldId).any fun shield =>
    shield.tenantId == tenantId && shield.remoteNetworkId == networkId &&
      shield.lanIp == some host && shield.status == .active

structure CreateInput where
  remoteNetworkId : NetworkId
  name : String
  host : String
  protocol : Protocol
  portFrom : ℕ
  portTo : ℕ

/-- `shield`: what `AutoMatchShield` found. -/
def create (db : Db) (tenantId : TenantId) (id : ResourceId) (input : CreateInput)
    (shield : Option ShieldId) (now : ℤ) : Option Db :=
  let isName := isNameHost input.host
  let matched := shield.all fun sh =>
    !isName && db.activeShieldOn tenantId input.remoteNetworkId input.host sh
  if (db.resources.lookup id).isSome || !matched || isName && input.protocol != .tcp ||
      isName && db.nameCollision tenantId input.host input.remoteNetworkId none input.portFrom
        input.portTo ||
      (db.networks input.remoteNetworkId).map Prod.fst != some tenantId then none
  else
    some (db.setRow id
      { tenantId := tenantId
        remoteNetworkId := input.remoteNetworkId
        name := input.name
        host := input.host
        protocol := input.protocol
        portFrom := input.portFrom
        portTo := input.portTo
        status := .unprotected
        pendingAction := .remove
        errorMessage := none
        appliedAt := none
        lastVerifiedAt := none
        updatedAt := now
        shieldId := shield })

structure UpdateInput where
  remoteNetworkId : Option NetworkId
  name : Option String
  host : Option String
  protocol : Option Protocol
  portFrom : Option ℕ
  portTo : Option ℕ

/-- The shield holds the resource's rule, or is applying it. -/
def ResourceRow.enforced (row : ResourceRow) : Bool :=
  row.status == .protected_ || row.status == .failed ||
    row.status == .protecting && row.pendingAction == .apply

def UpdateInput.fields (input : UpdateInput) (row : ResourceRow) : ResourceRow :=
  { row with
    remoteNetworkId := input.remoteNetworkId.getD row.remoteNetworkId
    name := input.name.getD row.name
    host := input.host.getD row.host
    protocol := input.protocol.getD row.protocol
    portFrom := input.portFrom.getD row.portFrom
    portTo := input.portTo.getD row.portTo }

/-- `shieldChanged`: what the shield enforces is another rule. -/
def shieldChanged (old new : ResourceRow) : Bool :=
  new.host != old.host && !isNameHost new.host || new.remoteNetworkId != old.remoteNetworkId ||
    new.protocol != old.protocol || new.portFrom != old.portFrom || new.portTo != old.portTo

/-- The edit asks for the shield on the new host: the resource moves. -/
def rematches (old new : ResourceRow) : Bool :=
  old.enforced && !isNameHost new.host &&
    (new.host != old.host || new.remoteNetworkId != old.remoteNetworkId)

/-- `shield`: the shield found on the new host, where one is looked for. -/
def update (db : Db) (tenantId : TenantId) (id : ResourceId) (input : UpdateInput)
    (shield : ShieldId) (now : ℤ) : Option Db := do
  let row ← db.row tenantId id
  let new := input.fields row
  let isName := isNameHost new.host
  if isName && new.protocol != .tcp then none
  else if isName && row.enforced && new.remoteNetworkId != row.remoteNetworkId then none
  else if isName && db.nameCollision tenantId new.host new.remoteNetworkId (some id) new.portFrom
      new.portTo then none
  else if shieldChanged row new &&
      (row.status == .protecting && row.pendingAction == .remove || row.status == .deleting) then
    none
  else if (input.remoteNetworkId.map db.networks).any (·.map Prod.fst != some tenantId) then none
  else if rematches row new &&
      !db.activeShieldOn tenantId new.remoteNetworkId new.host shield then none
  else
    let moved := if rematches row new then { new with shieldId := some shield } else new
    let saved :=
      if row.enforced && shieldChanged row new then
        { moved with status := .protecting, pendingAction := .apply, errorMessage := none }
      else moved
    some (db.setRow id { saved with updatedAt := now })

/-- The shield is one that the query of `MarkProtecting` may select. -/
def Db.protectCandidate (db : Db) (row : ResourceRow) (chosen : Option ShieldId)
    (shieldId : ShieldId) : Bool :=
  (db.shields shieldId).any fun shield =>
    shield.tenantId == row.tenantId && shield.remoteNetworkId == row.remoteNetworkId &&
      shield.status == .active &&
      (isIpv4Host row.host && shield.lanIp == some row.host && chosen.all (· == shieldId) ||
        isNameHost row.host && chosen == some shieldId)

/-- `candidate`: the shield that the query selects, the one already bound before any other. -/
def markProtecting (db : Db) (tenantId : TenantId) (id : ResourceId) (chosen : Option ShieldId)
    (candidate : ShieldId) (now : ℤ) : Option Db := do
  let row ← db.row tenantId id
  let first := row.shieldId.all fun bound =>
    bound == candidate || !db.protectCandidate row chosen bound
  if (row.status = .pending ∨ row.status = .failed ∨ row.status = .unprotected) ∧
      db.protectCandidate row chosen candidate ∧ first then
    some (db.setRow id { row with
      shieldId := some candidate
      status := .protecting
      pendingAction := .apply
      errorMessage := none
      updatedAt := now })
  else none

def markUnprotecting (db : Db) (tenantId : TenantId) (id : ResourceId) (now : ℤ) : Option Db := do
  let row ← db.row tenantId id
  if row.status = .protected_ then
    some (db.setRow id { row with
      status := if db.shieldGone row.shieldId then .unprotected else .protecting
      pendingAction := .remove
      updatedAt := now })
  else none

def markDeleting (db : Db) (tenantId : TenantId) (id : ResourceId) (now : ℤ) : Option Db := do
  let row ← db.row tenantId id
  if row.status = .protected_ ∨ row.status = .failed then
    some (db.setRow id { row with
      status := .deleting, pendingAction := .remove, updatedAt := now })
  else none

/-- `DeleteRow` -/
def deleteUnprotected (db : Db) (tenantId : TenantId) (id : ResourceId) : Option Db := do
  let row ← db.row tenantId id
  if row.status = .pending ∨ row.status = .unprotected then some (db.deleteRow id) else none

def deleteIfShieldGone (db : Db) (tenantId : TenantId) (id : ResourceId) : Option Db := do
  let row ← db.row tenantId id
  if (row.status = .protected_ ∨ row.status = .failed ∨ row.status = .deleting) ∧
      db.shieldGone row.shieldId then some (db.deleteRow id)
  else none

def reapStaleTombstones (db : Db) (now olderThan : ℤ) : Db :=
  { db with
    resources := retain db.resources fun _ row =>
      !(row.status == .deleting && decide (row.updatedAt < now - olderThan)) }

def forceDeleteRow (db : Db) (tenantId : TenantId) (id : ResourceId) : Option Db := do
  let _ ← db.row tenantId id
  some (db.deleteRow id)

/-- What `UpdateShieldHealth` writes of a shield that is not revoked; its resources follow its
LAN IP. -/
def writeShieldHealth (db : Db) (shieldId : ShieldId) (connectorId : String)
    (status : ShieldStatus) (lanIp : String) : Option Db := do
  let shield ← db.shields shieldId
  if shield.status = .revoked then none
  else
    let newIp := if lanIp = "" then none else some lanIp
    let follows := fun row : ResourceRow =>
      row.shieldId == some shieldId && lanIp != "" && some row.host == shield.lanIp &&
        shield.lanIp != newIp
    some { db with
      shields := Function.update db.shields shieldId
        (some { shield with connectorId := connectorId, status := status, lanIp := newIp })
      resources := mapValues db.resources fun _ row =>
        if follows row then { row with host := lanIp } else row }

def revokeShield (db : Db) (shieldId : ShieldId) : Option Db := do
  let shield ← db.shields shieldId
  some { db with
    shields := Function.update db.shields shieldId
      (some { shield with status := .revoked, tombstone := true }) }

/-! ### Acks -/

structure Ack where
  resourceId : ResourceId
  status : ResourceStatus
  error : String
  verifiedAt : ℤ
  shieldId : ShieldId
  host : String
  protocol : Protocol
  portFrom : ℕ
  portTo : ℕ

/-- The DELETE of `RecordAck`. -/
def reapOnAck (db : Db) (tenantId : TenantId) (ack : Ack) : Option Db := do
  let row ← db.row tenantId ack.resourceId
  if ack.status = .unprotected ∧ row.status = .deleting ∧ row.shieldId = some ack.shieldId then
    some (db.deleteRow ack.resourceId)
  else none

/-- The guards of the UPDATE of `RecordAck`. -/
def ackAccepted (db : Db) (row : ResourceRow) (ack : Ack) : Bool :=
  let removal := row.status == .protecting && row.pendingAction == .remove
  row.status != .deleting && !(removal && ack.status != .unprotected) &&
    (ack.status != .unprotected || removal) && row.shieldId == some ack.shieldId &&
    (!(ack.status == .protected_ || ack.status == .failed) ||
      shieldHost row.host (db.shields ack.shieldId) == ack.host && row.protocol == ack.protocol &&
        row.portFrom == ack.portFrom && row.portTo == ack.portTo)

def ackedRow (row : ResourceRow) (ack : Ack) (now : ℤ) : ResourceRow :=
  { row with
    status := ack.status
    errorMessage := if ack.error = "" then none else some ack.error
    lastVerifiedAt := some ack.verifiedAt
    appliedAt := if ack.status = .protected_ ∧ row.appliedAt = none then some now else row.appliedAt
    updatedAt := now }

/-- The UPDATE of `RecordAck`, with the status that the row had. -/
def updateOnAck (db : Db) (tenantId : TenantId) (ack : Ack) (now : ℤ) :
    Option (Db × ResourceStatus) := do
  let row ← db.row tenantId ack.resourceId
  if ackAccepted db row ack then
    some (db.setRow ack.resourceId (ackedRow row ack now), row.status)
  else none

def connectorRouted (status : ResourceStatus) : Bool :=
  status == .pending || status == .unprotected

/-- With `aclChanged`. -/
def recordAck (db : Db) (tenantId : TenantId) (ack : Ack) (now : ℤ) : Db × Bool :=
  match reapOnAck db tenantId ack with
  | some db' => (db', true)
  | none =>
    match updateOnAck db tenantId ack now with
    | some (db', oldStatus) => (db', connectorRouted oldStatus != connectorRouted ack.status)
    | none => (db, false)

variable {ack : Ack} {db db' : Db} {tid : TenantId}

lemma reapOnAck_eq_some (h : reapOnAck db tid ack = some db') :
    ∃ row, db.row tid ack.resourceId = some row ∧ row.status = .deleting ∧
      row.shieldId = some ack.shieldId ∧ db' = db.deleteRow ack.resourceId := by
  obtain ⟨row, hr, h⟩ := Option.bind_eq_some_iff.1 h
  obtain ⟨⟨-, hs, hb⟩, h⟩ := Option.ite_none_right_eq_some.1 h
  exact ⟨row, hr, hs, hb, (Option.some.inj h).symm⟩

lemma updateOnAck_eq_some {now oldStatus} (h : updateOnAck db tid ack now = some (db', oldStatus)) :
    ∃ row, db.row tid ack.resourceId = some row ∧ ackAccepted db row ack = true ∧
      db' = db.setRow ack.resourceId (ackedRow row ack now) ∧ oldStatus = row.status := by
  obtain ⟨row, hr, h⟩ := Option.bind_eq_some_iff.1 h
  grind

lemma shieldId_of_ackAccepted {row} (h : ackAccepted db row ack = true) :
    row.shieldId = some ack.shieldId := by
  simp only [ackAccepted, Bool.and_eq_true, beq_iff_eq] at h
  exact h.1.2

end Zecurity.ResourceStore
