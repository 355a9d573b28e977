import Zecurity.ShieldRows
import Zecurity.SignedResourceSets

/-!
The messages of a connector's Control stream at the controller
(`controller/internal/connector/control_stream.go`, `handleShieldStatus`, `handleResourceAcks`,
`handleShieldDiscoveryBatch`, `handleScanReport`, `handleConnectorLog`; `reconcile.go`;
`controller/internal/discovery/store.go`), and what each of them leaves as it is.

An id is the text that the database prints for it. A statement that is refused changes nothing,
and a transaction with a refused statement changes nothing either. A push in the background is
made at once.
-/

namespace Zecurity.ControlMessages

open AList FiniteMap Function Option ResourceStore
open ShieldRows (ConnectorId Connector statusOf)
open SignedResourceSets (Counter fingerprintDesired)

/-! ### The messages -/

structure ShieldStatusUpdate where
  shieldId : ShieldId
  status : String
  version : String
  lanIp : String
  lastSeenUnix : ℤ

structure ResourceAck where
  resourceId : String
  status : String
  error : String
  verifiedAt : ℤ
  shieldId : ShieldId
  host : String
  protocol : String
  portFrom : ℤ
  portTo : ℤ

structure DiscoveredService where
  protocol : String
  port : ℕ
  boundIp : String
  serviceName : String

structure DiscoveryReport where
  added : List DiscoveredService
  removed : List DiscoveredService
  fullSync : Bool

structure ShieldDiscoveryReport where
  shieldId : ShieldId
  report : Option DiscoveryReport

structure ResourceStateReport where
  shieldId : ShieldId
  activeResourceIds : List String

structure ScanResult where
  ip : String
  port : ℕ
  protocol : String
  serviceName : String

structure ScanReport where
  requestId : String
  results : List ScanResult

structure ConnectorLog where
  message : String
  resourceId : String
  clientSpiffeId : String
  routeType : String
  destination : String
  port : ℕ
  protocol : String
  action : String
  error : String
  occurredAtUnix : ℤ

inductive Message
  | shieldStatus (shields : List ShieldStatusUpdate)
  | resourceAcks (acks : List ResourceAck)
  | shieldDiscovery (reports : List ShieldDiscoveryReport)
  | resourceState (reports : List ResourceStateReport)
  | scanReport (report : ScanReport)
  | connectorLog (entry : ConnectorLog)

/-! ### The controller -/

/-- A row of `shield_discovered_services`, without its key. -/
structure ServiceRow where
  boundIp : String
  serviceName : String
  firstSeen : ℤ
  lastSeen : ℤ

/-- The key of `connector_scan_results`. -/
structure ScanKey where
  requestId : String
  connectorId : ConnectorId
  ip : String
  port : ℕ
  protocol : String
  deriving DecidableEq

/-- A row of `connector_logs`. -/
structure LogRow where
  workspaceId : TenantId
  connectorId : ConnectorId
  message : String
  resourceId : Option ResourceId
  clientSpiffeId : Option String
  client : Option (String × String)
  routeType : Option String
  destination : Option String
  port : Option ℕ
  protocol : Option String
  action : Option String
  error : Option String
  occurredAt : ℤ

/-- A snapshot of a shield's resources, put to a connector's stream. -/
structure Push where
  connectorId : ConnectorId
  shieldId : ShieldId
  generation : ℕ
  resources : List PendingRow

/-- The tables, the counters of the reconciliation, and what was pushed. -/
structure Controller where
  db : Db
  connectors : Map ConnectorId Connector
  /-- `last_heartbeat_at` and `version` of a shield -/
  beats : Map ShieldId (ℤ × String)
  /-- `snapshot_generation` and `snapshot_fingerprint` of a shield -/
  counters : ShieldId → Counter
  services : Map (ShieldId × String × ℕ) ServiceRow
  scanRequests : Map String (ConnectorId × TenantId)
  scanResults : Map ScanKey (String × ℤ)
  devices : Map String (String × String)
  logs : List LogRow
  drift : Map ShieldId ℕ
  absent : Map ResourceId ℕ
  online : Finset ConnectorId
  sent : List Push
  versions : TenantId → ℕ

/-- `connectorStreamClient` -/
structure Client where
  connectorId : ConnectorId
  tenantId : TenantId

namespace Controller

variable (t : Controller)

/-- `NotifyPolicyChange`, where something has changed. -/
def notify (tenantId : TenantId) (changed : Bool) : Controller :=
  if changed then
    { t with versions := update t.versions tenantId (t.versions tenantId + 1) }
  else t

/-- The generation of the desired set, moved on if the set is another one. -/
def nextCounter (shieldId : ShieldId) : Counter :=
  let fp := fingerprintDesired (t.db.desiredForShield shieldId)
  let stored := t.counters shieldId
  if stored.fingerprint = some fp then stored else ⟨stored.generation + 1, some fp⟩

/-- `buildSnapshotMsg`, and the message sent. -/
def sendSnapshot (connectorId : ConnectorId) (shieldId : ShieldId) : Controller :=
  if (t.db.shields shieldId).isSome then
    let counter := t.nextCounter shieldId
    { t with
      counters := update t.counters shieldId counter
      sent :=
        ⟨connectorId, shieldId, counter.generation, t.db.desiredForShield shieldId⟩ :: t.sent }
  else t

def pushSnapshotForShield (connectorId : ConnectorId) (shieldId : ShieldId) : Controller :=
  if connectorId ∈ t.online then t.sendSnapshot connectorId shieldId else t

end Controller

/-! ### `handleShieldStatus` -/

/-- `UpdateShieldHealth`, and whether the connector or the LAN IP is another one. -/
def updateShieldHealth (t : Controller) (connectorId : ConnectorId) (u : ShieldStatusUpdate) :
    Option (Controller × Bool) :=
  (t.db.shields u.shieldId).bind fun shield =>
    (t.connectors.lookup connectorId).bind fun c =>
      (statusOf u.status).bind fun status =>
        if c.tenantId = shield.tenantId ∧ c.remoteNetworkId = shield.remoteNetworkId ∧
            c.row.status = .active then
          (ResourceStore.writeShieldHealth t.db u.shieldId connectorId status u.lanIp).map
            fun db =>
              ({ t with
                  db := db
                  beats := t.beats.insert u.shieldId (u.lastSeenUnix, u.version) },
                shield.connectorId != connectorId ||
                  shield.lanIp != if u.lanIp = "" then none else some u.lanIp)
        else none

def shieldStatus (client : Client) (acc : Controller × Bool) (u : ShieldStatusUpdate) :
    Controller × Bool :=
  match updateShieldHealth acc.1 client.connectorId u with
  | none => acc
  | some (t, false) => (t, acc.2)
  | some (t, true) => (t.pushSnapshotForShield client.connectorId u.shieldId, true)

def handleShieldStatus (t : Controller) (client : Client) (shields : List ShieldStatusUpdate) :
    Controller :=
  let r := shields.foldl (shieldStatus client) (t, false)
  r.1.notify client.tenantId r.2

/-! ### `handleResourceAcks` -/

/-- A text that can be a UUID. -/
def resourceIdOf (text : String) : Option ResourceId :=
  if h : text.toList.all (fun c => c ≠ '|' ∧ c ≠ '\n') = true then
    some ⟨text, fun c hc => of_decide_eq_true (List.all_eq_true.1 h c hc)⟩
  else none

def resourceStatusOf (text : String) : Option ResourceStatus :=
  [ResourceStatus.pending, .protecting, .protected_, .unprotected, .failed, .deleting].find?
    (·.text == text)

def protocolOf (text : String) : Option Protocol :=
  [Protocol.tcp, .udp, .any].find? (·.text == text)

def portOf (port : ℤ) : Option ℕ := if 0 ≤ port then some port.toNat else none

/-- The rule of an ack, if a row can have it. -/
def ResourceAck.rule (a : ResourceAck) : Option (Protocol × ℕ × ℕ) :=
  (protocolOf a.protocol).bind fun protocol =>
    (portOf a.portFrom).bind fun portFrom =>
      (portOf a.portTo).map fun portTo => (protocol, portFrom, portTo)

/-- What `RecordAck` may accept: an id and a status that the columns have, and a verdict on a rule
that a row can have. The rule of another ack is not looked at. -/
def ResourceAck.toAck (a : ResourceAck) : Option Ack :=
  (resourceIdOf a.resourceId).bind fun resourceId =>
    (resourceStatusOf a.status).bind fun status =>
      (a.rule.or (if status = .protected_ ∨ status = .failed then none else some (.any, 0, 0))).map
        fun rule =>
          { resourceId := resourceId
            status := status
            error := a.error
            verifiedAt := a.verifiedAt
            shieldId := a.shieldId
            host := a.host
            protocol := rule.1
            portFrom := rule.2.1
            portTo := rule.2.2 }

def resourceAck (client : Client) (now : ℤ) (acc : Controller × Bool) (a : ResourceAck) :
    Controller × Bool :=
  match a.toAck with
  | none => acc
  | some ack =>
    let r := recordAck acc.1.db client.tenantId ack now
    ({ acc.1 with db := r.1 }, acc.2 || r.2)

def handleResourceAcks (t : Controller) (client : Client) (acks : List ResourceAck) (now : ℤ) :
    Controller :=
  let r := acks.foldl (resourceAck client now) (t, false)
  r.1.notify client.tenantId r.2

/-! ### `handleShieldDiscoveryBatch` -/

abbrev Services := Map (ShieldId × String × ℕ) ServiceRow

/-- What the table takes: a port in its range, for a shield that exists. -/
def serviceAllowed (db : Db) (shieldId : ShieldId) (svc : DiscoveredService) : Bool :=
  (db.shields shieldId).isSome && decide (0 < svc.port) && decide (svc.port < 65536)

def upsertService (db : Db) (shieldId : ShieldId) (now : ℤ) (services : Services)
    (svc : DiscoveredService) : Option Services :=
  let key := (shieldId, svc.protocol, svc.port)
  if serviceAllowed db shieldId svc then
    let firstSeen := ((services.lookup key).map ServiceRow.firstSeen).getD now
    some (services.insert key ⟨svc.boundIp, svc.serviceName, firstSeen, now⟩)
  else none

/-- The port of the DELETE has to be an `int4`. -/
def removeService (shieldId : ShieldId) (services : Services) (svc : DiscoveredService) :
    Option Services :=
  if svc.port < 2 ^ 31 then some (services.erase (shieldId, svc.protocol, svc.port)) else none

def upsertDiscoveredServices (db : Db) (services : Services) (shieldId : ShieldId)
    (added removed : List DiscoveredService) (now : ℤ) : Option Services :=
  (added.foldlM (upsertService db shieldId now) services).bind fun services =>
    removed.foldlM (removeService shieldId) services

def insertService (db : Db) (shieldId : ShieldId) (now : ℤ) (services : Services)
    (svc : DiscoveredService) : Option Services :=
  let key := (shieldId, svc.protocol, svc.port)
  if serviceAllowed db shieldId svc ∧ services.lookup key = none then
    some (services.insert key ⟨svc.boundIp, svc.serviceName, now, now⟩)
  else none

def replaceDiscoveredServices (db : Db) (services : Services) (shieldId : ShieldId)
    (added : List DiscoveredService) (now : ℤ) : Option Services :=
  added.foldlM (insertService db shieldId now) (retain services fun key _ => key.1 != shieldId)

def shieldDiscovery (now : ℤ) (t : Controller) (entry : ShieldDiscoveryReport) : Controller :=
  match entry.report with
  | none => t
  | some r =>
    let services :=
      if r.fullSync then replaceDiscoveredServices t.db t.services entry.shieldId r.added now
      else upsertDiscoveredServices t.db t.services entry.shieldId r.added r.removed now
    { t with services := services.getD t.services }

def handleShieldDiscoveryBatch (t : Controller) (reports : List ShieldDiscoveryReport) (now : ℤ) :
    Controller :=
  reports.foldl (shieldDiscovery now) t

/-! ### `handleResourceState` -/

def driftReportsBeforeResync : ℕ := 2

def absentReportsBeforeReap : ℕ := 3

def deletingForShield (db : Db) (shieldId : ShieldId) : List ResourceId :=
  (retain db.resources fun _ row =>
    row.shieldId == some shieldId && row.status == .deleting).entries.map Sigma.fst

/-- Orphans or missing resources. -/
def drifts (db : Db) (report : ResourceStateReport) : Bool :=
  let desired := (db.desiredForShield report.shieldId).map fun row => row.id.text
  report.activeResourceIds.any (fun id => !desired.contains id) ||
    desired.any fun id => !report.activeResourceIds.contains id

/-- The counter of one tombstone, and the tombstones to reap. -/
def countAbsent (reported : List String) (acc : Map ResourceId ℕ × List ResourceId)
    (id : ResourceId) : Map ResourceId ℕ × List ResourceId :=
  if id.text ∈ reported then (acc.1.insert id 0, acc.2)
  else
    let n := (acc.1.lookup id).getD 0 + 1
    if absentReportsBeforeReap ≤ n then (acc.1.erase id, acc.2 ++ [id])
    else (acc.1.insert id n, acc.2)

/-- The consecutive reports with drift, this one included. -/
def driftRuns (t : Controller) (report : ResourceStateReport) : ℕ :=
  if drifts t.db report then (t.drift.lookup report.shieldId).getD 0 + 1 else 0

def bookkeep (t : Controller) (report : ResourceStateReport) : Controller :=
  let runs := driftRuns t report
  { t with
    drift := t.drift.insert report.shieldId (if driftReportsBeforeResync ≤ runs then 0 else runs)
    absent := ((deletingForShield t.db report.shieldId).foldl
      (countAbsent report.activeResourceIds) (t.absent, [])).1 }

/-- The tombstones that the report confirms absent. -/
def toReap (t : Controller) (report : ResourceStateReport) : List ResourceId :=
  ((deletingForShield t.db report.shieldId).foldl
    (countAbsent report.activeResourceIds) (t.absent, [])).2

def reapTombstone (tenantId : TenantId) (shieldId : ShieldId) (acc : Controller × Bool)
    (id : ResourceId) : Controller × Bool :=
  match acc.1.db.row tenantId id with
  | none => acc
  | some row =>
    if row.shieldId = some shieldId ∧ row.status = .deleting then
      ({ acc.1 with db := acc.1.db.deleteRow id }, true)
    else acc

def reconcileShield (client : Client) (t : Controller) (report : ResourceStateReport) :
    Controller :=
  let counted := bookkeep t report
  let pushed :=
    if driftReportsBeforeResync ≤ driftRuns t report then
      counted.sendSnapshot client.connectorId report.shieldId
    else counted
  let r := (toReap t report).foldl (reapTombstone client.tenantId report.shieldId) (pushed, false)
  r.1.notify client.tenantId r.2

/-- The reporting connector owns the shield, in its workspace. -/
def owned (t : Controller) (client : Client) (shieldId : ShieldId) : Bool :=
  (t.db.shields shieldId).any fun shield =>
    shield.connectorId == client.connectorId && shield.tenantId == client.tenantId

def resourceState (client : Client) (t : Controller) (report : ResourceStateReport) : Controller :=
  if owned t client report.shieldId then reconcileShield client t report else t

def handleResourceState (t : Controller) (client : Client) (reports : List ResourceStateReport) :
    Controller :=
  reports.foldl (resourceState client) t

/-! ### `handleScanReport` and `handleConnectorLog` -/

/-- One result of `UpsertScanResults`; its port has to be an `int4`. -/
def upsertScanResult (requests : Map String (ConnectorId × TenantId)) (connectorId : ConnectorId)
    (requestId : String) (now : ℤ) (results : Map ScanKey (String × ℤ)) (r : ScanResult) :
    Option (Map ScanKey (String × ℤ)) :=
  let key := ⟨requestId, connectorId, r.ip, r.port, r.protocol⟩
  if r.port < 2 ^ 31 then
    if (requests.lookup requestId).map Prod.fst = some connectorId ∧ results.lookup key = none then
      some (results.insert key (r.serviceName, now))
    else some results
  else none

def handleScanReport (t : Controller) (connectorId : ConnectorId) (report : ScanReport) (now : ℤ) :
    Controller :=
  { t with
    scanResults := (report.results.foldlM
      (upsertScanResult t.scanRequests connectorId report.requestId now) t.scanResults).getD
        t.scanResults }

def nullif (text : String) : Option String := if text = "" then none else some text

/-- The checks of the columns. -/
def LogRow.allowed (row : LogRow) : Bool :=
  row.routeType.all (fun r => r == "connector" || r == "shield") &&
    row.port.all (fun p => decide (1 ≤ p ∧ p ≤ 65535)) &&
    row.protocol.all (fun p => p == "tcp" || p == "udp") &&
    row.action.all fun a => a == "allow" || a == "deny" || a == "error"

def logRow (t : Controller) (client : Client) (entry : ConnectorLog) (now : ℤ) : LogRow where
  workspaceId := client.tenantId
  connectorId := client.connectorId
  message := entry.message
  resourceId := resourceIdOf entry.resourceId
  clientSpiffeId := nullif entry.clientSpiffeId
  client := (nullif entry.clientSpiffeId).bind t.devices.lookup
  routeType := nullif entry.routeType
  destination := nullif entry.destination
  port := if entry.port = 0 then none else some entry.port
  protocol := nullif entry.protocol
  action := nullif entry.action
  error := nullif entry.error
  occurredAt := if 0 < entry.occurredAtUnix then entry.occurredAtUnix else now

def handleConnectorLog (t : Controller) (client : Client) (entry : ConnectorLog) (now : ℤ) :
    Controller :=
  let row := logRow t client entry now
  if row.allowed && (entry.resourceId == "" || row.resourceId.isSome) then
    { t with logs := row :: t.logs }
  else t

/-- The message's arm in the loop of `Control`. -/
def handle (t : Controller) (client : Client) (now : ℤ) : Message → Controller
  | .shieldStatus shields => handleShieldStatus t client shields
  | .resourceAcks acks => handleResourceAcks t client acks now
  | .shieldDiscovery reports => handleShieldDiscoveryBatch t reports now
  | .resourceState reports => handleResourceState t client reports
  | .scanReport report => handleScanReport t client.connectorId report now
  | .connectorLog entry => handleConnectorLog t client entry now

/-! ### What is left as it is -/

def BoundTo (p : ShieldId → Prop) (row : ResourceRow) : Prop := ∃ sh ∈ row.shieldId, p sh

def homeOf (shield : ShieldRow) : TenantId × NetworkId := (shield.tenantId, shield.remoteNetworkId)

/-- Everything but the shields of `p`, the resources bound to them and the policy version of one
workspace is left as it is. -/
structure Touches (p : ShieldId → Prop) (tenantId : TenantId) (t t' : Controller) : Prop where
  shield : ∀ sh, ¬ p sh → t'.db.shields sh = t.db.shields sh
  home : ∀ sh, (t'.db.shields sh).map homeOf = (t.db.shields sh).map homeOf
  /-- a shield has the connector that it had, or one of its network -/
  seat : ∀ sh shield', t'.db.shields sh = some shield' →
    (∃ shield, t.db.shields sh = some shield ∧ shield.connectorId = shield'.connectorId) ∨
      ∃ c, t.connectors.lookup shield'.connectorId = some c ∧
        (c.tenantId, c.remoteNetworkId) = homeOf shield'
  beat : ∀ sh, ¬ p sh → t'.beats.lookup sh = t.beats.lookup sh
  counter : ∀ sh, ¬ p sh → t'.counters sh = t.counters sh
  drift : ∀ sh, ¬ p sh → t'.drift.lookup sh = t.drift.lookup sh
  kept : ∀ id row, t.db.resources.lookup id = some row → ¬ BoundTo p row →
    t'.db.resources.lookup id = some row
  /-- no resource is new, or changes its workspace or shield -/
  rows : ∀ id row', t'.db.resources.lookup id = some row' →
    ∃ row, t.db.resources.lookup id = some row ∧ row.shieldId = row'.shieldId ∧
      row.tenantId = row'.tenantId
  absent : ∀ id, (∀ row, t.db.resources.lookup id = some row → ¬ BoundTo p row) →
    t'.absent.lookup id = t.absent.lookup id
  service : ∀ key, ¬ p key.1 → t'.services.lookup key = t.services.lookup key
  sent : ∃ new, t'.sent = new ++ t.sent ∧ ∀ push ∈ new, p push.shieldId
  version : ∀ w, w ≠ tenantId → t'.versions w = t.versions w
  rest : t'.db.networks = t.db.networks ∧ t'.db.rules = t.db.rules ∧
    t'.connectors = t.connectors ∧ t'.scanRequests = t.scanRequests ∧
    t'.scanResults = t.scanResults ∧ t'.devices = t.devices ∧ t'.logs = t.logs

namespace Touches

variable {p q : ShieldId → Prop} {w : TenantId} {t t' t'' : Controller}

lemma refl (p : ShieldId → Prop) (w : TenantId) (t : Controller) : Touches p w t t where
  shield _ _ := rfl
  home _ := rfl
  seat _ shield' h := .inl ⟨shield', h, rfl⟩
  beat _ _ := rfl
  counter _ _ := rfl
  drift _ _ := rfl
  kept _ _ h _ := h
  rows _ row' h := ⟨row', h, rfl, rfl⟩
  absent _ _ := rfl
  service _ _ := rfl
  sent := ⟨[], rfl, by simp⟩
  version _ _ := rfl
  rest := ⟨rfl, rfl, rfl, rfl, rfl, rfl, rfl⟩

lemma unbound_of_rows (h : Touches p w t t') {id}
    (hn : ∀ row, t.db.resources.lookup id = some row → ¬ BoundTo p row) :
    ∀ row, t'.db.resources.lookup id = some row → ¬ BoundTo p row := by
  rintro row' hr' ⟨sh, hsh, hp⟩
  obtain ⟨row, hr, hs, -⟩ := h.rows id row' hr'
  exact hn row hr ⟨sh, hs ▸ hsh, hp⟩

lemma trans (h : Touches p w t t') (h' : Touches p w t' t'') : Touches p w t t'' where
  shield sh hp := (h'.shield sh hp).trans (h.shield sh hp)
  home sh := (h'.home sh).trans (h.home sh)
  seat sh shield'' hs'' := by
    rcases h'.seat sh shield'' hs'' with ⟨shield', hs', hsm'⟩ | ⟨c, hc, hh⟩
    · rcases h.seat sh shield' hs' with ⟨shield, hs, hsm⟩ | ⟨c, hc, hh⟩
      · exact .inl ⟨shield, hs, hsm.trans hsm'⟩
      · have hsm := h'.home sh
        rw [hs'', hs'] at hsm
        exact .inr ⟨c, hsm' ▸ hc, hh.trans (some.inj hsm).symm⟩
    · exact .inr ⟨c, h.rest.2.2.1 ▸ hc, hh⟩
  beat sh hp := (h'.beat sh hp).trans (h.beat sh hp)
  counter sh hp := (h'.counter sh hp).trans (h.counter sh hp)
  drift sh hp := (h'.drift sh hp).trans (h.drift sh hp)
  kept id row hr hn := h'.kept id row (h.kept id row hr hn) hn
  rows id row'' hr'' := by
    obtain ⟨row', hr', hs', ht'⟩ := h'.rows id row'' hr''
    obtain ⟨row, hr, hs, ht⟩ := h.rows id row' hr'
    exact ⟨row, hr, hs.trans hs', ht.trans ht'⟩
  absent id hn := (h'.absent id (h.unbound_of_rows hn)).trans (h.absent id hn)
  service key hp := (h'.service key hp).trans (h.service key hp)
  sent := by
    obtain ⟨new, hnew, hp⟩ := h.sent
    obtain ⟨new', hn', hp'⟩ := h'.sent
    refine ⟨new' ++ new, by rw [hn', hnew, List.append_assoc], fun push hps => ?_⟩
    exact (List.mem_append.1 hps).elim (hp' push) (hp push)
  version v hv := (h'.version v hv).trans (h.version v hv)
  rest := by
    obtain ⟨h1, h2, h3, h4, h5, h6, h7⟩ := h.rest
    obtain ⟨h1', h2', h3', h4', h5', h6', h7'⟩ := h'.rest
    exact ⟨h1'.trans h1, h2'.trans h2, h3'.trans h3, h4'.trans h4, h5'.trans h5, h6'.trans h6,
      h7'.trans h7⟩

lemma mono (h : Touches p w t t') (hpq : ∀ sh, p sh → q sh) : Touches q w t t' where
  __ := h
  shield sh hq := h.shield sh (mt (hpq sh) hq)
  beat sh hq := h.beat sh (mt (hpq sh) hq)
  counter sh hq := h.counter sh (mt (hpq sh) hq)
  drift sh hq := h.drift sh (mt (hpq sh) hq)
  kept id row hr hn := h.kept id row hr fun ⟨sh, hsh, hp⟩ => hn ⟨sh, hsh, hpq sh hp⟩
  absent id hn := h.absent id fun row hr ⟨sh, hsh, hp⟩ => hn row hr ⟨sh, hsh, hpq sh hp⟩
  service key hq := h.service key (mt (hpq _) hq)
  sent := by
    obtain ⟨new, hnew, hp⟩ := h.sent
    exact ⟨new, hnew, fun push hps => hpq _ (hp push hps)⟩

end Touches

variable {cid : ConnectorId} {i : ResourceId} {row : ResourceRow} {u : ShieldStatusUpdate}
  {added : List DiscoveredService} {r : Controller × Bool}

section Footprints

variable {w : TenantId} {shieldId : ShieldId} (t : Controller) {id : ResourceId} {db : Db} {now : ℤ}
  {services services' : Services} {svc : DiscoveredService}

lemma touches_notify (p : ShieldId → Prop) (tid : TenantId) (changed : Bool) :
    Touches p tid t (t.notify tid changed) := by
  cases changed with
  | false => exact .refl p tid t
  | true => exact { Touches.refl p tid t with version := fun v hv => update_of_ne hv _ _ }

lemma touches_sendSnapshot (cid : ConnectorId) (shieldId : ShieldId) :
    Touches (· = shieldId) w t (t.sendSnapshot cid shieldId) := by
  unfold Controller.sendSnapshot
  split
  · exact { Touches.refl (· = shieldId) w t with
      counter := fun sh hne => update_of_ne hne _ _
      sent := ⟨[_], rfl, fun push hp => by rw [List.mem_singleton.1 hp]⟩ }
  · exact .refl _ w t

lemma touches_pushSnapshotForShield (cid : ConnectorId) (shieldId : ShieldId) :
    Touches (· = shieldId) w t (t.pushSnapshotForShield cid shieldId) := by
  unfold Controller.pushSnapshotForShield
  split
  · exact touches_sendSnapshot t cid shieldId
  · exact .refl _ w t

lemma touches_setRow {row' : ResourceRow} (hrow : t.db.resources.lookup id = some row)
    (hb : row.shieldId = some shieldId) (hs : row'.shieldId = row.shieldId)
    (ht : row'.tenantId = row.tenantId) :
    Touches (· = shieldId) w t { t with db := t.db.setRow id row' } := by
  refine { Touches.refl (· = shieldId) w t with kept := fun i r hr hn => ?_, rows := ?_ }
  · have hne : i ≠ id := by
      rintro rfl
      cases hrow.symm.trans hr
      exact hn ⟨shieldId, hb, rfl⟩
    exact lookup_insert_eq_some.2 (.inr ⟨hne, hr⟩)
  · intro i r hr
    rcases lookup_insert_eq_some.1 hr with ⟨rfl, rfl⟩ | ⟨-, hr⟩
    · exact ⟨row, hrow, hs.symm, ht.symm⟩
    · exact ⟨r, hr, rfl, rfl⟩

lemma touches_deleteRow (hrow : t.db.resources.lookup id = some row)
    (hb : row.shieldId = some shieldId) :
    Touches (· = shieldId) w t { t with db := t.db.deleteRow id } := by
  refine { Touches.refl (· = shieldId) w t with
    kept := fun i r hr hn => ?_
    rows := fun i r hr => ⟨r, (lookup_erase_eq_some.1 hr).1, rfl, rfl⟩ }
  refine lookup_erase_eq_some.2 ⟨hr, ?_⟩
  rintro rfl
  cases hrow.symm.trans hr
  exact hn ⟨shieldId, hb, rfl⟩

lemma updateShieldHealth_eq_some (h : updateShieldHealth t cid u = some r) :
    ∃ sh c status db, t.db.shields u.shieldId = some sh ∧
      t.connectors.lookup cid = some c ∧ c.tenantId = sh.tenantId ∧
      c.remoteNetworkId = sh.remoteNetworkId ∧
      ResourceStore.writeShieldHealth t.db u.shieldId cid status u.lanIp = some db ∧ r.1 = { t with
        db := db
        beats := t.beats.insert u.shieldId (u.lastSeenUnix, u.version) } := by
  obtain ⟨sh, hs, h⟩ := bind_eq_some_iff.1 h
  obtain ⟨c, hc, h⟩ := bind_eq_some_iff.1 h
  obtain ⟨status, -, ⟨ht, hn, -⟩, h⟩ := Runs.bind_ite_eq_some.1 h
  obtain ⟨db, hdb, rfl⟩ := map_eq_some_iff.1 h
  exact ⟨sh, c, status, db, hs, hc, ht, hn, hdb, rfl⟩

lemma shieldHealth_eq_some {db' connectorId lanIp status}
    (h : ResourceStore.writeShieldHealth db shieldId connectorId status lanIp = some db') :
    ∃ sh newIp, ∃ follows : ResourceRow → Bool, db.shields shieldId = some sh ∧
      (∀ row, follows row = true → row.shieldId = some shieldId) ∧ db' = { db with
        shields := update db.shields shieldId
          (some { sh with connectorId := connectorId, status := status, lanIp := newIp })
        resources := mapValues db.resources fun _ row =>
          if follows row then { row with host := lanIp } else row } := by
  obtain ⟨sh, hs, h⟩ := bind_eq_some_iff.1 h
  obtain ⟨-, h⟩ := ite_none_left_eq_some.1 h
  refine ⟨sh, _, _, hs, fun row hf => ?_, (some.inj h).symm⟩
  simp only [Bool.and_eq_true, beq_iff_eq] at hf
  exact hf.1.1.1

lemma touches_updateShieldHealth (h : updateShieldHealth t cid u = some r) :
    Touches (· = u.shieldId) w t r.1 := by
  obtain ⟨sh0, c, status, db, hs0, hc, ht, hn, hdb, hr⟩ := updateShieldHealth_eq_some t h
  obtain ⟨shield, newIp, follows, hs, hf, rfl⟩ := shieldHealth_eq_some hdb
  cases hs0.symm.trans hs
  rw [hr]
  refine { Touches.refl (· = u.shieldId) w t with
    shield := fun sh hne => update_of_ne hne _ _
    home := fun sh => ?_
    seat := fun sh sh' hs' => ?_
    beat := fun sh hne => lookup_insert_ne hne
    kept := fun id row hrow hnot => ?_
    rows := fun id row' hr' => ?_ }
  · by_cases hsh : sh = u.shieldId
    · subst hsh
      rw [hs]
      change (update t.db.shields u.shieldId _ u.shieldId).map homeOf = _
      rw [update_self]
      rfl
    · exact congrArg (Option.map _) (update_of_ne hsh _ _)
  · rcases Runs.update_apply_eq_iff.1 hs' with ⟨rfl, ⟨⟩⟩ | ⟨-, hold⟩
    · exact .inr ⟨c, hc, by rw [ht, hn]; rfl⟩
    · exact .inl ⟨sh', hold, rfl⟩
  · have hst : ¬ follows row = true := fun h => hnot ⟨_, hf row h, rfl⟩
    exact (lookup_mapValues _ _ id).trans (by rw [hrow, map_some, if_neg hst])
  · obtain ⟨row, hrow, rfl⟩ := map_eq_some_iff.1 ((lookup_mapValues _ _ id).symm.trans hr')
    refine ⟨row, hrow, ?_⟩
    split <;> exact ⟨rfl, rfl⟩

lemma touches_shieldStatus (cl : Client) (acc : Controller × Bool) (u : ShieldStatusUpdate) :
    Touches (· = u.shieldId) w acc.1 (shieldStatus cl acc u).1 := by
  unfold shieldStatus
  split
  · exact .refl _ w acc.1
  · next h =>
    have hh := touches_updateShieldHealth (w := w) acc.1 h
    exact hh
  · next t' h =>
    exact (touches_updateShieldHealth acc.1 h).trans (touches_pushSnapshotForShield t' _ _)

lemma recordAck_cases (db : Db) (tid : TenantId) (ack : Ack) (now : ℤ) :
    (recordAck db tid ack now).1 = db ∨
      ∃ row, db.row tid ack.resourceId = some row ∧ row.shieldId = some ack.shieldId ∧
        ((recordAck db tid ack now).1 = db.deleteRow ack.resourceId ∨
          (recordAck db tid ack now).1 = db.setRow ack.resourceId (ackedRow row ack now)) := by
  unfold recordAck
  split
  · next db' hrp =>
    obtain ⟨row, hr, -, hb, rfl⟩ := reapOnAck_eq_some hrp
    exact .inr ⟨row, hr, hb, .inl rfl⟩
  · split
    · next db' oldStatus hu =>
      obtain ⟨row, hr, ha, rfl, -⟩ := updateOnAck_eq_some hu
      exact .inr ⟨row, hr, shieldId_of_ackAccepted ha, .inr rfl⟩
    · exact .inl rfl

lemma toAck_shieldId {a : ResourceAck} {ack : Ack} (h : a.toAck = some ack) :
    ack.shieldId = a.shieldId := by
  obtain ⟨rid, -, h⟩ := bind_eq_some_iff.1 h
  obtain ⟨st, -, h⟩ := bind_eq_some_iff.1 h
  obtain ⟨rule, -, rfl⟩ := map_eq_some_iff.1 h
  rfl

lemma touches_resourceAck (cl : Client) (now : ℤ) (acc : Controller × Bool)
    (a : ResourceAck) : Touches (· = a.shieldId) w acc.1 (resourceAck cl now acc a).1 := by
  unfold resourceAck
  split
  · exact .refl _ w acc.1
  · next ack ha =>
    rw [← toAck_shieldId ha]
    dsimp only
    rcases recordAck_cases acc.1.db cl.tenantId ack now with hs | ⟨row, hr, hb, hcs⟩
    · rw [hs]
      exact .refl _ w acc.1
    · have hr := SignedResourceSets.lookup_of_row hr
      rcases hcs with hd | hset
      · rw [hd]
        exact touches_deleteRow acc.1 hr hb
      · rw [hset]
        exact touches_setRow acc.1 hr hb rfl rfl

/-! #### Discovered services -/

/-- The services of other shields are the same. -/
def OthersKept (shieldId : ShieldId) (services services' : Services) : Prop :=
  ∀ key : ShieldId × String × ℕ, key.1 ≠ shieldId → services'.lookup key = services.lookup key

lemma othersKept_insert {p : Prop} [Decidable p] {protocol : String} {port : ℕ} {row : ServiceRow}
    (h : (if p then some (services.insert (shieldId, protocol, port) row) else none) =
      some services') : OthersKept shieldId services services' := by
  obtain ⟨-, rfl⟩ := ite_some_none_eq_some.1 h
  exact fun _ hne => lookup_insert_ne fun h => hne (congrArg Prod.fst h)

lemma othersKept_removeService (h : removeService shieldId services svc = some services') :
    OthersKept shieldId services services' := by
  obtain ⟨-, rfl⟩ := ite_some_none_eq_some.1 h
  exact fun _ hne => lookup_erase_ne fun h => hne (congrArg Prod.fst h)

lemma othersKept_foldlM {f : Services → DiscoveredService → Option Services}
    (hf : ∀ services svc services', f services svc = some services' →
      OthersKept shieldId services services') :
    ∀ (l : List DiscoveredService) (services services' : Services),
      l.foldlM f services = some services' → OthersKept shieldId services services'
  | [], services, services', h => by
    cases h
    exact fun _ _ => rfl
  | svc :: l, services, services', h => by
    obtain ⟨mid, hm, h⟩ := bind_eq_some_iff.1 h
    exact fun key hne => (othersKept_foldlM hf l mid services' h key hne).trans
      (hf services svc mid hm key hne)

lemma othersKept_replace
    (h : replaceDiscoveredServices db services shieldId added now = some services') :
    OthersKept shieldId services services' := by
  have hr : OthersKept shieldId services (retain services fun key _ => key.1 != shieldId) := by
    intro key hne
    refine Option.ext fun row => ?_
    rw [lookup_retain_eq_some]
    simp [hne]
  exact fun key hne => (othersKept_foldlM (fun _ _ _ => othersKept_insert) added _ _ h
    key hne).trans (hr key hne)

lemma othersKept_upsert {removed}
    (h : upsertDiscoveredServices db services shieldId added removed now = some services') :
    OthersKept shieldId services services' := by
  obtain ⟨mid, ha, hr⟩ := bind_eq_some_iff.1 h
  exact fun key hne => (othersKept_foldlM (fun _ _ _ => othersKept_removeService) removed _ _
    hr key hne).trans
      (othersKept_foldlM (fun _ _ _ => othersKept_insert) added _ _ ha key hne)

lemma touches_shieldDiscovery (now : ℤ) (entry : ShieldDiscoveryReport) :
    Touches (· = entry.shieldId) w t (shieldDiscovery now t entry) := by
  unfold shieldDiscovery
  split
  · exact .refl _ w t
  · next r hr =>
    refine { Touches.refl (· = entry.shieldId) w t with service := fun key hne => ?_ }
    split
    · cases h : replaceDiscoveredServices t.db t.services entry.shieldId r.added now with
      | none => rfl
      | some services => exact othersKept_replace h key hne
    · cases h : upsertDiscoveredServices t.db t.services entry.shieldId r.added r.removed now with
      | none => rfl
      | some services => exact othersKept_upsert h key hne

/-! #### Reconciliation -/

lemma countAbsent_ne (rep : List String) (acc : Map ResourceId ℕ × List ResourceId) (hne : i ≠ id) :
    (countAbsent rep acc id).1.lookup i = acc.1.lookup i := by
  unfold countAbsent
  split
  · exact lookup_insert_ne hne
  · dsimp only
    split
    · exact lookup_erase_ne hne
    · exact lookup_insert_ne hne

lemma foldl_countAbsent_notMem (rep : List String) :
    ∀ (ids : List ResourceId) (acc : Map ResourceId ℕ × List ResourceId), i ∉ ids →
      (ids.foldl (countAbsent rep) acc).1.lookup i = acc.1.lookup i
  | [], _, _ => rfl
  | id :: ids, acc, hi => by
    rw [List.mem_cons, not_or] at hi
    exact (foldl_countAbsent_notMem rep ids _ hi.2).trans (countAbsent_ne rep acc hi.1)

lemma mem_deletingForShield (h : id ∈ deletingForShield db shieldId) :
    ∃ row, db.resources.lookup id = some row ∧ row.shieldId = some shieldId := by
  obtain ⟨⟨id', row⟩, hm, rfl⟩ := List.mem_map.1 h
  obtain ⟨hr, hcn⟩ := lookup_retain_eq_some.1 (mem_lookup_iff.2 hm)
  rw [Bool.and_eq_true, beq_iff_eq] at hcn
  exact ⟨row, hr, hcn.1⟩

lemma touches_bookkeep (rep : ResourceStateReport) :
    Touches (· = rep.shieldId) w t (bookkeep t rep) := { Touches.refl (· = rep.shieldId) w t with
    drift := fun sh hne => lookup_insert_ne hne
    absent := fun id hn => by
      refine foldl_countAbsent_notMem _ _ _ fun hm => ?_
      obtain ⟨row, hr, hb⟩ := mem_deletingForShield hm
      exact hn row hr ⟨_, hb, rfl⟩ }

lemma touches_reapTombstone (tid : TenantId) (acc : Controller × Bool) (id : ResourceId) :
    Touches (· = shieldId) w acc.1 (reapTombstone tid shieldId acc id).1 := by
  unfold reapTombstone
  split
  · exact .refl _ w acc.1
  · next row hr =>
    split
    · next hcn => exact touches_deleteRow acc.1 (SignedResourceSets.lookup_of_row hr) hcn.1
    · exact .refl _ w acc.1

lemma touches_foldl {A S : Type*} {p : ShieldId → Prop} (ctl : S → Controller) {f : S → A → S}
    (l : List A) (hf : ∀ r, ∀ x ∈ l, Touches p w (ctl r) (ctl (f r x))) (s : S) :
    Touches p w (ctl s) (ctl (l.foldl f s)) :=
  List.foldlRecOn l f (motive := fun r => Touches p w (ctl s) (ctl r)) (.refl p w _)
    fun r hr x hx => hr.trans (hf r x hx)

lemma touches_resourceState (cl : Client) (rep : ResourceStateReport) :
    Touches (· = rep.shieldId) cl.tenantId t (resourceState cl t rep) := by
  unfold resourceState
  split
  · have hcn := touches_bookkeep (w := cl.tenantId) t rep
    have hp : Touches (· = rep.shieldId) cl.tenantId t
        (if driftReportsBeforeResync ≤ driftRuns t rep then
          (bookkeep t rep).sendSnapshot cl.connectorId rep.shieldId
        else bookkeep t rep) := by
      split
      · exact hcn.trans (touches_sendSnapshot _ _ _)
      · exact hcn
    refine (hp.trans ?_).trans (touches_notify _ _ _ _)
    exact touches_foldl Prod.fst (toReap t rep)
      (fun acc id _ => touches_reapTombstone _ acc id) (_, false)
  · exact .refl _ _ t

/-- The message reports of one shield, and names it throughout. -/
def About (shieldId : ShieldId) : Message → Prop
  | .shieldStatus shields => ∀ u ∈ shields, u.shieldId = shieldId
  | .resourceAcks acks => ∀ a ∈ acks, a.shieldId = shieldId
  | .shieldDiscovery reports => ∀ r ∈ reports, r.shieldId = shieldId
  | .resourceState reports => ∀ r ∈ reports, r.shieldId = shieldId
  | .scanReport _ | .connectorLog _ => False

/-- **A message about one shield** touches nothing of another. -/
lemma touches_handle (cl : Client) (now : ℤ) {m} (h : About shieldId m) :
    Touches (· = shieldId) cl.tenantId t (handle t cl now m) := by
  cases m with
  | shieldStatus shs =>
    refine Touches.trans ?_ (touches_notify _ _ _ _)
    refine touches_foldl Prod.fst shs (fun acc u hu => ?_) (t, false)
    rw [← h u hu]
    exact touches_shieldStatus cl acc u
  | resourceAcks acks =>
    refine Touches.trans ?_ (touches_notify _ _ _ _)
    refine touches_foldl Prod.fst acks (fun acc a ha => ?_) (t, false)
    rw [← h a ha]
    exact touches_resourceAck cl now acc a
  | shieldDiscovery reps =>
    refine touches_foldl (fun r => r) reps (fun r entry he => ?_) t
    rw [← h entry he]
    exact touches_shieldDiscovery r now entry
  | resourceState reps =>
    refine touches_foldl (fun r => r) reps (fun r rep hr => ?_) t
    rw [← h rep hr]
    exact touches_resourceState r cl rep
  | scanReport | connectorLog => exact h.elim

end Footprints

end Zecurity.ControlMessages
