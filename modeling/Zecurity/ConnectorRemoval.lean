import Zecurity.ShieldEnrollment

/-!
Revocation and deletion of connectors against the shields attached to them
(`controller/graph/resolvers/connector.resolvers.go`, `controller/internal/connector/stranded.go`,
`controller/internal/shield`).

Each statement is a step; one that reads rows and then waits for locks is two: what it has read at
its start, and what it commits. A transaction that holds the lock of a shield's row keeps every
other writer of the row waiting. A status report and an enrollment read the connector without a
lock. The foreign key lets a row change to a connector only while there is one. An enrollment may
present any claims, and has to find its token in the row.
-/

namespace Zecurity.ConnectorRemoval

open FiniteMap Option Runs ShieldEnrollment ShieldRows
open ResourceStore (TenantId NetworkId ShieldId)

/-- A status report that has found the connector active. -/
structure Report where
  connectorId : ConnectorId
  connector : Connector
  update : ShieldStatusUpdate

inductive RevokePhase
  | checked
  | updated
  /-- the transaction of `shield.Revoke` has written the row of the next shield -/
  | revoking
  deriving DecidableEq

structure RevokeConnector where
  connectorId : ConnectorId
  tenantId : TenantId
  network : Network
  shields : List ShieldId
  phase : RevokePhase

inductive Call
  | enroll (e : Enrollment)
  | health (r : Report)
  /-- `shield.Revoke` has written the row, and has not committed yet -/
  | revokeShield (sh : ShieldId)
  | revokeConnector (r : RevokeConnector)
  /-- `DeleteConnector` has seen no enrolled shield attached -/
  | deleteConnector (tenantId : TenantId) (connectorId : ConnectorId)

/-- The row that a call has locked. -/
def Call.holds : Call → Option ShieldId
  | .enroll e => e.holds
  | .revokeShield sh => some sh
  | .revokeConnector r => if r.phase = .revoking then r.shields.head? else none
  | .health _ | .deleteConnector _ _ => none

instance : Locking Call where
  enroll := .enroll
  enrollment
    | .enroll e => some e
    | _ => none
  holds := Call.holds
  enrollment_eq_some {c e} := by cases c <;> simp
  holds_eq _ := rfl

structure State extends Tables Call where
  /-- the ids that connectors have been given; no id is given twice -/
  connectorIds : Finset ConnectorId
  /-- `shield_revocations` -/
  tombstones : Finset ShieldId
  certified : Finset ShieldId
  /-- the networks in which the last revocation of a connector has returned true -/
  settled : Finset Network

def start : State where
  connectors := ∅
  connectorIds := ∅
  workspaces := ∅
  shields := ∅
  tombstones := ∅
  calls := ∅
  certified := ∅
  settled := ∅

/-- Another connector of the network can take the shields over. -/
def otherLive (connectors : Map ConnectorId Connector) (network : Network)
    (connectorId : ConnectorId) : Bool :=
  connectors.entries.any fun e => e.2.network == network && e.1 != connectorId && e.2.live

def strandedShields (connectors : Map ConnectorId Connector) (shields : Map ShieldId ShieldRow)
    (tenantId : TenantId) (connectorId : ConnectorId) : List ShieldId :=
  (retain shields fun _ row => row.tenantId == tenantId && row.connectorId == connectorId &&
    row.live && !otherLive connectors (tenantId, row.remoteNetworkId) connectorId).keys

def inNetwork (connectors : Map ConnectorId Connector) (connectorId : ConnectorId)
    (network : Network) : Bool :=
  (connectors.lookup connectorId).any fun c => c.network == network

inductive Action
  | addConnector (id : ConnectorId) (tenantId : TenantId) (remoteNetworkId : NetworkId)
    (trustDomain : String)
  /-- a statement on the connector's row that neither revokes nor deletes it -/
  | connector (id : ConnectorId) (st : ConnectorRow.Statement)
  | workspace (id : TenantId) (active : Bool)
  | create (sh : ShieldId) (tenantId : TenantId) (remoteNetworkId : NetworkId)
    (connectorId : ConnectorId)
  | issueToken (claims : EnrollmentClaims)
  | enroll (id : CallId) (claims : EnrollmentClaims) (csr : Csr) (hostname version : String)
  | claim (id : CallId)
  | loadWorkspace (id : CallId)
  | loadConnector (id : CallId)
  | activate (id : CallId) (serial : ℕ) (now : ℤ)
  | abandon (id : CallId)
  | readHealth (id : CallId) (connectorId : ConnectorId) (u : ShieldStatusUpdate)
  | writeHealth (id : CallId)
  /-- the disconnect watcher's statement, on one of its rows -/
  | watch (sh : ShieldId) (now threshold : ℤ)
  | revokeShield (id : CallId) (tenantId : TenantId) (sh : ShieldId)
  | commitShield (id : CallId)
  | deleteShield (tenantId : TenantId) (sh : ShieldId)
  | strandedShields (id : CallId) (tenantId : TenantId) (connectorId : ConnectorId)
    (alsoRevokeShields : Bool)
  | revokeConnector (id : CallId)
  | revokeNext (id : CallId)
  | commitNext (id : CallId)
  | returnTrue (id : CallId)
  | deleteConnector (id : CallId) (tenantId : TenantId) (connectorId : ConnectorId)
  | cascade (id : CallId)

/-- The row that a status report writes, if its `WHERE` still holds and the table takes the row. -/
def Report.row (r : Report) (connectors : Map ConnectorId Connector) (row : ShieldRow) :
    Option ShieldRow :=
  (statusOf r.update.status).bind fun status =>
    if healthMatches r.connector row ∧ (row.connectorId = r.connectorId ∨
        (connectors.lookup r.connectorId).any fun c => c.tenantId == row.tenantId) then
      some (row.withHealth r.connectorId status r.update)
    else none

lemma Report.row_eq_some {r : Report} {cs row row'} (h : r.row cs row = some row') :
    ∃ st, statusOf r.update.status = some st ∧ healthMatches r.connector row = true ∧
      (row.connectorId = r.connectorId ∨
        (cs.lookup r.connectorId).any (fun c => c.tenantId == row.tenantId) = true) ∧
      row.withHealth r.connectorId st r.update = row' := by
  obtain ⟨st, hs, ⟨hm, ht⟩, heq⟩ := bind_ite_eq_some.1 h
  exact ⟨st, hs, hm, ht, Option.some.inj heq⟩

namespace State

variable (s : State) (id : CallId)

def report : Option Report :=
  (s.calls.lookup id).bind fun
    | .health r => some r
    | _ => none

def revokedShield : Option ShieldId :=
  (s.calls.lookup id).bind fun
    | .revokeShield sh => some sh
    | _ => none

def revocationIn (p : RevokePhase) : Option RevokeConnector :=
  (s.calls.lookup id).bind fun
    | .revokeConnector r => if r.phase = p then some r else none
    | _ => none

def deletion : Option (TenantId × ConnectorId) :=
  (s.calls.lookup id).bind fun
    | .deleteConnector tenantId connectorId => some (tenantId, connectorId)
    | _ => none

def setCall (c : Call) : State := { s with calls := s.calls.insert id c }

def endCall : State := { s with calls := s.calls.erase id }

def setRow (sh : ShieldId) (row : ShieldRow) : State :=
  { s with shields := s.shields.insert sh row }

/-- The commit of `shield.Revoke`. -/
def commitRevoke (sh : ShieldId) (row : ShieldRow) : State :=
  { s.setRow sh { row with status := .revoked } with tombstones := insert sh s.tombstones }

end State

def step (s : State) : Action → Option State
  | .addConnector id tenantId remoteNetworkId trustDomain =>
    if id ∉ s.connectorIds then
      some { s with
        connectors := s.connectors.insert id
          ⟨tenantId, remoteNetworkId, trustDomain, ⟨.pending, false⟩⟩
        connectorIds := insert id s.connectorIds }
    else none
  | .connector id st =>
    (s.connectors.lookup id).bind fun c =>
      if st ≠ .revoke ∧ st ≠ .delete ∧ st.matchesRow c.row then
        (st.apply c.row).map fun row =>
          { s with connectors := s.connectors.insert id { c with row := row } }
      else none
  | .workspace id active => some { s with workspaces := s.workspaces.insert id active }
  | .create sh tenantId remoteNetworkId connectorId =>
    if s.shields.lookup sh = none ∧ sh ∉ s.tombstones ∧
        inNetwork s.connectors connectorId (tenantId, remoteNetworkId) then
      some (s.setRow sh (.new tenantId remoteNetworkId connectorId))
    else none
  | .issueToken claims =>
    (s.shields.lookup claims.shieldId).bind fun row =>
      if tokenMatches claims row ∧ Free s.calls claims.shieldId ∧
          inNetwork s.connectors claims.connectorId claims.network then
        some (s.setRow claims.shieldId (row.withToken claims))
      else none
  | .enroll id claims csr hostname version =>
    if s.calls.lookup id = none ∧ claims.complete ∧
        csrHasSpiffeUri csr (shieldSpiffeId claims.trustDomain claims.shieldId) then
      some (s.setCall id (.enroll ⟨claims, csr, hostname, version, .verified⟩))
    else none
  | .claim id => (s.claim id).map fun t => { s with toTables := t }
  | .loadWorkspace id => (s.loadWorkspace id).map fun t => { s with toTables := t }
  | .loadConnector id => (s.loadConnector id).map fun t => { s with toTables := t }
  | .activate id serial now =>
    (s.enrollmentIn id .connectorActive).bind fun e =>
      (s.shields.lookup e.claims.shieldId).map fun row =>
        if claimable e.claims row then
          { (s.setRow e.claims.shieldId (row.enrolled e.claims e.csr.key serial e.hostname
              e.version now)).endCall id with
            certified := insert e.claims.shieldId s.certified }
        else s.endCall id
  | .abandon id => some (s.endCall id)
  | .readHealth id connectorId u =>
    (s.shields.lookup u.shieldId).bind fun row =>
      (s.connectors.lookup connectorId).bind fun c =>
        if s.calls.lookup id = none ∧ healthMatches c row then
          some (s.setCall id (.health ⟨connectorId, c, u⟩))
        else none
  | .writeHealth id =>
    (s.report id).bind fun r =>
      if Free s.calls r.update.shieldId then
        match (s.shields.lookup r.update.shieldId).bind (r.row s.connectors) with
        | some row => some ((s.setRow r.update.shieldId row).endCall id)
        | none => some (s.endCall id)
      else none
  | .watch sh now threshold =>
    (s.shields.lookup sh).bind fun row =>
      if Free s.calls sh then some (s.setRow sh (markDisconnected s.workspaces now threshold row))
      else none
  | .revokeShield id tenantId sh =>
    (s.shields.lookup sh).bind fun row =>
      if s.calls.lookup id = none ∧ revocable tenantId row ∧ Free s.calls sh then
        some (s.setCall id (.revokeShield sh))
      else none
  | .commitShield id =>
    (s.revokedShield id).bind fun sh =>
      (s.shields.lookup sh).map fun row => (s.commitRevoke sh row).endCall id
  | .deleteShield tenantId sh =>
    (s.shields.lookup sh).bind fun row =>
      if row.tenantId = tenantId ∧ (row.status = .pending ∨ row.status = .revoked) ∧
          Free s.calls sh then
        some { s with shields := s.shields.erase sh }
      else none
  | .strandedShields id tenantId connectorId alsoRevokeShields =>
    (s.connectors.lookup connectorId).bind fun c =>
      -- of a connector of another workspace there is nothing to find and nothing to revoke
      if s.calls.lookup id = none ∧ c.tenantId = tenantId then
        let stranded := ConnectorRemoval.strandedShields s.connectors s.shields tenantId connectorId
        if stranded.length > 0 ∧ !alsoRevokeShields then some s
        else some (s.setCall id
          (.revokeConnector ⟨connectorId, tenantId, c.network, stranded, .checked⟩))
      else none
  | .revokeConnector id =>
    (s.revocationIn id .checked).map fun r =>
      match s.connectors.lookup r.connectorId with
      | some c =>
        if c.tenantId = r.tenantId ∧ ConnectorRow.Statement.revoke.matchesRow c.row then
          { s.setCall id (.revokeConnector { r with phase := .updated }) with
            connectors := s.connectors.insert r.connectorId { c with row := ⟨.revoked, true⟩ }
            settled := s.settled.erase c.network }
        else s.endCall id
      | none => s.endCall id
  | .revokeNext id =>
    (s.revocationIn id .updated).bind fun r =>
      match r.shields with
      | [] => none
      | sh :: rest =>
        if Free s.calls sh then
          some (s.setCall id (.revokeConnector
            (if (s.shields.lookup sh).any (revocable r.tenantId) then { r with phase := .revoking }
            -- `ErrNotRevocable`
            else { r with shields := rest })))
        else none
  | .commitNext id =>
    (s.revocationIn id .revoking).bind fun r =>
      match r.shields with
      | [] => none
      | sh :: rest =>
        (s.shields.lookup sh).map fun row =>
          (s.commitRevoke sh row).setCall id
            (.revokeConnector { r with shields := rest, phase := .updated })
  | .returnTrue id =>
    (s.revocationIn id .updated).bind fun r =>
      if r.shields = [] then
        some { s.endCall id with settled := insert r.network s.settled }
      else none
  | .deleteConnector id tenantId connectorId =>
    (s.connectors.lookup connectorId).bind fun c =>
      if s.calls.lookup id = none ∧ c.tenantId = tenantId ∧
          ConnectorRow.Statement.delete.matchesRow c.row ∧
          All s.shields fun row => row.connectorId = connectorId → row.live = false then
        some (s.setCall id (.deleteConnector tenantId connectorId))
      else none
  | .cascade id =>
    (s.deletion id).bind fun (tenantId, connectorId) =>
      if (s.connectors.lookup connectorId).any fun c =>
          c.tenantId == tenantId && ConnectorRow.Statement.delete.matchesRow c.row then
        if ∀ e ∈ s.shields.entries, e.2.connectorId = connectorId → Free s.calls e.1 then
          some { s.endCall id with
            connectors := s.connectors.erase connectorId
            shields := retain s.shields fun _ row => row.connectorId != connectorId }
        else none
      else some (s.endCall id)

/-! ### What a step can do -/

/-- A call that a step starts or leads on. -/
inductive Enters (s : State) (id : CallId) : Action → Call → Prop
  | enroll {claims csr hostname version} :
    Enters s id (.enroll id claims csr hostname version)
      (.enroll ⟨claims, csr, hostname, version, .verified⟩)
  | claim {e : Enrollment} {row} (hfree : Free s.calls e.claims.shieldId)
    (hrow : s.shields.lookup e.claims.shieldId = some row)
    (hclaimable : claimable e.claims row = true) (hagrees : claimAgrees e.claims row = true) :
    Enters s id (.claim id) (.enroll { e with phase := .claimed })
  | loadWorkspace {e} (he : s.calls.lookup id = some (.enroll e)) (hp : e.phase = .claimed) :
    Enters s id (.loadWorkspace id) (.enroll { e with phase := .workspaceActive })
  | loadConnector {e c} (he : s.calls.lookup id = some (.enroll e))
    (hp : e.phase = .workspaceActive) (hc : s.connectors.lookup e.claims.connectorId = some c)
    (hactive : enrollConnectorActive e.claims c = true) :
    Enters s id (.loadConnector id) (.enroll { e with phase := .connectorActive })
  | readHealth {connectorId u c row} (hc : s.connectors.lookup connectorId = some c)
    (hmatches : healthMatches c row = true) :
    Enters s id (.readHealth id connectorId u) (.health ⟨connectorId, c, u⟩)
  | revokeShield {tenantId sh} (hfree : Free s.calls sh) :
    Enters s id (.revokeShield id tenantId sh) (.revokeShield sh)
  | strandedShields {connectorId alsoRevokeShields c}
    (hc : s.connectors.lookup connectorId = some c) :
    Enters s id (.strandedShields id c.tenantId connectorId alsoRevokeShields)
      (.revokeConnector ⟨connectorId, c.tenantId, c.network,
        strandedShields s.connectors s.shields c.tenantId connectorId, .checked⟩)
  | revokeNext {r sh rest} (hr : s.calls.lookup id = some (.revokeConnector r))
    (hp : r.phase = .updated) (hsh : r.shields = sh :: rest) (hfree : Free s.calls sh) :
    Enters s id (.revokeNext id) (.revokeConnector { r with phase := .revoking })
  | skip {r sh rest} (hr : s.calls.lookup id = some (.revokeConnector r))
    (hp : r.phase = .updated) (hsh : r.shields = sh :: rest)
    (hrow : ∀ row, s.shields.lookup sh = some row → revocable r.tenantId row = false) :
    Enters s id (.revokeNext id) (.revokeConnector { r with shields := rest })
  | deleteConnector {tenantId connectorId}
    (hnone : All s.shields fun row => row.connectorId = connectorId → row.live = false) :
    Enters s id (.deleteConnector id tenantId connectorId) (.deleteConnector tenantId connectorId)

inductive Step (s : State) : Action → State → Prop
  | idle {a} : Step s a s
  | addConnector {id tenantId remoteNetworkId trustDomain} (hnew : id ∉ s.connectorIds) :
    Step s (.addConnector id tenantId remoteNetworkId trustDomain) { s with
      connectors := s.connectors.insert id
        ⟨tenantId, remoteNetworkId, trustDomain, ⟨.pending, false⟩⟩
      connectorIds := insert id s.connectorIds }
  | connector {id st c row} (hc : s.connectors.lookup id = some c) (hrevoke : st ≠ .revoke)
    (hmatches : st.matchesRow c.row = true) (happly : st.apply c.row = some row) :
    Step s (.connector id st)
      { s with connectors := s.connectors.insert id { c with row := row } }
  | workspace {id active} :
    Step s (.workspace id active) { s with workspaces := s.workspaces.insert id active }
  /-- `create` and `issueToken` -/
  | pend {a sh row} (hpending : row.status = .pending)
    (hold : ∀ old, s.shields.lookup sh = some old → old.status = .pending ∧ Free s.calls sh)
    (hin : inNetwork s.connectors row.connectorId row.network = true) : Step s a (s.setRow sh row)
  | watch {sh now threshold row} (hrow : s.shields.lookup sh = some row) (hfree : Free s.calls sh) :
    Step s (.watch sh now threshold)
      (s.setRow sh (markDisconnected s.workspaces now threshold row))
  | deleteShield {tenantId sh row} (hrow : s.shields.lookup sh = some row)
    (hlive : row.live = false) (hfree : Free s.calls sh) :
    Step s (.deleteShield tenantId sh) { s with shields := s.shields.erase sh }
  | setCall {a id c} (h : Enters s id a c) : Step s a (s.setCall id c)
  | endCall {a id} : Step s a (s.endCall id)
  | activate {id serial now e row} (he : s.calls.lookup id = some (.enroll e))
    (hp : e.phase = .connectorActive) (hrow : s.shields.lookup e.claims.shieldId = some row) :
    Step s (.activate id serial now)
      { (s.setRow e.claims.shieldId (row.enrolled e.claims e.csr.key serial e.hostname e.version
          now)).endCall id with
        certified := insert e.claims.shieldId s.certified }
  | writeHealth {id r row row'} (hr : s.calls.lookup id = some (.health r))
    (hrow : s.shields.lookup r.update.shieldId = some row)
    (hrow' : r.row s.connectors row = some row') (hfree : Free s.calls r.update.shieldId) :
    Step s (.writeHealth id) ((s.setRow r.update.shieldId row').endCall id)
  | commitShield {id sh row} (hsh : s.calls.lookup id = some (.revokeShield sh))
    (hrow : s.shields.lookup sh = some row) :
    Step s (.commitShield id) ((s.commitRevoke sh row).endCall id)
  | commitNext {id r sh rest row} (hr : s.calls.lookup id = some (.revokeConnector r))
    (hp : r.phase = .revoking) (hsh : r.shields = sh :: rest)
    (hrow : s.shields.lookup sh = some row) :
    Step s (.commitNext id) ((s.commitRevoke sh row).setCall id
      (.revokeConnector { r with shields := rest, phase := .updated }))
  | revokeConnector {id r c} (hr : s.calls.lookup id = some (.revokeConnector r))
    (hp : r.phase = .checked) (hc : s.connectors.lookup r.connectorId = some c) :
    Step s (.revokeConnector id)
      { s.setCall id (.revokeConnector { r with phase := .updated }) with
        connectors := s.connectors.insert r.connectorId { c with row := ⟨.revoked, true⟩ }
        settled := s.settled.erase c.network }
  | returnTrue {id r} (hr : s.calls.lookup id = some (.revokeConnector r))
    (hp : r.phase = .updated) (hnil : r.shields = []) :
    Step s (.returnTrue id) { s.endCall id with settled := insert r.network s.settled }
  | cascade {id tenantId connectorId c}
    (hd : s.calls.lookup id = some (.deleteConnector tenantId connectorId))
    (hc : s.connectors.lookup connectorId = some c)
    (hmatches : ConnectorRow.Statement.delete.matchesRow c.row = true)
    (hfree : ∀ sh row, s.shields.lookup sh = some row → row.connectorId = connectorId →
      Free s.calls sh) :
    Step s (.cascade id) { s.endCall id with
      connectors := s.connectors.erase connectorId
      shields := retain s.shields fun _ row => row.connectorId != connectorId }

variable {a : Action} {s' : State}

section Lookups

variable {s : State} {id : CallId} {r : Report}

lemma revocationIn_eq_some {p r} (h : s.revocationIn id p = some r) :
    s.calls.lookup id = some (.revokeConnector r) ∧ r.phase = p := by
  obtain ⟨call, hcall, hr⟩ := bind_eq_some_iff.1 h
  cases call with
  | revokeConnector r' =>
    obtain ⟨hp, rfl⟩ := ite_some_none_eq_some.1 hr
    exact ⟨hcall, hp⟩
  | _ => cases hr

lemma report_eq_some (h : s.report id = some r) : s.calls.lookup id = some (.health r) := by
  obtain ⟨call, hcall, hr⟩ := bind_eq_some_iff.1 h
  cases call <;> cases hr
  exact hcall

lemma revokedShield_eq_some {sh} (h : s.revokedShield id = some sh) :
    s.calls.lookup id = some (.revokeShield sh) := by
  obtain ⟨call, hcall, hsh⟩ := bind_eq_some_iff.1 h
  cases call <;> cases hsh
  exact hcall

lemma deletion_eq_some {d} (h : s.deletion id = some d) :
    s.calls.lookup id = some (.deleteConnector d.1 d.2) := by
  obtain ⟨call, hcall, hd⟩ := bind_eq_some_iff.1 h
  cases call <;> cases hd
  exact hcall

end Lookups

lemma step_cases {s} (h : step s a = some s') : Step s a s' := by
  cases a with
  | addConnector id tid nid td =>
    obtain ⟨hnew, rfl⟩ := ite_some_none_eq_some.1 h
    exact .addConnector hnew
  | connector id st =>
    obtain ⟨c, hc, ⟨hrv, -, hm⟩, h⟩ := bind_ite_eq_some.1 h
    obtain ⟨row, hap, rfl⟩ := map_eq_some_iff.1 h
    exact .connector hc hrv hm hap
  | workspace id active =>
    cases h
    exact .workspace
  | create sh tid nid cid =>
    obtain ⟨⟨hnn, -, hin⟩, rfl⟩ := ite_some_none_eq_some.1 h
    exact .pend rfl (by simp [hnn]) hin
  | issueToken cl =>
    obtain ⟨row, hrow, ⟨hm, hf, hin⟩, ⟨⟩⟩ := bind_ite_eq_some.1 h
    simp only [tokenMatches, Bool.and_eq_true, beq_iff_eq] at hm
    obtain ⟨⟨ht, hn⟩, hpn⟩ := hm
    refine .pend hpn (fun old hold => ?_) ?_
    · cases hrow.symm.trans hold
      exact ⟨hpn, hf⟩
    · have : (row.withToken cl).network = cl.network := Prod.ext ht hn
      rw [this]
      exact hin
  | enroll id cl csr host ver =>
    obtain ⟨-, rfl⟩ := ite_some_none_eq_some.1 h
    exact .setCall .enroll
  | claim id =>
    obtain ⟨t, ht, rfl⟩ := map_eq_some_iff.1 h
    cases advances_of_claim ht with
    | fail => exact .endCall
    | claim hf hrow hc ha => exact .setCall (.claim hf hrow hc ha)
  | loadWorkspace id =>
    obtain ⟨t, ht, rfl⟩ := map_eq_some_iff.1 h
    cases advances_of_loadWorkspace ht with
    | fail => exact .endCall
    | loadWorkspace he hp => exact .setCall (.loadWorkspace he hp)
  | loadConnector id =>
    obtain ⟨t, ht, rfl⟩ := map_eq_some_iff.1 h
    cases advances_of_loadConnector ht with
    | fail => exact .endCall
    | loadConnector he hp hc hac => exact .setCall (.loadConnector he hp hc hac)
  | activate id sn now =>
    obtain ⟨e, he, h⟩ := bind_eq_some_iff.1 h
    obtain ⟨hcall, hp⟩ := enrollmentIn_eq_some he
    obtain ⟨row, hrow, rfl⟩ := map_eq_some_iff.1 h
    split
    · exact .activate hcall hp hrow
    · exact .endCall
  | abandon id =>
    cases h
    exact .endCall
  | readHealth id cid u =>
    obtain ⟨row, hrow, h⟩ := bind_eq_some_iff.1 h
    obtain ⟨c, hc, ⟨-, hm⟩, ⟨⟩⟩ := bind_ite_eq_some.1 h
    exact .setCall (.readHealth hc hm)
  | writeHealth id =>
    obtain ⟨r, hr, hf, h⟩ := bind_ite_eq_some.1 h
    split at h
    next row' hr' =>
      cases h
      obtain ⟨row, hrow, hr'⟩ := bind_eq_some_iff.1 hr'
      exact .writeHealth (report_eq_some hr) hrow hr' hf
    next =>
      cases h
      exact .endCall
  | watch sh now th =>
    obtain ⟨row, hrow, hf, ⟨⟩⟩ := bind_ite_eq_some.1 h
    exact .watch hrow hf
  | revokeShield id tid sh =>
    obtain ⟨row, hrow, ⟨-, -, hf⟩, ⟨⟩⟩ := bind_ite_eq_some.1 h
    exact .setCall (.revokeShield hf)
  | commitShield id =>
    obtain ⟨sh, hsh, h⟩ := bind_eq_some_iff.1 h
    obtain ⟨row, hrow, rfl⟩ := map_eq_some_iff.1 h
    exact .commitShield (revokedShield_eq_some hsh) hrow
  | deleteShield tid sh =>
    obtain ⟨row, hrow, ⟨-, hs, hf⟩, ⟨⟩⟩ := bind_ite_eq_some.1 h
    refine .deleteShield hrow ?_ hf
    rcases hs with hs | hs <;> simp [ShieldRow.live, hs]
  | strandedShields id tid cid alsoRevokeShields =>
    obtain ⟨c, hc, ⟨-, rfl⟩, h⟩ := bind_ite_eq_some.1 h
    dsimp only at h
    split at h
    · cases h
      exact .idle
    · cases h
      exact .setCall (.strandedShields hc)
  | revokeConnector id =>
    obtain ⟨r, hr, rfl⟩ := map_eq_some_iff.1 h
    obtain ⟨hcall, hp⟩ := revocationIn_eq_some hr
    split
    next c hc =>
      split
      · exact .revokeConnector hcall hp hc
      · exact .endCall
    next => exact .endCall
  | revokeNext id =>
    obtain ⟨r, hr, h⟩ := bind_eq_some_iff.1 h
    obtain ⟨hcall, hp⟩ := revocationIn_eq_some hr
    split at h
    next => cases h
    next sh rest hsh =>
      obtain ⟨hf, rfl⟩ := ite_some_none_eq_some.1 h
      split
      next => exact .setCall (.revokeNext hcall hp hsh hf)
      next hnot =>
        refine .setCall (.skip hcall hp hsh fun row hrow => ?_)
        simpa [hrow] using hnot
  | commitNext id =>
    obtain ⟨r, hr, h⟩ := bind_eq_some_iff.1 h
    obtain ⟨hcall, hp⟩ := revocationIn_eq_some hr
    split at h
    next => cases h
    next sh rest hsh =>
      obtain ⟨row, hrow, rfl⟩ := map_eq_some_iff.1 h
      exact .commitNext hcall hp hsh hrow
  | returnTrue id =>
    obtain ⟨r, hr, h⟩ := bind_eq_some_iff.1 h
    obtain ⟨hcall, hp⟩ := revocationIn_eq_some hr
    obtain ⟨hnil, rfl⟩ := ite_some_none_eq_some.1 h
    exact .returnTrue hcall hp hnil
  | deleteConnector id tid cid =>
    obtain ⟨c, hc, ⟨-, -, -, hnn⟩, ⟨⟩⟩ := bind_ite_eq_some.1 h
    exact .setCall (.deleteConnector hnn)
  | cascade id =>
    obtain ⟨⟨tid, cid⟩, hd, h⟩ := bind_eq_some_iff.1 h
    dsimp only at h
    split at h
    next hm =>
      obtain ⟨hf, rfl⟩ := ite_some_none_eq_some.1 h
      obtain ⟨c, hc, hm⟩ := (any_eq_true ..).1 hm
      refine .cascade (deletion_eq_some hd) hc (Bool.and_eq_true_iff.1 hm).2 ?_
      intro sh row hrow ha
      exact hf ⟨sh, row⟩ (AList.mem_lookup_iff.1 hrow) ha
    next =>
      cases h
      exact .endCall

/-! ### The locks -/

lemma Enters.locks {s id call} (hc : Enters s id a call) (h : Locks s.calls s.shields) :
    Locks (s.calls.insert id call) s.shields := by
  cases hc with
  | enroll => exact h.setCall (by rintro _ ⟨⟩) (by rintro _ ⟨⟩ hp; exact absurd rfl hp)
  | claim hf hrow hc ha => exact (Advances.claim hf hrow hc ha).locks h
  | loadWorkspace he hp => exact (Advances.loadWorkspace he hp).locks h
  | loadConnector he hp hc hac => exact (Advances.loadConnector he hp hc hac).locks h
  | readHealth | strandedShields | deleteConnector =>
    exact h.setCall (by rintro _ ⟨⟩) (by rintro _ ⟨⟩)
  | revokeShield hf =>
    refine h.setCall (fun sh hsh => ?_) (by rintro _ ⟨⟩)
    cases hsh
    exact .inl hf
  | revokeNext hr hp hsh hf =>
    refine h.setCall (fun k hk => ?_) (by rintro _ ⟨⟩)
    simp only [Locking.holds, Call.holds, hsh, if_pos, List.head?_cons, Option.some.injEq] at hk
    exact .inl (hk ▸ hf)
  | skip hr hp hsh hrow =>
    exact h.setCall (fun k hk => by simp [Locking.holds, Call.holds, hp] at hk) (by rintro _ ⟨⟩)

lemma Step.locks {s} (hs : Step s a s') (h : Locks s.calls s.shields) :
    Locks s'.calls s'.shields := by
  cases hs with
  | idle | addConnector | connector | workspace => exact h
  | pend hpn hold hin => exact h.insert fun old hrow => (hold old hrow).2
  | watch hrow hf => exact h.insert fun _ _ => hf
  | deleteShield hrow hl hf =>
    refine h.write fun k old hk hold _ => lookup_erase_eq_some.2 ⟨hold, ?_⟩
    rintro rfl
    exact hk hf
  | setCall hc => exact hc.locks h
  | endCall | returnTrue => exact h.endCall
  | activate he hp hrow =>
    exact h.endCall.insert fun _ _ => h.free_endCall he (Locking.holds_enroll (by simp [hp]))
  | writeHealth hr hrow hr' hf => exact (h.insert fun _ _ => hf).endCall
  | commitShield hsh hrow => exact h.endCall.insert fun _ _ => h.free_endCall hsh rfl
  | @commitNext id r sh rest row hr hp hsh hrow =>
    have hholds : (Call.revokeConnector r).holds = some sh := by simp [Call.holds, hp, hsh]
    have hset : Locks (s.calls.insert id
        (.revokeConnector { r with shields := rest, phase := .updated })) s.shields :=
      h.setCall (by rintro _ ⟨⟩) (by rintro _ ⟨⟩)
    exact hset.insert fun _ _ => h.free_setCall hr hholds rfl
  | revokeConnector hr hp hc => exact h.setCall (by rintro _ ⟨⟩) (by rintro _ ⟨⟩)
  | cascade hd hc hm hf =>
    refine Locks.endCall (h.write fun k old hk hold _ => lookup_retain_eq_some.2 ⟨hold, ?_⟩)
    exact bne_iff_ne.2 fun heq => hk (hf k old hold heq)

/-! ### Pieces of schedules -/

/-- The token of the examples, for a shield of the network `n` that is attached to `connectorId`. -/
def exampleClaims (sh : ShieldId) (connectorId : ConnectorId) : EnrollmentClaims :=
  ⟨"jti-" ++ sh, sh, "n", "t", "td", connectorId, "addr", "100.64.0.1"⟩

def exampleCsr (sh : ShieldId) : Csr := ⟨"key", [shieldSpiffeId "td" sh]⟩

/-- An active connector of the network `n`. -/
def addActive (connectorId : ConnectorId) : List Action :=
  [Action.addConnector connectorId "t" "n" "td", .connector connectorId .enroll]

/-- A shield is created, its token is issued, and an enrollment gets as far as to find the
connector active. -/
def enrollUntilActive (id : CallId) (sh : ShieldId) (connectorId : ConnectorId) : List Action :=
  [Action.create sh "t" "n" connectorId, .issueToken (exampleClaims sh connectorId),
    .enroll id (exampleClaims sh connectorId) (exampleCsr sh) "host" "1.0", .claim id,
    .loadWorkspace id, .loadConnector id]

end Zecurity.ConnectorRemoval
