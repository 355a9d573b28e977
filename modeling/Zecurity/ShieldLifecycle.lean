import Zecurity.ShieldEnrollment

/-!
The life of a shield: token issues, enrollments, renewals, status reports, the disconnect watcher
and revocations in any interleaving (`controller/internal/shield`).

Each statement is a step. The final write of a renewal reads the connector under a lock. A status
report writes the status that it carries.
-/

namespace Zecurity.ShieldLifecycle

open AList FiniteMap Option Runs ShieldEnrollment ShieldRows
open ResourceStore (TenantId NetworkId ShieldId ShieldStatus)

/-- A renewal whose read has found everything in order. -/
structure Renewal where
  req : RenewCertRequest
  tenantId : TenantId

inductive Call
  | enroll (e : Enrollment)
  | renew (r : Renewal)

instance : Locking Call where
  enroll := .enroll
  enrollment
    | .enroll e => some e
    | .renew _ => none
  holds
    | .enroll e => e.holds
    | .renew _ => none
  enrollment_eq_some {c e} := by cases c <;> simp
  holds_eq _ := rfl

structure Certificate where
  shieldId : ShieldId
  key : Key
  serial : ℕ
  deriving DecidableEq

structure State extends Tables Call where
  /-- `shield_revocations` -/
  tombstones : Finset ShieldId
  tokens : List EnrollmentClaims
  entries : Map Jti ShieldId
  serials : ℕ
  certificates : List Certificate

def start : State where
  connectors := ∅
  workspaces := ∅
  shields := ∅
  tombstones := ∅
  tokens := []
  entries := ∅
  calls := ∅
  serials := 0
  certificates := []

inductive Action
  | addConnector (id : ConnectorId) (tenantId : TenantId) (remoteNetworkId : NetworkId)
    (trustDomain : String)
  /-- a statement on the connector's row; a deletion takes the shields along and is left out -/
  | connector (id : ConnectorId) (st : ConnectorRow.Statement)
  | workspace (id : TenantId) (active : Bool)
  | create (sh : ShieldId) (tenantId : TenantId) (remoteNetworkId : NetworkId)
    (connectorId : ConnectorId)
  | issueToken (claims : EnrollmentClaims)
  | expire (jti : Jti)
  | enroll (id : CallId) (claims : EnrollmentClaims) (csr : Csr) (hostname version : String)
  | claim (id : CallId)
  | loadWorkspace (id : CallId)
  | loadConnector (id : CallId)
  | activate (id : CallId) (now : ℤ)
  | abandon (id : CallId)
  | renew (id : CallId) (req : RenewCertRequest)
  | record (id : CallId)
  | health (connectorId : ConnectorId) (u : ShieldStatusUpdate)
  | watch (now threshold : ℤ)
  | revoke (tenantId : TenantId) (sh : ShieldId)

/-- A certificate is signed for the key, its serial is recorded, and it is returned. -/
def State.returnCert (s : State) (sh : ShieldId) (key : Key) : State :=
  { s with serials := s.serials + 1, certificates := ⟨sh, key, s.serials⟩ :: s.certificates }

def step (s : State) : Action → Option State
  | .addConnector id tenantId remoteNetworkId trustDomain =>
    if s.connectors.lookup id = none then
      some { s with
        connectors := s.connectors.insert id
          ⟨tenantId, remoteNetworkId, trustDomain, ⟨.pending, false⟩⟩ }
    else none
  | .connector id st =>
    (s.connectors.lookup id).bind fun c =>
      if st ≠ .delete ∧ st.matchesRow c.row then
        (st.apply c.row).map fun row =>
          { s with connectors := s.connectors.insert id { c with row := row } }
      else none
  | .workspace id active => some { s with workspaces := s.workspaces.insert id active }
  | .create sh tenantId remoteNetworkId connectorId =>
    if s.shields.lookup sh = none ∧ sh ∉ s.tombstones then
      some { s with shields := s.shields.insert sh (.new tenantId remoteNetworkId connectorId) }
    else none
  | .issueToken claims =>
    (s.shields.lookup claims.shieldId).bind fun row =>
      if tokenMatches claims row ∧ Free s.calls claims.shieldId ∧
          claims.id ∉ s.tokens.map EnrollmentClaims.id then
        some { s with
          shields := s.shields.insert claims.shieldId (row.withToken claims)
          tokens := claims :: s.tokens
          entries := s.entries.insert claims.id claims.shieldId }
      else none
  | .expire jti => some { s with entries := s.entries.erase jti }
  | .enroll id claims csr hostname version =>
    if s.calls.lookup id = none ∧ claims ∈ s.tokens ∧ claims.complete ∧
        s.entries.lookup claims.id = some claims.shieldId ∧
        csrHasSpiffeUri csr (shieldSpiffeId claims.trustDomain claims.shieldId) then
      some { s with
        calls := s.calls.insert id (.enroll ⟨claims, csr, hostname, version, .verified⟩) }
    else none
  | .claim id => (s.claim id).map fun t => { s with toTables := t }
  | .loadWorkspace id => (s.loadWorkspace id).map fun t => { s with toTables := t }
  | .loadConnector id => (s.loadConnector id).map fun t => { s with toTables := t }
  | .activate id now =>
    (s.enrollmentIn id .connectorActive).bind fun e =>
      (s.shields.lookup e.claims.shieldId).map fun row =>
        if claimable e.claims row then
          { s.returnCert e.claims.shieldId e.csr.key with
            shields := s.shields.insert e.claims.shieldId
              (row.enrolled e.claims e.csr.key s.serials e.hostname e.version now)
            calls := s.calls.erase id }
        else { s with calls := s.calls.erase id }
  | .abandon id => some { s with calls := s.calls.erase id }
  | .renew id req =>
    (s.shields.lookup req.shieldId).bind fun row =>
      (s.connectors.lookup row.connectorId).bind fun c =>
        if s.calls.lookup id = none ∧
            renewAuthorized req row c (decide (req.shieldId ∈ s.tombstones)) then
          some { s with calls := s.calls.insert id (.renew ⟨req, row.tenantId⟩) }
        else none
  | .record id =>
    (s.calls.lookup id).bind fun
      | .enroll _ => none
      | .renew r =>
        (s.shields.lookup r.req.shieldId).bind fun row =>
          (s.connectors.lookup r.req.connectorId).bind fun c =>
            if Free s.calls r.req.shieldId then
              some (if renewEligible r.req r.tenantId row c
                  (decide (r.req.shieldId ∈ s.tombstones)) then
                { s.returnCert r.req.shieldId r.req.key with
                  shields := s.shields.insert r.req.shieldId
                    { row with certSerial := some s.serials }
                  calls := s.calls.erase id }
              else { s with calls := s.calls.erase id })
            else none
  | .health connectorId u =>
    if Free s.calls u.shieldId then
      (updateShieldHealth s.connectors s.shields connectorId u).map fun shields =>
        { s with shields := shields }
    else none
  | .watch now threshold =>
    some { s with
      shields := mapValues s.shields fun _ row => markDisconnected s.workspaces now threshold row }
  | .revoke tenantId sh =>
    (s.shields.lookup sh).bind fun row =>
      if revocable tenantId row ∧ Free s.calls sh then
        some { s with
          shields := s.shields.insert sh { row with status := .revoked }
          tombstones := insert sh s.tombstones }
      else none

/-! ### The life of a shield -/

/-- A step keeps to the life of a shield. -/
structure Lifecycle (s : State) (a : Action) (s' : State) : Prop where
  /-- a row leaves `pending` by a committed enrollment of the shield -/
  leaves : ∀ sh row row', s.shields.lookup sh = some row → s'.shields.lookup sh = some row' →
    row.status = .pending → row'.status ≠ .pending →
    ∃ id now e, a = .activate id now ∧ s.calls.lookup id = some (.enroll e) ∧
      e.claims.shieldId = sh
  stays : ∀ sh row, s.shields.lookup sh = some row → row.status ≠ .pending →
    ∃ row', s'.shields.lookup sh = some row' ∧ row'.status ≠ .pending
  tombstone : ∀ sh row', s'.shields.lookup sh = some row' →
    (row'.status = .revoked ↔ sh ∈ s'.tombstones)
  sameKey : ∀ c ∈ s'.certificates, ∀ c' ∈ s'.certificates, c.shieldId = c'.shieldId → c.key = c'.key
  /-- a certificate is returned only while neither the shield nor its connector is revoked -/
  eligible : ∀ cert, s'.certificates = cert :: s.certificates →
    ∃ row c, s.shields.lookup cert.shieldId = some row ∧ row.status ≠ .revoked ∧
      cert.shieldId ∉ s.tombstones ∧ s.connectors.lookup row.connectorId = some c ∧
      c.revoked = false

/-- The row and the status of a report that is applied. -/
def Action.reported (s : State) : Action → Option (ShieldRow × ShieldStatus)
  | .health connectorId u =>
    (s.shields.lookup u.shieldId).bind fun row =>
      (s.connectors.lookup connectorId).bind fun c =>
        if healthMatches c row then (statusOf u.status).map fun status => (row, status) else none
  | _ => none

/-- The connector that is revoked. -/
def Action.revoking : Action → Option ConnectorId
  | .connector id .revoke => some id
  | _ => none

/-- An enrollment has found the connector active, and has not committed yet. -/
def Call.reliesOn (id : ConnectorId) : Call → Bool
  | .enroll e => e.phase == .connectorActive && e.claims.connectorId == id
  | .renew _ => false

/-- A report that is applied says `pending` of a pending shield and of no other, and `revoked` of
none; a connector is not revoked between an enrollment's look at it and its commit. -/
def Sound (s : State) (a : Action) : Prop :=
  (∀ p ∈ a.reported s, p.2 ≠ .revoked ∧ (p.2 = .pending ↔ p.1.status = .pending)) ∧
    ∀ id ∈ a.revoking, All s.calls fun c => c.reliesOn id = false

instance (s : State) (a : Action) : Decidable (Sound s a) := inferInstanceAs (Decidable (_ ∧ _))

/-! ### The tables -/

section Tables

variable {shields shields' : Map ShieldId ShieldRow} {tombstones : Finset ShieldId}
  {certificates : List Certificate} {sh : ShieldId} {row row' : ShieldRow}

/-- Tombstones and certificates are as the rows say. -/
structure TablesOk (shields : Map ShieldId ShieldRow) (tombstones : Finset ShieldId)
    (certificates : List Certificate) : Prop where
  tombstone : ∀ sh row, shields.lookup sh = some row →
    (row.status = .revoked ↔ sh ∈ tombstones)
  unpinned : ∀ sh row, shields.lookup sh = some row → row.status = .pending →
    row.publicKeyFingerprint = none
  key : ∀ c ∈ certificates, ∃ row, shields.lookup c.shieldId = some row ∧
    row.status ≠ .pending ∧ row.publicKeyFingerprint = some c.key

/-- The row has kept its place in life, and its key. -/
structure Same (row row' : ShieldRow) : Prop where
  pending : row'.status = .pending ↔ row.status = .pending
  revoked : row'.status = .revoked ↔ row.status = .revoked
  key : row'.publicKeyFingerprint = row.publicKeyFingerprint

/-- Every row has kept its place in life, and new ones are pending. -/
structure Steady (tombstones : Finset ShieldId) (shields shields' : Map ShieldId ShieldRow) :
    Prop where
  old : ∀ sh row, shields.lookup sh = some row →
    ∃ row', shields'.lookup sh = some row' ∧ Same row row'
  new : ∀ sh row', shields'.lookup sh = some row' → shields.lookup sh = none →
    row'.status = .pending ∧ row'.publicKeyFingerprint = none ∧ sh ∉ tombstones

lemma Steady.refl : Steady tombstones shields shields where
  old := fun _ row h => ⟨row, h, Iff.rfl, Iff.rfl, rfl⟩
  new := fun _ _ h hn => by rw [hn] at h; cases h

lemma steady_insert (h : shields.lookup sh = some row) (hs : Same row row') :
    Steady tombstones shields (shields.insert sh row') := by
  refine ⟨fun k r hr => ?_, fun k r hr hn => ?_⟩
  · by_cases hk : k = sh
    · subst hk
      cases h.symm.trans hr
      exact ⟨row', lookup_insert _, hs⟩
    · exact ⟨r, by rwa [lookup_insert_ne hk], Iff.rfl, Iff.rfl, rfl⟩
  · rcases lookup_insert_eq_some.1 hr with ⟨rfl, -⟩ | ⟨-, hold⟩
    · rw [h] at hn
      cases hn
    · rw [hn] at hold
      cases hold

lemma steady_mapValues {f : ShieldRow → ShieldRow} (h : ∀ row, Same row (f row)) :
    Steady tombstones shields (mapValues shields fun _ row => f row) := by
  refine ⟨fun k r hr => ⟨f r, by rw [lookup_mapValues, hr]; rfl, h r⟩, fun k r hr hn => ?_⟩
  rw [lookup_mapValues, hn] at hr
  cases hr

section

variable (h : TablesOk shields tombstones certificates)
include h

lemma TablesOk.steady (hs : Steady tombstones shields shields') :
    TablesOk shields' tombstones certificates := by
  have hrow : ∀ k r, shields'.lookup k = some r → (r.status = .revoked ↔ k ∈ tombstones) ∧
      (r.status = .pending → r.publicKeyFingerprint = none) := by
    intro k r hr
    cases hold : shields.lookup k with
    | none =>
      obtain ⟨hp, hk, ht⟩ := hs.new k r hr hold
      simp [hp, hk, ht]
    | some r0 =>
      obtain ⟨r', hr', hsm⟩ := hs.old k r0 hold
      cases hr.symm.trans hr'
      exact ⟨hsm.revoked.trans (h.tombstone k r0 hold), fun hp =>
        hsm.key.trans (h.unpinned k r0 hold (hsm.pending.1 hp))⟩
  refine ⟨fun k r hr => (hrow k r hr).1, fun k r hr => (hrow k r hr).2, fun c hc => ?_⟩
  · obtain ⟨r, hr, hne, hk⟩ := h.key c hc
    obtain ⟨r', hr', hsm⟩ := hs.old _ r hr
    exact ⟨r', hr', mt hsm.pending.1 hne, hsm.key.trans hk⟩

lemma TablesOk.sameKey :
    ∀ c ∈ certificates, ∀ c' ∈ certificates, c.shieldId = c'.shieldId → c.key = c'.key := by
  intro c hc c' hc' heq
  obtain ⟨r, hr, -, hk⟩ := h.key c hc
  obtain ⟨r', hr', -, hk'⟩ := h.key c' hc'
  rw [heq, hr'] at hr
  cases hr
  exact some.inj (hk.symm.trans hk')

lemma TablesOk.cons {c : Certificate} (hr : shields.lookup c.shieldId = some row)
    (hne : row.status ≠ .pending) (hk : row.publicKeyFingerprint = some c.key) :
    TablesOk shields tombstones (c :: certificates) :=
  ⟨h.tombstone, h.unpinned, List.forall_mem_cons.2 ⟨⟨row, hr, hne, hk⟩, h.key⟩⟩

lemma TablesOk.enroll (hrow : shields.lookup sh = some row) (hpn : row.status = .pending)
    (ha : row'.status = .active) : TablesOk (shields.insert sh row') tombstones certificates := by
  refine ⟨forall_lookup_insert h.tombstone ?_, forall_lookup_insert h.unpinned fun hp => ?_,
    fun c hc => ?_⟩
  · rw [← h.tombstone sh row hrow]
    simp [hpn, ha]
  · rw [ha] at hp
    cases hp
  · obtain ⟨r, hr, hnp, hk⟩ := h.key c hc
    refine ⟨r, lookup_insert_eq_some.2 (.inr ⟨?_, hr⟩), hnp, hk⟩
    rintro rfl
    cases hrow.symm.trans hr
    exact hnp hpn

lemma TablesOk.revoke (hrow : shields.lookup sh = some row) :
    TablesOk (shields.insert sh { row with status := .revoked }) (insert sh tombstones)
      certificates := by
  refine ⟨fun k r hr => ?_, forall_lookup_insert h.unpinned (by simp), fun c hc => ?_⟩
  · rcases lookup_insert_eq_some.1 hr with ⟨rfl, rfl⟩ | ⟨hk, hold⟩
    · simp
    · rw [Finset.mem_insert, or_iff_right hk]
      exact h.tombstone k r hold
  · exact exists_lookup_insert hrow (fun ⟨_, hkey⟩ => ⟨by simp, hkey⟩) (h.key c hc)

end

end Tables

/-! ### The calls -/

section Calls

variable {shields shields' : Map ShieldId ShieldRow}
  {connectors connectors' : Map ConnectorId Connector} {calls : Map CallId Call} {id : CallId}
  {call : Call}

structure CallsOk (shields : Map ShieldId ShieldRow) (connectors : Map ConnectorId Connector)
    (calls : Map CallId Call) : Prop where
  locks : Locks calls shields
  /-- the connector that an enrollment has found active is not revoked -/
  relied : ∀ id e, calls.lookup id = some (.enroll e) → e.phase = .connectorActive →
    ∃ c, connectors.lookup e.claims.connectorId = some c ∧ c.revoked = false

variable (h : CallsOk shields connectors calls)
include h

lemma CallsOk.erase (id : CallId) : CallsOk shields connectors (calls.erase id) :=
  ⟨h.locks.endCall, fun i e hi => h.relied i e (lookup_erase_eq_some.1 hi).1⟩

lemma CallsOk.insert (hl : Locks (calls.insert id call) shields)
    (hr : ∀ e, call = .enroll e → e.phase = .connectorActive →
      ∃ c, connectors.lookup e.claims.connectorId = some c ∧ c.revoked = false) :
    CallsOk shields connectors (calls.insert id call) := by
  refine ⟨hl, fun i e hi => ?_⟩
  rcases lookup_insert_eq_some.1 hi with ⟨rfl, heq⟩ | ⟨-, hi⟩
  · exact hr e heq.symm
  · exact h.relied i e hi

lemma CallsOk.insertRow {sh : ShieldId} (hf : Free calls sh) (row : ShieldRow) :
    CallsOk (shields.insert sh row) connectors calls := ⟨h.locks.insert fun _ _ => hf, h.relied⟩

lemma CallsOk.keepConnectors (hk : ∀ id c, connectors.lookup id = some c → c.revoked = false →
      All calls (fun call => call.reliesOn id = false) ∨
        ∃ c', connectors'.lookup id = some c' ∧ c'.revoked = false) :
    CallsOk shields connectors' calls := by
  refine ⟨h.locks, fun i e hi hp => ?_⟩
  obtain ⟨conn, hcn, hl⟩ := h.relied i e hi hp
  rcases hk _ conn hcn hl with hn | hs
  · have hr := hn i _ hi
    simp [Call.reliesOn, hp] at hr
  · exact hs

end Calls

/-! ### Steps -/

/-- `revoked_at` is set together with the status. -/
def ConnectorsOk (connectors : Map ConnectorId Connector) : Prop :=
  All connectors fun c => c.row.revokedAt = true → c.row.status = .revoked

structure Inv (s : State) : Prop where
  tables : TablesOk s.shields s.tombstones s.certificates
  calls : CallsOk s.shields s.connectors s.calls
  connectors : ConnectorsOk s.connectors

variable {p : Phase} {e : Enrollment} {c : Connector}

lemma inv_start : Inv start where
  tables := ⟨by rintro _ _ ⟨⟩, by rintro _ _ ⟨⟩, by rintro _ ⟨⟩⟩
  calls := ⟨.empty, by rintro _ _ ⟨⟩⟩
  connectors := .empty

structure Kept (s : State) (a : Action) (s' : State) : Prop where
  inv : Inv s'
  life : Lifecycle s a s'

lemma lifecycle_of_steady {s s' : State} {a : Action}
    (ht : TablesOk s'.shields s'.tombstones s'.certificates)
    (hs : Steady s.tombstones s.shields s'.shields)
    (hc : ∀ cert, s'.certificates = cert :: s.certificates →
      ∃ row c, s.shields.lookup cert.shieldId = some row ∧ row.status ≠ .revoked ∧
        cert.shieldId ∉ s.tombstones ∧ s.connectors.lookup row.connectorId = some c ∧
        c.revoked = false) : Lifecycle s a s' where
  leaves := fun sh row row' hrow hr' hp hne => by
    obtain ⟨r, hr, hsm⟩ := hs.old sh row hrow
    cases hr.symm.trans hr'
    exact absurd (hsm.pending.2 hp) hne
  stays := fun sh row hrow hne => by
    obtain ⟨r, hr, hsm⟩ := hs.old sh row hrow
    exact ⟨r, hr, mt hsm.pending.1 hne⟩
  tombstone := ht.tombstone
  sameKey := ht.sameKey
  eligible := hc

section Steps

variable {s s' : State} {a : Action} (hinv : Inv s)
include hinv

lemma kept_of_steady (hcr : s'.certificates = s.certificates)
    (htm : s'.tombstones = s.tombstones) (hs : Steady s.tombstones s.shields s'.shields)
    (hc : CallsOk s'.shields s'.connectors s'.calls) (hcn : ConnectorsOk s'.connectors) :
    Kept s a s' := by
  have ht : TablesOk s'.shields s'.tombstones s'.certificates := by
    rw [hcr, htm]
    exact hinv.tables.steady hs
  refine ⟨⟨ht, hc, hcn⟩, lifecycle_of_steady ht hs fun cert h => ?_⟩
  rw [hcr] at h
  simp at h

lemma kept_calls {calls : Map CallId Call} (hc : CallsOk s.shields s.connectors calls) :
    Kept s a { s with calls := calls } := kept_of_steady hinv rfl rfl .refl hc hinv.connectors

lemma kept_advance {id : CallId} {t : Tables Call} (ha : Advances s.toTables id p t) :
    Kept s a { s with toTables := t } := by
  have hl := ha.locks hinv.calls.locks
  cases ha with
  | fail => exact kept_calls hinv (hinv.calls.erase id)
  | claim | loadWorkspace => exact kept_calls hinv (hinv.calls.insert hl (by rintro _ ⟨⟩ ⟨⟩))
  | @loadConnector e c he hp hc hac =>
    refine kept_calls hinv (hinv.calls.insert hl ?_)
    rintro _ ⟨⟩ -
    simp only [enrollConnectorActive, Bool.and_eq_true, beq_iff_eq] at hac
    -- `revoked_at` is not looked at: it is set with the status only
    have hu : c.row.revokedAt ≠ true := fun h => by
      have hr := hinv.connectors _ c hc h
      rw [hac.2] at hr
      cases hr
    exact ⟨c, hc, by simp [Connector.revoked, hac.2, hu]⟩

lemma kept_activate {id : CallId} {row : ShieldRow} {now : ℤ}
    (he : s.enrollmentIn id .connectorActive = some e)
    (hrow : s.shields.lookup e.claims.shieldId = some row) :
    Kept s (.activate id now) { s.returnCert e.claims.shieldId e.csr.key with
      shields := s.shields.insert e.claims.shieldId
        (row.enrolled e.claims e.csr.key s.serials e.hostname e.version now)
      calls := s.calls.erase id } := by
  obtain ⟨hcl, hph⟩ := enrollmentIn_eq_some he
  have hpv : e.phase ≠ .verified := by rw [hph]; decide
  obtain ⟨r, hr, hclm, hagr⟩ := hinv.calls.locks.claimed id e hcl hpv
  obtain rfl := some.inj (hr.symm.trans hrow)
  simp only [claimable, claimAgrees, Bool.and_eq_true, beq_iff_eq] at hclm hagr
  have hpn := hclm.1
  obtain ⟨c, hc, hl⟩ := hinv.calls.relied id e hcl hph
  have ht : TablesOk (s.shields.insert e.claims.shieldId (r.enrolled e.claims e.csr.key
      s.serials e.hostname e.version now)) s.tombstones
      (⟨e.claims.shieldId, e.csr.key, s.serials⟩ :: s.certificates) :=
    (hinv.tables.enroll hrow hpn rfl).cons (lookup_insert _)
      (by simp [ShieldRow.enrolled]) rfl
  refine ⟨⟨ht, (hinv.calls.erase id).insertRow ?_ _, hinv.connectors⟩, ?_, ?_, ht.tombstone,
    ht.sameKey, ?_⟩
  · exact hinv.calls.locks.free_endCall hcl (Locking.holds_enroll hpv)
  · intro sh row row' hold hn hp hne
    rcases lookup_insert_eq_some.1 hn with ⟨rfl, -⟩ | ⟨-, hs⟩
    · exact ⟨id, now, e, rfl, hcl, rfl⟩
    · cases hold.symm.trans hs
      exact absurd hp hne
  · intro sh row hold hne
    refine ⟨row, lookup_insert_eq_some.2 (.inr ⟨?_, hold⟩), hne⟩
    rintro rfl
    cases hr.symm.trans hold
    exact hne hpn
  · intro cert hcr
    obtain rfl := (List.cons.inj hcr).1
    have hrv : r.status ≠ .revoked := by rw [hpn]; decide
    exact ⟨r, c, hr, hrv, mt (hinv.tables.tombstone _ r hr).2 hrv, hagr.1.1.2 ▸ hc, hl⟩

lemma kept_connector {id : ConnectorId} {st : ConnectorRow.Statement} {row : ConnectorRow.Row}
    (hc : s.connectors.lookup id = some c) (hm : st.matchesRow c.row = true)
    (ha : st.apply c.row = some row)
    (hok : st = .revoke → All s.calls fun call => call.reliesOn id = false) :
    Kept s a { s with connectors := s.connectors.insert id { c with row := row } } := by
  have hs := hinv.connectors id c hc
  refine kept_of_steady hinv rfl rfl .refl (hinv.calls.keepConnectors fun k d hd hl => ?_)
    (hinv.connectors.insert ?_)
  · by_cases hk : k = id
    · subst hk
      cases hc.symm.trans hd
      by_cases hr : st = .revoke
      · exact .inl (hok hr)
      · refine .inr ⟨_, lookup_insert _, ?_⟩
        cases st <;> simp_all [ConnectorRow.Statement.apply, Connector.revoked] <;>
          (subst ha; simp_all)
    · exact .inr ⟨d, lookup_insert_eq_some.2 (.inr ⟨hk, hd⟩), hl⟩
  · cases st <;> simp_all [ConnectorRow.Statement.apply, ConnectorRow.Statement.matchesRow] <;>
      (subst ha; simp_all)

lemma kept_step (hok : Sound s a) (hs : step s a = some s') : Kept s a s' := by
  cases a with
  | addConnector id tenantId nid td =>
    obtain ⟨hn, rfl⟩ := ite_some_none_eq_some.1 hs
    refine kept_of_steady hinv rfl rfl .refl (hinv.calls.keepConnectors fun k d hd hl => ?_)
      (hinv.connectors.insert (by simp))
    exact .inr ⟨d, lookup_insert_of_new hn hd, hl⟩
  | connector id st =>
    obtain ⟨c, hc, ⟨-, hm⟩, hs⟩ := bind_ite_eq_some.1 hs
    obtain ⟨row, hap, rfl⟩ := map_eq_some_iff.1 hs
    refine kept_connector hinv hc hm hap fun hrvk => ?_
    subst hrvk
    exact hok.2 id rfl
  | workspace | expire =>
    cases hs
    exact kept_of_steady hinv rfl rfl .refl hinv.calls hinv.connectors
  | create sh tenantId nid cid =>
    obtain ⟨⟨hn, htm⟩, rfl⟩ := ite_some_none_eq_some.1 hs
    refine kept_of_steady hinv rfl rfl
      ⟨fun k r hr => ⟨r, lookup_insert_of_new hn hr, Iff.rfl, Iff.rfl, rfl⟩, fun k r hr hnew => ?_⟩
      ⟨hinv.calls.locks.write fun k r _ hr _ => lookup_insert_of_new hn hr, hinv.calls.relied⟩
      hinv.connectors
    rcases lookup_insert_eq_some.1 hr with ⟨rfl, rfl⟩ | ⟨-, hold⟩
    · exact ⟨rfl, rfl, htm⟩
    · exact absurd hold (by simp [hnew])
  | issueToken cl =>
    obtain ⟨row, hrow, ⟨-, hf, -⟩, ⟨⟩⟩ := bind_ite_eq_some.1 hs
    refine kept_of_steady hinv rfl rfl (steady_insert hrow ?_) (hinv.calls.insertRow hf _)
      hinv.connectors
    exact ⟨Iff.rfl, Iff.rfl, rfl⟩
  | enroll id cl csr host ver =>
    obtain ⟨-, rfl⟩ := ite_some_none_eq_some.1 hs
    refine kept_calls hinv (hinv.calls.insert (hinv.calls.locks.setCall ?_ ?_) ?_)
    · exact by rintro _ ⟨⟩
    · rintro _ ⟨⟩ hp
      exact absurd rfl hp
    · rintro _ ⟨⟩ ⟨⟩
  | claim id =>
    obtain ⟨t, ht, rfl⟩ := map_eq_some_iff.1 hs
    exact kept_advance hinv (advances_of_claim ht)
  | loadWorkspace id =>
    obtain ⟨t, ht, rfl⟩ := map_eq_some_iff.1 hs
    exact kept_advance hinv (advances_of_loadWorkspace ht)
  | loadConnector id =>
    obtain ⟨t, ht, rfl⟩ := map_eq_some_iff.1 hs
    exact kept_advance hinv (advances_of_loadConnector ht)
  | activate id now =>
    obtain ⟨e, he, hs⟩ := bind_eq_some_iff.1 hs
    obtain ⟨row, hrow, rfl⟩ := map_eq_some_iff.1 hs
    split
    · exact kept_activate hinv he hrow
    · exact kept_calls hinv (hinv.calls.erase id)
  | abandon id =>
    cases hs
    exact kept_calls hinv (hinv.calls.erase id)
  | renew id req =>
    obtain ⟨row, hrow, hs⟩ := bind_eq_some_iff.1 hs
    obtain ⟨c, hc, -, ⟨⟩⟩ := bind_ite_eq_some.1 hs
    exact kept_calls hinv (hinv.calls.insert
      (hinv.calls.locks.setCall (by rintro _ ⟨⟩) (by rintro _ ⟨⟩)) (by rintro _ ⟨⟩))
  | record id =>
    obtain ⟨call, hcll, hs⟩ := bind_eq_some_iff.1 hs
    cases call with
    | enroll e => cases hs
    | renew r =>
      obtain ⟨row, hrow, hs⟩ := bind_eq_some_iff.1 hs
      obtain ⟨c, hc, hf, ⟨⟩⟩ := bind_ite_eq_some.1 hs
      split
      next hel =>
        simp only [renewEligible, Bool.and_eq_true, beq_iff_eq, bne_iff_ne, Bool.not_eq_true',
          decide_eq_false_iff_not] at hel
        obtain ⟨⟨⟨⟨⟨⟨⟨-, hl⟩, -⟩, hcn⟩, hrv⟩, -⟩, htm⟩, hk⟩ := hel
        have hst : Steady s.tombstones s.shields
            (s.shields.insert r.req.shieldId { row with certSerial := some s.serials }) :=
          steady_insert hrow ⟨Iff.rfl, Iff.rfl, rfl⟩
        have hpn : row.status ≠ .pending := fun hpn => by
          rw [hinv.tables.unpinned _ row hrow hpn] at hk
          cases hk
        have ht := (hinv.tables.steady hst).cons
          (c := ⟨r.req.shieldId, r.req.key, s.serials⟩) (lookup_insert _) hpn hk
        refine ⟨⟨ht, (hinv.calls.insertRow hf _).erase id, hinv.connectors⟩,
          lifecycle_of_steady ht hst fun cert hcr => ?_⟩
        obtain rfl := (List.cons.inj hcr).1
        exact ⟨row, c, hrow, hrv, htm, hcn ▸ hc, hl⟩
      next => exact kept_calls hinv (hinv.calls.erase id)
  | health cid u =>
    obtain ⟨hf, shields, hshl, rfl⟩ := ite_map_eq_some.1 hs
    obtain ⟨row, c, status, hrow, hc, hstt, hm, rfl⟩ := updateShieldHealth_eq_some.1 hshl
    -- what a sound report writes
    have hrp : (Action.health cid u).reported s = some (row, status) := by
      rw [Action.reported, hrow, bind_some, hc, bind_some, if_pos hm, hstt]
      rfl
    obtain ⟨hrv, hpn⟩ := hok.1 _ hrp
    have hl : row.status ≠ .revoked := fun h => by simp [healthMatches, h] at hm
    refine kept_of_steady hinv rfl rfl (steady_insert hrow ?_) (hinv.calls.insertRow hf _)
      hinv.connectors
    exact ⟨hpn, iff_of_false hrv hl, rfl⟩
  | watch now th =>
    cases hs
    have hsm : ∀ row, Same row (markDisconnected s.workspaces now th row) := by
      intro row
      unfold markDisconnected
      split
      next ha => exact ⟨by simp [ha.1], by simp [ha.1], rfl⟩
      next => exact ⟨Iff.rfl, Iff.rfl, rfl⟩
    refine kept_of_steady hinv rfl rfl (steady_mapValues hsm)
      ⟨hinv.calls.locks.write fun k r _ hr hpn => ?_, hinv.calls.relied⟩ hinv.connectors
    have hkp : markDisconnected s.workspaces now th r = r :=
      if_neg fun h => by rw [hpn] at h; cases h.1
    rw [lookup_mapValues, hr, map_some, hkp]
  | revoke tenantId sh =>
    obtain ⟨row, hrow, ⟨hrvc, hf⟩, ⟨⟩⟩ := bind_ite_eq_some.1 hs
    have hpn : row.status ≠ .pending := fun h => by simp [revocable, h] at hrvc
    have ht := hinv.tables.revoke hrow
    refine ⟨⟨ht, hinv.calls.insertRow hf _, hinv.connectors⟩, ?_, ?_, ht.tombstone,
      ht.sameKey, fun cert hcr => ?_⟩
    · intro k r r' hold hnew hp hne
      rcases lookup_insert_eq_some.1 hnew with ⟨rfl, -⟩ | ⟨-, hsm⟩
      · cases hrow.symm.trans hold
        exact absurd hp hpn
      · cases hold.symm.trans hsm
        exact absurd hp hne
    · exact fun k r hold hne => exists_lookup_insert hrow (fun _ => by simp) ⟨r, hold, hne⟩
    · simp at hcr

end Steps

/-- In every run whose steps are all sound, every step keeps to the life of a shield. -/
theorem lifecycle_of_sound {acts : List Action} (hmeets : Meets step Sound start acts) :
    Always step Lifecycle start acts :=
  always_of_meets (fun _ _ _ hinv hok hs => (kept_step hinv hok hs).inv)
    (fun _ _ _ hinv hok hs => (kept_step hinv hok hs).life) inv_start hmeets

/-! ### Runs -/

def claimsOf (jti : Jti) : EnrollmentClaims :=
  ⟨jti, "s", "n", "w", "w.example", "c", "192.0.2.1:9091", "100.64.0.1/32"⟩

def csrOf (key : Key) : Csr := ⟨key, ["spiffe://w.example/shield/s"]⟩

def prepared : List Action :=
  [.workspace "w" true, .addConnector "c" "w" "n" "w.example", .connector "c" .enroll,
    .create "s" "w" "n" "c"]

/-- A token is issued, and an enrollment with the key comes as far as its commit. -/
def enrolls (id : CallId) (jti : Jti) (key : Key) : List Action :=
  [.issueToken (claimsOf jti), .enroll id (claimsOf jti) (csrOf key) "h" "1", .claim id,
    .loadWorkspace id, .loadConnector id]

def report (status : String) : Action := .health "c" ⟨"s", status, "1", 100⟩

def renewal (key : Key) : Action := .renew 7 ⟨"connector", "c", "w.example", "s", key⟩

/-- An enrollment, reports, a renewal and a revocation, after which a renewal gets nothing. -/
def wholeLife : List Action :=
  prepared ++ enrolls 0 "j" "k" ++
    [Action.activate 0 50, report "active", renewal "k", .watch 1000 60, .record 7, renewal "k",
      .revoke "w" "s", .record 7, .connector "c" .revoke]

theorem lifecycle_wholeLife :
    Meets step Sound start wholeLife ∧ Always step Lifecycle start wholeLife ∧
      (exec step start wholeLife).map (fun s => (s.certificates, s.tombstones)) =
        some ([⟨"s", "k", 1⟩, ⟨"s", "k", 0⟩], {"s"}) := by
  have hm : Meets step Sound start wholeLife := by decide +kernel
  exact ⟨hm, lifecycle_of_sound hm, by decide +kernel⟩

/-- A report says that an enrolled shield is pending; it is given a token, and enrolls again. -/
def rekeying : List Action :=
  prepared ++ enrolls 0 "j" "k" ++ [Action.activate 0 50, report "pending"] ++
    enrolls 1 "j2" "other"

def enrolled : List Action := prepared ++ enrolls 0 "j" "k" ++ [Action.activate 0 50]

/-- The connector is revoked before an enrollment commits. -/
def revokedMeanwhile : List Action :=
  prepared ++ enrolls 0 "j" "k" ++ [Action.connector "c" .revoke]

/-- A report makes an enrolled shield pending again, so that it enrolls with another key; another
makes it revoked without a tombstone; and an enrollment commits after its connector was revoked. -/
theorem lifecycle_broken :
    (∃ u u', exec step start rekeying = some u ∧ step u (.activate 1 60) = some u' ∧
      u'.certificates = [⟨"s", "other", 1⟩, ⟨"s", "k", 0⟩] ∧ ¬ Lifecycle u (.activate 1 60) u') ∧
    (∃ u u' row, exec step start enrolled = some u ∧ step u (report "revoked") = some u' ∧
      u'.shields.lookup "s" = some row ∧ row.status = .revoked ∧ "s" ∉ u'.tombstones ∧
      ¬ Lifecycle u (report "revoked") u') ∧
    ∃ u u', exec step start revokedMeanwhile = some u ∧ step u (.activate 0 50) = some u' ∧
      (u.connectors.lookup "c").any Connector.revoked = true ∧
      u'.certificates = ⟨"s", "k", 0⟩ :: u.certificates ∧ ¬ Lifecycle u (.activate 0 50) u' := by
  refine ⟨?_, ?_, ?_⟩
  · obtain ⟨u, hu, u', hu', hcr⟩ : ∃ u, exec step start rekeying = some u ∧
        ∃ u', step u (.activate 1 60) = some u' ∧
          u'.certificates = [⟨"s", "other", 1⟩, ⟨"s", "k", 0⟩] := by decide +kernel
    refine ⟨u, u', hu, hu', hcr, fun hl => ?_⟩
    have hk := hl.sameKey ⟨"s", "other", 1⟩ (by simp [hcr]) ⟨"s", "k", 0⟩ (by simp [hcr]) rfl
    revert hk
    decide
  · obtain ⟨u, hu, u', hu', row, hrow, hr, ht⟩ : ∃ u, exec step start enrolled = some u ∧
        ∃ u', step u (report "revoked") = some u' ∧ ∃ row, u'.shields.lookup "s" = some row ∧
          row.status = .revoked ∧ "s" ∉ u'.tombstones := by decide +kernel
    exact ⟨u, u', row, hu, hu', hrow, hr, ht, fun hl =>
      ht ((hl.tombstone "s" row hrow).1 hr)⟩
  · obtain ⟨u, hu, u', hu', row, hrow, hcn, hr, hcr⟩ :
        ∃ u, exec step start revokedMeanwhile = some u ∧ ∃ u', step u (.activate 0 50) = some u' ∧
          ∃ row, u.shields.lookup "s" = some row ∧ row.connectorId = "c" ∧
            (u.connectors.lookup "c").any Connector.revoked = true ∧
            u'.certificates = ⟨"s", "k", 0⟩ :: u.certificates := by
      decide +kernel
    refine ⟨u, u', hu, hu', hr, hcr, fun hl => ?_⟩
    obtain ⟨row', c, hr', -, -, hc, hlv⟩ := hl.eligible _ hcr
    cases hrow.symm.trans hr'
    rw [hcn] at hc
    rw [hc, any_some, hlv] at hr
    cases hr

end Zecurity.ShieldLifecycle
