import Zecurity.ConnectorRow
import Zecurity.FiniteMap
import Zecurity.Runs

/-!
The history of the certificates of connectors and client devices, and the workspace's revocation
list (`migrations/039_certificate_history.sql`; `GenerateClientCRL` in
`controller/internal/pki/workspace.go`; the statements on `connectors` and `client_devices` in
`controller/internal/connector`, `controller/internal/client` and `controller/graph/resolvers`).

A trigger on each of the two tables records every certificate that a row comes to name, and marks
all certificates of a row that is revoked. The list is read from what was recorded, devices first.
A statement is one step with its trigger. An issuance signs, records and responds, and may end
anywhere. Serials and the identifiers of rows are never drawn twice. A row may be deleted at any
time; the workspace itself stays.
-/

namespace Zecurity.CertificateHistory

open AList FiniteMap List Option Runs
open ConnectorRow (Call)

abbrev Serial := ℕ
abbrev TenantId := String
abbrev CrlId := ℕ

inductive Kind
  | device
  | connector
  deriving DecidableEq

abbrev Owner := Kind × String

inductive Status
  | pending
  | active
  | disconnected
  | revoked
  | reEnrollRequired
  | renewPending
  deriving DecidableEq

structure Row where
  tenantId : TenantId
  status : Status
  certSerial : Option Serial
  certNotAfter : Option Int
  revokedAt : Option Int

/-- A row of `client_device_certificates` or of `connector_certificates`. -/
structure Certificate where
  tenantId : TenantId
  ownerId : String
  /-- `none` is `infinity` -/
  notAfter : Option Int
  revokedAt : Option Int

abbrev History := Map (Kind × Serial) Certificate

/-! ### The triggers -/

/-- A device is revoked by `revoked_at`, a connector also by its status. -/
def Kind.isRevoked (k : Kind) (row : Row) : Bool :=
  match k with
  | .device => row.revokedAt.isSome
  | .connector => row.status = .revoked ∨ row.revokedAt.isSome

/-- A certificate that the row did not name before is recorded. `none`: the serial is there. -/
def record (k : Kind) (now : Int) (id : String) (old : Option Row) (new : Row) (h : History) :
    Option History :=
  match new.certSerial with
  | none => some h
  | some serial =>
    if old.bind Row.certSerial = some serial then some h
    else if (h.lookup (k, serial)).isSome then none
    else
      some (h.insert (k, serial) {
        tenantId := new.tenantId
        ownerId := id
        notAfter := new.certNotAfter
        revokedAt := if k.isRevoked new then some (new.revokedAt.getD now) else none })

/-- The owner's certificates, marked where they are not. -/
def mark (owner : Owner) (revokedAt : Int) (h : History) : History :=
  mapValues h fun key c =>
    if key.1 = owner.1 ∧ c.ownerId = owner.2 ∧ c.revokedAt = none then
      { c with revokedAt := some revokedAt }
    else c

/-- `client_devices_certificate_history` and `connectors_certificate_history`, which differ in
what counts as revoked. -/
def certificateHistory (k : Kind) (now : Int) (id : String) (old : Option Row) (new : Row)
    (h : History) : Option History :=
  (record k now id old new h).map fun h =>
    if k.isRevoked new ∧ old.any k.isRevoked = false then
      mark (k, id) (new.revokedAt.getD now) h
    else h

/-! ### The statements -/

inductive Statement
  /-- `updateClientDeviceCert`; the last step of a connector's enrollment -/
  | enroll (serial : Serial) (notAfter : Int)
  /-- `updateClientDeviceCertOnRenewal`; `RenewCert` of a connector -/
  | renew (serial : Serial) (notAfter : Int)
  /-- `RevokeDevice`, `revokeClientDevice`, `revokeUserDevices`; `RevokeConnector` -/
  | revoke
  /-- `activateStream`, `handleConnectorHealth` -/
  | activate
  /-- `retireStream`, `markDisconnected`, and `Goodbye`, which asks for more -/
  | disconnect
  /-- `markUserDevicesReEnrollRequired` -/
  | reEnroll

/-- The `WHERE`, as far as it is about the row. -/
def Statement.matchesRow (k : Kind) (row : Row) (st : Statement) : Bool :=
  match st, k with
  | .enroll _ _, .device => true
  | .enroll _ _, .connector => row.status = .pending
  | .renew _ _, .device => row.revokedAt = none ∧ row.status ≠ .reEnrollRequired
  | .renew _ _, .connector => row.status ≠ .revoked ∧ row.revokedAt = none
  | .revoke, .device => row.revokedAt = none
  | .revoke, .connector =>
    (row.status = .active ∨ row.status = .disconnected) ∧ row.revokedAt = none
  | .activate, .connector => row.status ≠ .revoked ∧ row.revokedAt = none
  | .disconnect, .connector => row.status = .active
  | .reEnroll, .device => row.status ≠ .reEnrollRequired
  | .activate, .device | .disconnect, .device | .reEnroll, .connector => false

def Statement.set (k : Kind) (now : Int) (row : Row) (st : Statement) : Row :=
  match st, k with
  | .enroll serial notAfter, .device | .renew serial notAfter, _ =>
    { row with certSerial := some serial, certNotAfter := some notAfter }
  | .enroll serial notAfter, .connector =>
    { row with status := .active, certSerial := some serial, certNotAfter := some notAfter }
  | .revoke, .device => { row with revokedAt := some now }
  | .revoke, .connector => { row with status := .revoked, revokedAt := some now }
  | .activate, _ => { row with status := .active }
  | .disconnect, _ => { row with status := .disconnected }
  | .reEnroll, _ => { row with status := .reEnrollRequired }

structure Db where
  rows : Map Owner Row
  history : History

/-- A statement with its trigger. `none`: no row, or the trigger failed. A trigger that does not
fire for the statement's columns would change nothing. -/
def Db.update (db : Db) (now : Int) (owner : Owner) (st : Statement) : Option Db :=
  (db.rows.lookup owner).bind fun row =>
    if st.matchesRow owner.1 row then
      let new := st.set owner.1 now row
      (certificateHistory owner.1 now owner.2 (some row) new db.history).map fun h =>
        ⟨db.rows.insert owner new, h⟩
    else none

def newRow (k : Kind) (tenantId : TenantId) : Row where
  tenantId := tenantId
  status :=
    match k with
    | .device => .active
    | .connector => .pending
  certSerial := none
  certNotAfter := none
  revokedAt := none

/-! ### The list -/

/-- `SELECT serial, revoked_at … WHERE tenant_id = $1 AND revoked_at IS NOT NULL AND
not_after > NOW()`. -/
def revokedEntries (h : History) (k : Kind) (tenantId : TenantId) (now : Int) :
    List (Serial × Int) :=
  h.entries.filterMap fun e =>
    if e.1.1 = k ∧ e.2.tenantId = tenantId ∧ e.2.notAfter.all (now < ·) then
      e.2.revokedAt.map fun revokedAt => (e.1.2, revokedAt)
    else none

/-! ### The system -/

/-- A certificate that is signed and not yet returned. -/
structure Issue where
  owner : Owner
  renewal : Bool
  notAfter : Int
  recorded : Option TenantId

def Issue.statement (i : Issue) (serial : Serial) : Statement :=
  if i.renewal then .renew serial i.notAfter else .enroll serial i.notAfter

/-- A certificate that was returned. -/
structure Issued where
  serial : Serial
  owner : Owner
  tenantId : TenantId
  notAfter : Int

/-- A list of which the devices are read; what was issued and revoked when it was begun. -/
structure Crl where
  tenantId : TenantId
  devices : List (Serial × Int)
  issued : List Issued
  revoked : List Owner

structure State where
  db : Db
  now : Int
  calls : Map Serial Issue
  crls : Map CrlId Crl
  owners : List Owner
  signed : Map Serial Owner
  issued : List Issued
  revoked : List Owner

inductive Action
  | tick (now : Int)
  | insert (owner : Owner) (tenantId : TenantId)
  | delete (owner : Owner)
  | sign (serial : Serial) (owner : Owner) (renewal : Bool) (notAfter : Int)
  /-- the statement of an issuance; `others` is the rest of its `WHERE` -/
  | record (serial : Serial) (others : Bool) (call : Call)
  | respond (serial : Serial)
  | abandon (serial : Serial)
  | revoke (owner : Owner)
  | status (owner : Owner) (st : Statement)
  | queryDevices (crl : CrlId) (tenantId : TenantId)
  | queryConnectors (crl : CrlId)

/-- The statements that issue and revoke nothing. -/
def Statement.isStatus : Statement → Bool
  | .activate | .disconnect | .reEnroll => true
  | .enroll _ _ | .renew _ _ | .revoke => false

/-- The state after the statement of an issuance, and the tenant of the row that it changed. -/
def State.recordCert (s : State) (serial : Serial) (i : Issue) (others : Bool) :
    Option (State × TenantId) :=
  if others then
    (s.db.rows.lookup i.owner).bind fun row =>
      (s.db.update s.now i.owner (i.statement serial)).map fun db =>
        ({ s with db := db }, row.tenantId)
  else none

def step (s : State) : Action → Option State
  | .tick now => if s.now ≤ now then some { s with now := now } else none
  | .insert owner tenantId =>
    if owner ∈ s.owners then none
    else
      some { s with
        db := { s.db with rows := s.db.rows.insert owner (newRow owner.1 tenantId) }
        owners := owner :: s.owners }
  | .delete owner => some { s with db := { s.db with rows := s.db.rows.erase owner } }
  | .sign serial owner renewal notAfter =>
    if (s.signed.lookup serial).isSome then none
    else
      some { s with
        calls := s.calls.insert serial ⟨owner, renewal, notAfter, none⟩
        signed := s.signed.insert serial owner }
  | .record serial others call =>
    match s.calls.lookup serial with
    | some ⟨owner, renewal, notAfter, none⟩ =>
      match s.recordCert serial ⟨owner, renewal, notAfter, none⟩ others, call with
      | some (s', tenantId), .ok =>
        some { s' with
          calls := s'.calls.insert serial ⟨owner, renewal, notAfter, some tenantId⟩ }
      | some (s', _), .failed true => some { s' with calls := s'.calls.erase serial }
      | _, _ => some { s with calls := s.calls.erase serial }
    | _ => none
  | .respond serial =>
    match s.calls.lookup serial with
    | some ⟨owner, _, notAfter, some tenantId⟩ =>
      some { s with
        calls := s.calls.erase serial
        issued := ⟨serial, owner, tenantId, notAfter⟩ :: s.issued }
    | _ => none
  | .abandon serial => some { s with calls := s.calls.erase serial }
  | .revoke owner =>
    (s.db.update s.now owner .revoke).map fun db =>
      { s with db := db, revoked := owner :: s.revoked }
  | .status owner st =>
    if st.isStatus then (s.db.update s.now owner st).map fun db => { s with db := db } else none
  | .queryDevices crl tenantId =>
    if (s.crls.lookup crl).isSome then none
    else
      some { s with
        crls := s.crls.insert crl {
          tenantId := tenantId
          devices := revokedEntries s.db.history .device tenantId s.now
          issued := s.issued
          revoked := s.revoked } }
  | .queryConnectors crl =>
    if (s.crls.lookup crl).isSome then some { s with crls := s.crls.erase crl } else none

def start (now : Int) : State := ⟨⟨∅, ∅⟩, now, ∅, ∅, [], ∅, [], []⟩

/-- `RevokedCertificateEntries`, when the connectors are read. -/
def State.entries (s : State) (crl : Crl) : List (Serial × Int) :=
  crl.devices ++ revokedEntries s.db.history .connector crl.tenantId s.now

/-- What is claimed of a list that is finished, and of the rows. -/
structure ListsRevoked (s : State) (a : Action) : Prop where
  complete : ∀ id crl, a = .queryConnectors id → s.crls.lookup id = some crl →
    ∀ i ∈ crl.issued, i.owner ∈ crl.revoked → i.tenantId = crl.tenantId → s.now < i.notAfter →
      ∃ revokedAt, (i.serial, revokedAt) ∈ s.entries crl
  sound : ∀ id crl, a = .queryConnectors id → s.crls.lookup id = some crl →
    ∀ e ∈ s.entries crl, ∃ owner ∈ s.revoked, s.signed.lookup e.1 = some owner
  terminal : ∀ owner row, s.db.rows.lookup owner = some row →
    (owner ∈ s.revoked ↔ owner.1.isRevoked row = true)

/-! ### What the triggers and the statements do -/

variable {h : History} {k : Kind} {tid : TenantId} {sn : Serial} {s s' : State} {i : Issue}
  {others : Bool} {h' : History} {new : Row} {id : String} {e : Serial × Int}

lemma mem_revokedEntries {now} :
    e ∈ revokedEntries h k tid now ↔ ∃ c, h.lookup (k, e.1) = some c ∧
      c.tenantId = tid ∧ c.notAfter.all (now < ·) = true ∧ c.revokedAt = some e.2 := by
  rcases e with ⟨sn, revokedAt⟩
  simp only [revokedEntries, mem_filterMap, ite_none_right_eq_some, map_eq_some_iff, Prod.mk.injEq]
  constructor
  · rintro ⟨⟨⟨k', sn'⟩, c⟩, hm, ⟨rfl, ht, ha⟩, revokedAt', hr, rfl, rfl⟩
    exact ⟨c, mem_lookup_iff.2 hm, ht, ha, hr⟩
  · rintro ⟨c, hc, ht, ha, hr⟩
    exact ⟨⟨(k, sn), c⟩, mem_lookup_iff.1 hc, ⟨rfl, ht, ha⟩, revokedAt, hr, rfl, rfl⟩

lemma Statement.isRevoked_set {row : Row} {st : Statement} (now : Int) (hst : st ≠ .revoke)
    (h : st.matchesRow k row = true) : k.isRevoked (st.set k now row) = k.isRevoked row := by
  cases st <;> cases k <;> simp_all [Statement.matchesRow, Statement.set, Kind.isRevoked]

lemma Statement.isRevoked_revoke {row} (now : Int) (h : Statement.revoke.matchesRow k row = true) :
    k.isRevoked row = false ∧ k.isRevoked (Statement.revoke.set k now row) = true := by
  cases k <;> simp [Statement.matchesRow, Statement.set, Kind.isRevoked] at h ⊢
  · exact h
  · rcases h with ⟨hs | hs, hat⟩ <;> simp [hs, hat]

lemma Statement.certSerial_of_set_eq_none {row : Row} {st : Statement} {now : Int}
    (h : (st.set k now row).certSerial = none) : row.certSerial = none := by
  cases st <;> cases k <;> simp_all [Statement.set]

lemma record_of_certSerial_eq {now row} (hsm : new.certSerial = row.certSerial) :
    record k now id (some row) new h = some h := by
  unfold record
  rw [hsm]
  split
  · rfl
  · next sn hs => simp [hs]

lemma record_of_certSerial_ne {now row} (hs : new.certSerial = some sn)
    (hne : new.certSerial ≠ row.certSerial) (hr : record k now id (some row) new h = some h') :
    h.lookup (k, sn) = none ∧ h' = h.insert (k, sn) {
      tenantId := new.tenantId
      ownerId := id
      notAfter := new.certNotAfter
      revokedAt := if k.isRevoked new then some (new.revokedAt.getD now) else none } := by
  have hne' : ¬ (some row).bind Row.certSerial = some sn := by
    intro heq
    exact hne (hs.trans heq.symm)
  simp only [record, hs, if_neg hne'] at hr
  split at hr
  · cases hr
  · next hn =>
    exact ⟨by simpa using hn, (some.inj hr).symm⟩

/-- What a statement did to its row and to the history. -/
inductive Effect (db : Db) (now : Int) (owner : Owner) (row : Row) : Statement → Db → Prop
  | again {st : Statement} (hst : st ≠ .revoke)
      (hserial : (st.set owner.1 now row).certSerial = row.certSerial) :
      Effect db now owner row st ⟨db.rows.insert owner (st.set owner.1 now row), db.history⟩
  | issue {st : Statement} (hst : st ≠ .revoke) {serial : Serial}
      (hserial : (st.set owner.1 now row).certSerial = some serial)
      (hnew : db.history.lookup (owner.1, serial) = none) :
      Effect db now owner row st ⟨db.rows.insert owner (st.set owner.1 now row),
        db.history.insert (owner.1, serial) {
          tenantId := (st.set owner.1 now row).tenantId
          ownerId := owner.2
          notAfter := (st.set owner.1 now row).certNotAfter
          revokedAt := if owner.1.isRevoked row then
            some ((st.set owner.1 now row).revokedAt.getD now) else none }⟩
  | revoke : Effect db now owner row .revoke
      ⟨db.rows.insert owner (Statement.revoke.set owner.1 now row),
        mark owner ((Statement.revoke.set owner.1 now row).revokedAt.getD now) db.history⟩

lemma update_cases {db db' : Db} {now : Int} {owner : Owner} {st : Statement}
    (h : db.update now owner st = some db') :
    ∃ row, db.rows.lookup owner = some row ∧ st.matchesRow owner.1 row = true ∧
      Effect db now owner row st db' := by
  obtain ⟨row, hrow, hm, h⟩ := bind_ite_eq_some.1 h
  obtain ⟨history, hh, rfl⟩ := map_eq_some_iff.1 h
  obtain ⟨recorded, hr, rfl⟩ := map_eq_some_iff.1 hh
  refine ⟨row, hrow, hm, ?_⟩
  by_cases hst : st = .revoke
  · subst hst
    obtain ⟨hw, hnow⟩ := Statement.isRevoked_revoke now hm
    have hsm : (Statement.revoke.set owner.1 now row).certSerial = row.certSerial := by
      rcases owner with ⟨_ | _, id⟩ <;> rfl
    rw [record_of_certSerial_eq hsm] at hr
    cases hr
    rw [if_pos ⟨hnow, by simp [hw]⟩]
    exact .revoke
  · have hrv := Statement.isRevoked_set now hst hm
    rw [if_neg (by simp [hrv])]
    by_cases hsm : (st.set owner.1 now row).certSerial = row.certSerial
    · rw [record_of_certSerial_eq hsm] at hr
      cases hr
      exact .again hst hsm
    · rcases hs : (st.set owner.1 now row).certSerial with _ | sn
      · exact absurd (hs.trans (Statement.certSerial_of_set_eq_none hs).symm) hsm
      · obtain ⟨hn, rfl⟩ := record_of_certSerial_ne hs hsm hr
        rw [hrv]
        exact .issue hst hs hn

/-! ### The invariant -/

/-- The rows and the history agree with what was drawn and revoked. -/
structure Recorded (signed : Map Serial Owner) (revoked : List Owner) (db : Db) : Prop where
  terminal : ∀ owner row, db.rows.lookup owner = some row →
    (owner ∈ revoked ↔ owner.1.isRevoked row = true)
  current : ∀ owner row serial, db.rows.lookup owner = some row → row.certSerial = some serial →
    ∃ c, db.history.lookup (owner.1, serial) = some c
  signed : ∀ k serial c, db.history.lookup (k, serial) = some c →
    signed.lookup serial = some (k, c.ownerId)
  marked : ∀ k serial c, db.history.lookup (k, serial) = some c →
    (c.revokedAt.isSome = true ↔ (k, c.ownerId) ∈ revoked)

/-- A history keeps its certificates, but for their marks. -/
def Extends (h h' : History) : Prop :=
  ∀ key c, h.lookup key = some c →
    ∃ revokedAt, h'.lookup key = some { c with revokedAt := revokedAt }

lemma Extends.refl (h : History) : Extends h h := fun _ c hc => ⟨c.revokedAt, hc⟩

lemma extends_mark (owner : Owner) (revokedAt : Int) (h : History) :
    Extends h (mark owner revokedAt h) := by
  intro key c hc
  rw [mark, lookup_mapValues, hc, map_some]
  split
  · exact ⟨some revokedAt, rfl⟩
  · exact ⟨c.revokedAt, rfl⟩

lemma extends_insert {key : Kind × Serial} (hn : h.lookup key = none) (c : Certificate) :
    Extends h (h.insert key c) := by
  intro key' c' hc'
  have hne : key' ≠ key := by
    rintro rfl
    cases hn.symm.trans hc'
  exact ⟨c'.revokedAt, lookup_insert_eq_some.2 (.inr ⟨hne, hc'⟩)⟩

/-- The certificate is in the history, with its owner, tenant and end. -/
def InHistory (h : History) (i : Issued) : Prop :=
  ∃ revokedAt, h.lookup (i.owner.1, i.serial) =
    some ⟨i.tenantId, i.owner.2, some i.notAfter, revokedAt⟩

lemma InHistory.mono {i} (hi : InHistory h i) (he : Extends h h') : InHistory h' i := by
  obtain ⟨_, hc⟩ := hi
  obtain ⟨revokedAt, hc'⟩ := he _ _ hc
  exact ⟨revokedAt, hc'⟩

section Statements

variable {signed : Map Serial Owner} {revoked : List Owner} {db : Db} {now : Int} {owner : Owner}
  {row : Row} {st : Statement}

lemma Recorded.again (h : Recorded signed revoked db) (hr : db.rows.lookup owner = some row)
    (hm : st.matchesRow owner.1 row = true) (hst : st ≠ .revoke)
    (hs : (st.set owner.1 now row).certSerial = row.certSerial) :
    Recorded signed revoked ⟨db.rows.insert owner (st.set owner.1 now row), db.history⟩ := { h with
    terminal := by
      refine forall_lookup_insert h.terminal ?_
      rw [Statement.isRevoked_set now hst hm]
      exact h.terminal owner row hr
    current := by
      intro owner' row' sn hr' hc
      rcases lookup_insert_eq_some.1 hr' with ⟨rfl, rfl⟩ | ⟨-, hold⟩
      · exact h.current owner' row sn hr (hs.symm.trans hc)
      · exact h.current owner' row' sn hold hc }

lemma Recorded.issue (h : Recorded signed revoked db) (hr : db.rows.lookup owner = some row)
    (hm : st.matchesRow owner.1 row = true) (hst : st ≠ .revoke)
    (hs : (st.set owner.1 now row).certSerial = some sn)
    (hn : db.history.lookup (owner.1, sn) = none)
    (hsg : signed.lookup sn = some owner) (c : Certificate) (ho : c.ownerId = owner.2)
    (hmr : c.revokedAt.isSome = owner.1.isRevoked row) :
    Recorded signed revoked ⟨db.rows.insert owner (st.set owner.1 now row),
      db.history.insert (owner.1, sn) c⟩ where
  terminal := by
    refine forall_lookup_insert h.terminal ?_
    rw [Statement.isRevoked_set now hst hm]
    exact h.terminal owner row hr
  current := by
    intro owner' row' sn' hr' hc
    rcases lookup_insert_eq_some.1 hr' with ⟨rfl, rfl⟩ | ⟨-, hold⟩
    · cases hs.symm.trans hc
      exact ⟨c, lookup_insert db.history⟩
    · obtain ⟨c', hc'⟩ := h.current owner' row' sn' hold hc
      obtain ⟨_, hc''⟩ := extends_insert hn c _ _ hc'
      exact ⟨_, hc''⟩
  signed := by
    intro k sn' c' hc'
    rcases lookup_insert_eq_some.1 hc' with ⟨heq, rfl⟩ | ⟨-, hold⟩
    · obtain ⟨rfl, rfl⟩ := Prod.mk.inj heq
      rw [hsg, ho]
    · exact h.signed k sn' c' hold
  marked := by
    intro k sn' c' hc'
    rcases lookup_insert_eq_some.1 hc' with ⟨heq, rfl⟩ | ⟨-, hold⟩
    · obtain ⟨rfl, rfl⟩ := Prod.mk.inj heq
      rw [hmr, ho]
      exact (h.terminal owner row hr).symm
    · exact h.marked k sn' c' hold

lemma Recorded.revoke (h : Recorded signed revoked db) (hr : db.rows.lookup owner = some row)
    (hmt : Statement.revoke.matchesRow owner.1 row = true) (revokedAt : Int) :
    Recorded signed (owner :: revoked)
      ⟨db.rows.insert owner (Statement.revoke.set owner.1 now row),
        mark owner revokedAt db.history⟩ where
  terminal := by
    intro owner' row' hr'
    rcases lookup_insert_eq_some.1 hr' with ⟨rfl, rfl⟩ | ⟨hne, hold⟩
    · simp [(Statement.isRevoked_revoke now hmt).2]
    · rw [mem_cons, or_iff_right hne]
      exact h.terminal owner' row' hold
  current := by
    intro owner' row' sn hr' hcr
    have hold : ∃ c, db.history.lookup (owner'.1, sn) = some c := by
      rcases lookup_insert_eq_some.1 hr' with ⟨rfl, rfl⟩ | ⟨-, hold⟩
      · refine h.current owner' row sn hr ?_
        rcases owner' with ⟨_ | _, id⟩ <;> exact hcr
      · exact h.current owner' row' sn hold hcr
    obtain ⟨c, hc⟩ := hold
    obtain ⟨_, hc'⟩ := extends_mark owner revokedAt db.history _ _ hc
    exact ⟨_, hc'⟩
  signed := by
    intro k sn c' hc'
    rw [mark, lookup_mapValues, map_eq_some_iff] at hc'
    obtain ⟨c, hc, rfl⟩ := hc'
    have hs := h.signed k sn c hc
    split <;> exact hs
  marked := by
    intro k sn c' hc'
    rw [mark, lookup_mapValues, map_eq_some_iff] at hc'
    obtain ⟨c, hc, rfl⟩ := hc'
    have hm := h.marked k sn c hc
    split
    · next hif =>
      obtain ⟨hk, hid, -⟩ := hif
      exact iff_of_true rfl (mem_cons.2 (.inl (Prod.ext hk hid)))
    · next hif =>
      rw [hm, mem_cons]
      refine ⟨.inr, fun hor => hor.elim (fun heq => ?_) id⟩
      -- a certificate of the owner that is not marked now was marked before
      have hsm : c.revokedAt ≠ none := fun hn =>
        hif ⟨congrArg Prod.fst heq, congrArg Prod.snd heq, hn⟩
      exact hm.1 (isSome_iff_ne_none.2 hsm)

end Statements

/-- What a list that is being made has read, and what it may leave to the connectors. -/
structure CrlInv (s : State) (crl : Crl) : Prop where
  issued : crl.issued ⊆ s.issued
  revoked : crl.revoked ⊆ s.revoked
  complete : ∀ i ∈ crl.issued, i.owner ∈ crl.revoked → i.owner.1 = .device →
    i.tenantId = crl.tenantId → s.now < i.notAfter →
    ∃ revokedAt, (i.serial, revokedAt) ∈ crl.devices
  sound : ∀ e ∈ crl.devices, ∃ owner ∈ s.revoked, s.signed.lookup e.1 = some owner

structure Inv (s : State) : Prop where
  db : Recorded s.signed s.revoked s.db
  drawn : ∀ owner ∈ s.revoked, owner ∈ s.owners
  rows : ∀ owner row, s.db.rows.lookup owner = some row → owner ∈ s.owners
  signed : ∀ serial i, s.calls.lookup serial = some i → s.signed.lookup serial = some i.owner
  unrecorded : ∀ serial i, s.calls.lookup serial = some i → i.recorded = none →
    ∀ k, s.db.history.lookup (k, serial) = none
  recorded : ∀ serial i tenantId, s.calls.lookup serial = some i → i.recorded = some tenantId →
    InHistory s.db.history ⟨serial, i.owner, tenantId, i.notAfter⟩
  issued : ∀ i ∈ s.issued, InHistory s.db.history i
  crls : ∀ id crl, s.crls.lookup id = some crl → CrlInv s crl

lemma inv_start (now : Int) : Inv (start now) where
  db := ⟨nofun, nofun, nofun, nofun⟩
  drawn := nofun
  rows := nofun
  signed := nofun
  unrecorded := nofun
  recorded := nofun
  issued := nofun
  crls := nofun

lemma CrlInv.mono {crl : Crl} (h : CrlInv s crl) (hiss : s.issued ⊆ s'.issued)
    (hr : s.revoked ⊆ s'.revoked) (hn : s.now ≤ s'.now)
    (hsg : ∀ sn owner, s.signed.lookup sn = some owner → s'.signed.lookup sn = some owner) :
    CrlInv s' crl where
  issued := List.Subset.trans h.issued hiss
  revoked := List.Subset.trans h.revoked hr
  complete := fun i hi ho hd ht ha =>
    h.complete i hi ho hd ht (Int.lt_of_le_of_lt hn ha)
  sound := by
    intro e he
    obtain ⟨owner, ho, hs⟩ := h.sound e he
    exact ⟨owner, hr ho, hsg _ _ hs⟩

lemma mem_revokedEntries_of_revoked (h : Recorded s.signed s.revoked s.db) {i}
    (hi : InHistory s.db.history i) (ho : i.owner ∈ s.revoked) (ha : s.now < i.notAfter) :
    ∃ revokedAt, (i.serial, revokedAt) ∈
      revokedEntries s.db.history i.owner.1 i.tenantId s.now := by
  obtain ⟨_, hc⟩ := hi
  obtain ⟨revokedAt, hm⟩ := isSome_iff_exists.1 ((h.marked _ _ _ hc).2 ho)
  exact ⟨revokedAt, mem_revokedEntries.2 ⟨_, hc, rfl, by simpa using ha, hm⟩⟩

lemma revoked_of_mem_revokedEntries (h : Recorded s.signed s.revoked s.db) {now}
    (he : e ∈ revokedEntries s.db.history k tid now) :
    ∃ owner ∈ s.revoked, s.signed.lookup e.1 = some owner := by
  obtain ⟨c, hc, -, -, hm⟩ := mem_revokedEntries.1 he
  exact ⟨(k, c.ownerId), (h.marked _ _ _ hc).1 (by rw [hm]; rfl), h.signed _ _ _ hc⟩

/-! ### One step -/

lemma Inv.withDb (h : Inv s) {db revoked} (hdb : Recorded s.signed revoked db)
    (hr : s.revoked ⊆ revoked) (hd : ∀ owner ∈ revoked, owner ∈ s.owners)
    (hrw : ∀ owner row, db.rows.lookup owner = some row → owner ∈ s.owners)
    (he : Extends s.db.history db.history)
    (hk : ∀ key, s.db.history.lookup key = none → db.history.lookup key = none) :
    Inv { s with db := db, revoked := revoked } where
  db := hdb
  drawn := hd
  rows := hrw
  signed := h.signed
  unrecorded := fun sn i hi hn k => hk _ (h.unrecorded sn i hi hn k)
  recorded := fun sn i tid hi hsm => (h.recorded sn i tid hi hsm).mono he
  issued := fun i hi => (h.issued i hi).mono he
  crls := fun id crl hc => (h.crls id crl hc).mono (List.Subset.refl _) hr
    (Int.le_refl _) fun _ _ hs => hs

lemma Inv.eraseCall (h : Inv s) (sn : Serial) : Inv { s with calls := s.calls.erase sn } :=
  { h with
    signed := forall_lookup_erase h.signed
    unrecorded := forall_lookup_erase h.unrecorded
    recorded := fun sn' i tid hi =>
      h.recorded sn' i tid (lookup_erase_eq_some.1 hi).1
    crls := fun id crl hc => { h.crls id crl hc with } }

lemma Issue.set_statement (i : Issue) (sn : Serial) (now : Int) (row : Row) :
    ((i.statement sn).set i.owner.1 now row).certSerial = some sn ∧
      ((i.statement sn).set i.owner.1 now row).certNotAfter = some i.notAfter ∧
      ((i.statement sn).set i.owner.1 now row).tenantId = row.tenantId := by
  rcases i with ⟨⟨_ | _, id⟩, _ | _, notAfter, recorded⟩ <;> exact ⟨rfl, rfl, rfl⟩

lemma recordCert_calls (h : s.recordCert sn i others = some (s', tid)) : s'.calls = s.calls := by
  obtain ⟨-, h⟩ := ite_none_right_eq_some.1 h
  obtain ⟨row, -, h⟩ := bind_eq_some_iff.1 h
  obtain ⟨db, -, heq⟩ := map_eq_some_iff.1 h
  rw [← (Prod.mk.inj heq).1]

/-- **A certificate is recorded**: the call's serial is new to the history, and is there after
it, for its owner. -/
lemma Inv.record (h : Inv s) (hi : s.calls.lookup sn = some i) (hn : i.recorded = none)
    (hr : s.recordCert sn i others = some (s', tid)) {calls : Map Serial Issue}
    (hcl : ∀ sn' j, calls.lookup sn' = some j → sn' ≠ sn ∧ s.calls.lookup sn' = some j ∨
      sn' = sn ∧ j = { i with recorded := some tid }) :
    Inv { s' with calls := calls } := by
  obtain ⟨-, hr⟩ := ite_none_right_eq_some.1 hr
  obtain ⟨row, hrow, hr⟩ := bind_eq_some_iff.1 hr
  obtain ⟨db, hu, heq⟩ := map_eq_some_iff.1 hr
  obtain ⟨rfl, rfl⟩ := Prod.mk.inj heq
  obtain ⟨row', hr', hm, he⟩ := update_cases hu
  cases hrow.symm.trans hr'
  obtain ⟨hs, ha, ht⟩ := i.set_statement sn s.now row
  have hsg := h.signed sn i hi
  have hnew := h.unrecorded sn i hi hn
  have hst : i.statement sn ≠ .revoke := by
    unfold Issue.statement
    split <;> exact (by simp)
  generalize i.statement sn = st at hm he hs ha ht hst
  cases he with
  | again _ hsam =>
    obtain ⟨c, hc⟩ := h.db.current i.owner row sn hrow (hsam.symm.trans hs)
    cases (hnew i.owner.1).symm.trans hc
  | revoke => exact absurd rfl hst
  | issue _ hs' hn' =>
    cases hs.symm.trans hs'
    rw [ht, ha]
    refine ⟨?_, h.drawn, ?_, ?_, ?_, ?_, ?_, ?_⟩
    · refine h.db.issue hrow hm hst hs hn' hsg _ rfl ?_
      cases i.owner.1.isRevoked row <;> rfl
    · exact forall_lookup_insert h.rows (h.rows i.owner row hrow)
    · intro sn' j hj
      rcases hcl sn' j hj with ⟨-, hold⟩ | ⟨rfl, rfl⟩
      · exact h.signed sn' j hold
      · exact hsg
    · intro sn' j hj hnn' k
      rcases hcl sn' j hj with ⟨hne, hold⟩ | ⟨rfl, rfl⟩
      · rw [lookup_insert_ne fun heq => hne (Prod.mk.inj heq).2]
        exact h.unrecorded sn' j hold hnn' k
      · cases hnn'
    · intro sn' j tid' hj hsm
      rcases hcl sn' j hj with ⟨-, hold⟩ | ⟨rfl, rfl⟩
      · exact (h.recorded sn' j tid' hold hsm).mono (extends_insert hn' _)
      · cases hsm
        exact ⟨_, lookup_insert s.db.history⟩
    · exact fun j hj => (h.issued j hj).mono (extends_insert hn' _)
    · exact fun id crl hcrl => { h.crls id crl hcrl with }

lemma Inv.revoke (h : Inv s) {owner : Owner} {db : Db}
    (hu : s.db.update s.now owner .revoke = some db) :
    Inv { s with db := db, revoked := owner :: s.revoked } := by
  obtain ⟨row, hr, hm, he⟩ := update_cases hu
  cases he with
  | again hst | issue hst => exact absurd rfl hst
  | revoke =>
    refine h.withDb (h.db.revoke hr hm _) (subset_cons_self owner s.revoked) ?_ ?_
      (extends_mark _ _ _) ?_
    · exact forall_mem_cons.2 ⟨h.rows owner row hr, h.drawn⟩
    · exact forall_lookup_insert h.rows (h.rows owner row hr)
    · intro key hk
      rw [mark, lookup_mapValues, hk, map_none]

lemma Statement.certSerial_set_of_isStatus {row : Row} {st : Statement} {now : Int}
    (h : st.isStatus = true) : (st.set k now row).certSerial = row.certSerial := by
  cases st <;> cases k <;> first | rfl | cases h

lemma Inv.status (h : Inv s) {owner : Owner} {st : Statement} {db : Db} (hs : st.isStatus = true)
    (hu : s.db.update s.now owner st = some db) : Inv { s with db := db } := by
  obtain ⟨row, hr, hm, he⟩ := update_cases hu
  have hsm : (st.set owner.1 s.now row).certSerial = row.certSerial :=
    Statement.certSerial_set_of_isStatus hs
  cases he with
  | again hst =>
    exact h.withDb (h.db.again hr hm hst hsm) (List.Subset.refl _) h.drawn
      (forall_lookup_insert h.rows (h.rows owner row hr)) (Extends.refl _) fun _ hk => hk
  | issue hst hsr hn =>
    -- the row names no other certificate than before
    obtain ⟨c, hc⟩ := h.db.current owner row _ hr (hsm.symm.trans hsr)
    cases hn.symm.trans hc
  | revoke => cases hs

lemma Inv.insert (h : Inv s) {owner : Owner} (hn : owner ∉ s.owners) (tid : TenantId) :
    Inv { s with
      db := { s.db with rows := s.db.rows.insert owner (newRow owner.1 tid) }
      owners := owner :: s.owners } := { h with
    db := { h.db with
      terminal := by
        refine forall_lookup_insert h.db.terminal (iff_of_false (fun hm => ?_) ?_)
        · exact hn (h.drawn owner hm)
        · rcases owner with ⟨_ | _, id⟩ <;> exact by rintro ⟨⟩
      current := by
        intro owner' row sn hr hs
        rcases lookup_insert_eq_some.1 hr with ⟨rfl, rfl⟩ | ⟨-, hold⟩
        · cases hs
        · exact h.db.current owner' row sn hold hs }
    drawn := fun owner' ho' => mem_cons_of_mem owner (h.drawn owner' ho')
    rows := forall_lookup_insert
      (fun owner' row hr => mem_cons_of_mem owner (h.rows owner' row hr))
      mem_cons_self
    crls := fun id crl hc => { h.crls id crl hc with } }

lemma Inv.delete (h : Inv s) (owner : Owner) :
    Inv { s with db := { s.db with rows := s.db.rows.erase owner } } := { h with
    db := { h.db with
      terminal := forall_lookup_erase h.db.terminal
      current := fun owner' row sn hr =>
        h.db.current owner' row sn (lookup_erase_eq_some.1 hr).1 }
    rows := forall_lookup_erase h.rows
    crls := fun id crl hc => { h.crls id crl hc with } }

lemma Inv.sign (h : Inv s) (hn : s.signed.lookup sn = none) (owner : Owner) (renewal : Bool)
    (notAfter : Int) :
    Inv { s with
      calls := s.calls.insert sn ⟨owner, renewal, notAfter, none⟩
      signed := s.signed.insert sn owner } := by
  have hk : ∀ sn' owner', s.signed.lookup sn' = some owner' →
      (s.signed.insert sn owner).lookup sn' = some owner' := by
    intro sn' owner' hs'
    have hne : sn' ≠ sn := by
      rintro rfl
      cases hn.symm.trans hs'
    exact lookup_insert_eq_some.2 (.inr ⟨hne, hs'⟩)
  refine ⟨?_, h.drawn, h.rows, ?_, ?_, ?_, h.issued, ?_⟩
  · exact { h.db with signed := fun k sn' c hc => hk _ _ (h.db.signed k sn' c hc) }
  · intro sn' i hi
    rcases lookup_insert_eq_some.1 hi with ⟨rfl, rfl⟩ | ⟨-, hold⟩
    · exact lookup_insert s.signed
    · exact hk _ _ (h.signed sn' i hold)
  · intro sn' i hi hnn k
    rcases lookup_insert_eq_some.1 hi with ⟨rfl, rfl⟩ | ⟨-, hold⟩
    · -- what is in the history was drawn before
      rcases hc : s.db.history.lookup (k, sn') with _ | c
      · rfl
      · cases hn.symm.trans (h.db.signed k sn' c hc)
    · exact h.unrecorded sn' i hold hnn k
  · intro sn' i tid hi hs
    rcases lookup_insert_eq_some.1 hi with ⟨rfl, rfl⟩ | ⟨-, hold⟩
    · cases hs
    · exact h.recorded sn' i tid hold hs
  · exact fun id crl hcrl =>
      (h.crls id crl hcrl).mono (List.Subset.refl _) (List.Subset.refl _) (Int.le_refl _) hk

lemma Inv.respond (h : Inv s) (hi : s.calls.lookup sn = some i) (hsm : i.recorded = some tid) :
    Inv { s with
      calls := s.calls.erase sn
      issued := ⟨sn, i.owner, tid, i.notAfter⟩ :: s.issued } := { h.eraseCall sn with
    issued := forall_mem_cons.2 ⟨h.recorded sn i tid hi hsm, h.issued⟩
    crls := fun id crl hc => (h.crls id crl hc).mono (subset_cons_self _ _)
      (List.Subset.refl _) (Int.le_refl _) fun _ _ hs => hs }

lemma Inv.queryDevices (h : Inv s) (id : CrlId) (tid : TenantId) :
    Inv { s with
      crls := s.crls.insert id {
        tenantId := tid
        devices := revokedEntries s.db.history .device tid s.now
        issued := s.issued
        revoked := s.revoked } } := { h with
    crls := by
      refine forall_lookup_insert (fun id' crl hc => { h.crls id' crl hc with }) ?_
      refine ⟨List.Subset.refl _, List.Subset.refl _, ?_, ?_⟩
      · intro i hi ho hd ht ha
        have hm := mem_revokedEntries_of_revoked h.db (h.issued i hi) ho ha
        rwa [hd, ht] at hm
      · exact fun e he => revoked_of_mem_revokedEntries h.db he }

lemma Inv.next (s : State) (a : Action) (s' : State) (h : Inv s) (hs : step s a = some s') :
    Inv s' := by
  cases a with
  | tick now =>
    obtain ⟨hle, rfl⟩ := ite_some_none_eq_some.1 hs
    exact { h with
      crls := fun id crl hc => (h.crls id crl hc).mono (List.Subset.refl _)
        (List.Subset.refl _) hle fun _ _ hsr => hsr }
  | insert owner tid =>
    obtain ⟨hn, hs⟩ := ite_none_left_eq_some.1 hs
    cases hs
    exact h.insert hn tid
  | delete owner =>
    cases hs
    exact h.delete owner
  | sign sn owner renewal exp =>
    obtain ⟨hn, hs⟩ := ite_none_left_eq_some.1 hs
    cases hs
    exact h.sign (by simpa using hn) owner renewal exp
  | record sn others call =>
    dsimp only [step] at hs
    split at hs
    case h_2 => cases hs
    case h_1 owner renewal exp hi =>
      split at hs
      · next s1 tid hr =>
        cases hs
        refine h.record hi rfl hr fun sn' j hj => ?_
        rw [recordCert_calls hr] at hj
        exact (lookup_insert_eq_some.1 hj).symm
      · next s1 tid hr =>
        cases hs
        refine h.record hi rfl hr fun sn' j hj => .inl ?_
        rw [recordCert_calls hr] at hj
        exact (lookup_erase_eq_some.1 hj).symm
      · cases hs
        exact h.eraseCall sn
  | respond sn =>
    dsimp only [step] at hs
    split at hs <;> cases hs
    next owner _ exp tid hi => exact h.respond hi rfl
  | abandon sn =>
    cases hs
    exact h.eraseCall sn
  | revoke owner =>
    obtain ⟨db, hu, rfl⟩ := map_eq_some_iff.1 hs
    exact h.revoke hu
  | status owner st =>
    obtain ⟨hst, db, hu, rfl⟩ := ite_map_eq_some.1 hs
    exact h.status hst hu
  | queryDevices id tid =>
    obtain ⟨-, hs⟩ := ite_none_left_eq_some.1 hs
    cases hs
    exact h.queryDevices id tid
  | queryConnectors id =>
    obtain ⟨-, rfl⟩ := ite_some_none_eq_some.1 hs
    exact { h with crls := fun id' crl hc => { h.crls id' crl (lookup_erase_eq_some.1 hc).1 with } }

/-- **One list** that is finished lists what it must, and nothing else. -/
lemma Inv.listsRevoked (h : Inv s) (a : Action) : ListsRevoked s a where
  complete := by
    rintro id crl rfl hc i hi ho ht ha
    have hinv := h.crls id crl hc
    rcases hk : i.owner.1 with _ | _
    · obtain ⟨revokedAt, hm⟩ := hinv.complete i hi ho hk ht ha
      exact ⟨revokedAt, mem_append_left _ hm⟩
    · obtain ⟨revokedAt, hm⟩ := mem_revokedEntries_of_revoked h.db
        (h.issued i (hinv.issued hi)) (hinv.revoked ho) ha
      rw [hk, ht] at hm
      exact ⟨revokedAt, mem_append_right _ hm⟩
  sound := by
    rintro id crl rfl hc e he
    rcases mem_append.1 he with he | he
    · exact (h.crls id crl hc).sound e he
    · exact revoked_of_mem_revokedEntries h.db he
  terminal := h.db.terminal

/-- **Revoked certificates stay on the list**, in every run: a list names every certificate that
was returned before it was begun, if its owner was revoked then and it has not ended, and only
certificates of revoked owners. -/
theorem revoked_certificates_listed (now : Int) (acts : List Action) :
    Always step (fun s a _ => ListsRevoked s a) (start now) acts :=
  always_of_inv Inv.next (fun _ a _ h _ => h.listsRevoked a) (inv_start now)

end Zecurity.CertificateHistory
