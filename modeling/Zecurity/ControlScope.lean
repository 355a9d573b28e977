import Zecurity.ControlMessages

/-!
Whose rows the messages of a connector reach (`controller/internal/connector/control_stream.go`,
the loop of `Control`).

A heartbeat joins on the connector's workspace and network, a state report asks for the shield's
connector, an ack goes by the workspace and by the shield that it names, a discovery report by the
shield that it names alone.
-/

namespace Zecurity.ControlScope

open ControlMessages FiniteMap Function Option ResourceStore Runs
open ShieldRows (ConnectorId Connector)
open SignedResourceSets (Change)

/-! ### Runs of the controller -/

/-- The statements of the resource and shield services; heartbeats and acks come as messages. -/
def isService : Change → Bool
  | .updateShieldHealth .. | .reapOnAck .. | .updateOnAck .. => false
  | _ => true

inductive Action
  | network (id : NetworkId) (tenantId : TenantId) (name : String)
  | connector (id : ConnectorId) (tenantId : TenantId) (remoteNetworkId : NetworkId)
      (trustDomain : String)
  | connectorState (id : ConnectorId) (row : ConnectorRow.Row)
  /-- `GenerateShieldToken`: the shield is given a connector of its network -/
  | shield (id : ShieldId) (connectorId : ConnectorId)
  /-- enrollment and the disconnect watcher -/
  | shieldState (id : ShieldId) (status : ShieldStatus)
  | service (c : Change)
  | scanRequest (tenantId : TenantId) (connectorId : ConnectorId) (requestId : String)
  | register (id : ConnectorId)
  | unregister (id : ConnectorId)
  | restart
  | message (id : ConnectorId) (now : ℤ) (m : Message)

def start (rules : List AccessRule) (devices : Map String (String × String)) : Controller where
  db := ⟨∅, fun _ => none, fun _ => none, rules⟩
  connectors := ∅
  beats := ∅
  counters _ := ⟨0, none⟩
  services := ∅
  scanRequests := ∅
  scanResults := ∅
  devices := devices
  logs := []
  drift := ∅
  absent := ∅
  online := ∅
  sent := []
  versions _ := 0

def setShield (t : Controller) (id : ShieldId) (shield : ShieldRow) : Controller :=
  { t with db := { t.db with shields := update t.db.shields id (some shield) } }

def newShield (c : Connector) (connectorId : ConnectorId) : ShieldRow where
  tenantId := c.tenantId
  remoteNetworkId := c.remoteNetworkId
  connectorId := connectorId
  lanIp := none
  status := .pending
  tombstone := false

def step (t : Controller) : Action → Option Controller
  | .network id tenantId name =>
    if t.db.networks id = none then
      some { t with
        db := { t.db with networks := update t.db.networks id (some (tenantId, name)) } }
    else none
  | .connector id tenantId remoteNetworkId trustDomain =>
    if t.connectors.lookup id = none ∧
        (t.db.networks remoteNetworkId).map Prod.fst = some tenantId then
      some { t with
        connectors := t.connectors.insert id
          ⟨tenantId, remoteNetworkId, trustDomain, ⟨.pending, false⟩⟩ }
    else none
  | .connectorState id row =>
    (t.connectors.lookup id).map fun c =>
      { t with connectors := t.connectors.insert id { c with row := row } }
  | .shield id connectorId =>
    if t.db.shields id = none then
      (t.connectors.lookup connectorId).map fun c => setShield t id (newShield c connectorId)
    else none
  | .shieldState id status =>
    (t.db.shields id).map fun shield => setShield t id { shield with status := status }
  | .service c => if isService c then (c.apply t.db).map fun db => { t with db := db } else none
  | .scanRequest tenantId connectorId requestId =>
    if t.scanRequests.lookup requestId = none ∧
        (t.connectors.lookup connectorId).map Connector.tenantId = some tenantId then
      some { t with scanRequests := t.scanRequests.insert requestId (connectorId, tenantId) }
    else none
  | .register id => some { t with online := insert id t.online }
  | .unregister id => some { t with online := t.online.erase id }
  | .restart => some { t with drift := ∅, absent := ∅, online := ∅ }
  | .message id now m =>
    (t.connectors.lookup id).map fun c => handle t ⟨id, c.tenantId⟩ now m

/-! ### The claim and its condition -/

def homeOfConnector (c : Connector) : TenantId × NetworkId := (c.tenantId, c.remoteNetworkId)

/-- The shield is in another workspace or network. -/
def Foreign (c : Connector) (t : Controller) (sh : ShieldId) : Prop :=
  ∃ h ∈ (t.db.shields sh).map homeOf, h ≠ homeOfConnector c

/-- No row of another workspace is inserted, changed or deleted, and nothing of a shield of another
network is changed. -/
structure Confined (c : Connector) (t t' : Controller) : Prop where
  shields : ∀ sh, Foreign c t sh → t'.db.shields sh = t.db.shields sh ∧
    t'.beats.lookup sh = t.beats.lookup sh ∧ t'.counters sh = t.counters sh
  noShield : ∀ sh, t.db.shields sh = none → t'.db.shields sh = none
  resources : ∀ id row, t.db.resources.lookup id = some row →
    (row.tenantId ≠ c.tenantId ∨ BoundTo (Foreign c t) row) →
    t'.db.resources.lookup id = some row
  inserted : ∀ id row', t'.db.resources.lookup id = some row' → row'.tenantId ≠ c.tenantId →
    t.db.resources.lookup id = some row'
  services : ∀ key, Foreign c t key.1 → t'.services.lookup key = t.services.lookup key
  scanResults : ∀ key d, t.connectors.lookup key.connectorId = some d → d.tenantId ≠ c.tenantId →
    t'.scanResults.lookup key = t.scanResults.lookup key
  logs : (t'.logs.filter fun row => row.workspaceId ≠ c.tenantId) =
    t.logs.filter fun row => row.workspaceId ≠ c.tenantId
  versions : ∀ w, w ≠ c.tenantId → t'.versions w = t.versions w
  rest : t'.db.networks = t.db.networks ∧ t'.db.rules = t.db.rules ∧
    t'.connectors = t.connectors ∧ t'.scanRequests = t.scanRequests ∧ t'.devices = t.devices

def OwnWorkspace (t : Controller) (a : Action) (t' : Controller) : Prop :=
  ∀ id now m, a = .message id now m → ∀ c, t.connectors.lookup id = some c → Confined c t t'

/-- Discovery reports name shields of the connector's network; acks name no shield of another
network of the workspace. -/
def KeepsTo (c : Connector) (t : Controller) : Message → Prop
  | .shieldDiscovery reports => ∀ r ∈ reports, r.report.isSome →
      ∀ h ∈ (t.db.shields r.shieldId).map homeOf, h = homeOfConnector c
  | .resourceAcks acks => ∀ a ∈ acks,
      ∀ h ∈ (t.db.shields a.shieldId).map homeOf, h.1 = c.tenantId → h = homeOfConnector c
  | _ => True

/-- The connector of a message, and the message. -/
def Action.arrives (t : Controller) : Action → Option (Connector × Message)
  | .message id _ m => (t.connectors.lookup id).map fun c => (c, m)
  | _ => none

def NamesOwn (t : Controller) (a : Action) : Prop := ∀ p ∈ a.arrives t, KeepsTo p.1 t p.2

instance (c : Connector) (t : Controller) (m : Message) : Decidable (KeepsTo c t m) := by
  cases m <;> unfold KeepsTo <;> infer_instance

instance (t : Controller) (a : Action) : Decidable (NamesOwn t a) := by
  unfold NamesOwn
  infer_instance

/-! ### What every statement keeps -/

/-- A resource's shield is in its workspace. -/
def Bound (db : Db) : Prop :=
  ∀ id row sh, db.resources.lookup id = some row → row.shieldId = some sh →
    (db.shields sh).map ShieldRow.tenantId = some row.tenantId

/-- A shield's connector is in its workspace and network. -/
def Assigned (t : Controller) : Prop :=
  ∀ sh shield, t.db.shields sh = some shield →
    (t.connectors.lookup shield.connectorId).map homeOfConnector = some (homeOf shield)

structure Integrity (t : Controller) : Prop where
  bound : Bound t.db
  assigned : Assigned t

variable {row : ResourceRow} {sh : ShieldId} {now : ℤ} {m : Message}

lemma integrity_start (rules : List AccessRule) (ds : Map String (String × String)) :
    Integrity (start rules ds) where
  bound _ _ _ h := by cases h
  assigned _ _ h := by cases h

section Changes

variable {db db' : Db} {tenantId : TenantId} {id : ResourceId}

lemma bound_setRow (hb : Bound db) (hrow : ∀ sh, row.shieldId = some sh →
      (db.shields sh).map ShieldRow.tenantId = some row.tenantId) : Bound (db.setRow id row) := by
  intro i r sh hr hsh
  rcases lookup_insert_eq_some.1 hr with ⟨-, rfl⟩ | ⟨-, hold⟩
  · exact hrow sh hsh
  · exact hb i r sh hold hsh

lemma bound_of_fewer (hb : Bound db)
    (hrw : ∀ i r, db'.resources.lookup i = some r → db.resources.lookup i = some r)
    (hs : db'.shields = db.shields) : Bound db' := by
  intro i r sh hr hsh
  rw [hs]
  exact hb i r sh (hrw i r hr) hsh

lemma tenant_of_row (h : db.row tenantId id = some row) : row.tenantId = tenantId := by
  have hf := (filter_eq_some_iff.1 h).2
  exact beq_iff_eq.1 hf

lemma tenant_of_activeShieldOn {nid host} (h : db.activeShieldOn tenantId nid host sh = true) :
    (db.shields sh).map ShieldRow.tenantId = some tenantId := by
  obtain ⟨shield, hs, hc⟩ := (any_eq_true ..).1 h
  simp only [Bool.and_eq_true, beq_iff_eq] at hc
  rw [hs, map_some, hc.1.1.1]

lemma bound_create {input shield} (hb : Bound db)
    (h : create db tenantId id input shield now = some db') :
    Bound db' ∧ db'.shields = db.shields := by
  unfold create at h
  obtain ⟨hc, h⟩ := ite_none_left_eq_some.1 h
  cases h
  refine ⟨bound_setRow hb fun sh hsh => ?_, rfl⟩
  obtain rfl : shield = some sh := hsh
  simp only [Bool.or_eq_true, not_or, Bool.not_eq_true', Bool.not_eq_false, all_some,
    Bool.and_eq_true] at hc
  exact tenant_of_activeShieldOn hc.1.1.1.2.2

lemma bound_update {input shield} (hb : Bound db)
    (h : ResourceStore.update db tenantId id input shield now = some db') :
    Bound db' ∧ db'.shields = db.shields := by
  obtain ⟨row, hr, h⟩ := bind_eq_some_iff.1 h
  simp only [ite_none_left_eq_some, some.injEq] at h
  obtain ⟨-, -, -, -, -, hm, rfl⟩ := h
  have hold := hb id row
  have ht := tenant_of_row hr
  refine ⟨bound_setRow hb fun sh hsh => ?_, rfl⟩
  by_cases hre : rematches row (input.fields row) = true
  · -- the edit has found the shield on the new host
    rw [hre, Bool.true_and, Bool.not_eq_true', Bool.not_eq_false] at hm
    have hs := tenant_of_activeShieldOn hm
    simp only [hre, if_true] at hsh ⊢
    have hsh : some shield = some sh := by split at hsh <;> exact hsh
    rw [← some.inj hsh, hs, ← ht]
    split <;> rfl
  · simp only [hre] at hsh ⊢
    have hsh : row.shieldId = some sh := by split at hsh <;> exact hsh
    rw [hold sh (SignedResourceSets.lookup_of_row hr) hsh]
    split <;> rfl

lemma bound_markProtecting {chosen cand} (hb : Bound db)
    (h : markProtecting db tenantId id chosen cand now = some db') :
    Bound db' ∧ db'.shields = db.shields := by
  unfold markProtecting at h
  obtain ⟨row, hr, ⟨-, hc, -⟩, ⟨⟩⟩ := bind_ite_eq_some.1 h
  refine ⟨bound_setRow hb fun sh hsh => ?_, rfl⟩
  cases hsh
  obtain ⟨shield, hs, hcn⟩ := (any_eq_true ..).1 hc
  simp only [Bool.and_eq_true, beq_iff_eq] at hcn
  rw [hs, map_some, hcn.1.1.1]

lemma bound_rewrite (hb : Bound db) {row'} (hr : db.row tenantId id = some row)
    (hs : row'.shieldId = row.shieldId) (ht : row'.tenantId = row.tenantId) :
    Bound (db.setRow id row') := by
  refine bound_setRow hb fun sh hsh => ?_
  rw [ht]
  exact hb id row sh (SignedResourceSets.lookup_of_row hr) (hs ▸ hsh)

lemma bound_deleteRow (hb : Bound db) : Bound (db.deleteRow id) :=
  bound_of_fewer hb (fun _ _ hr => (lookup_erase_eq_some.1 hr).1) rfl

lemma bound_setShield {shield sh0} (hb : Bound db)
    (hold : ∀ old, db.shields sh0 = some old → old.tenantId = shield.tenantId) :
    Bound { db with shields := update db.shields sh0 (some shield) } := by
  intro i r sh hr hsh
  rw [← hb i r sh hr hsh]
  dsimp only
  by_cases heq : sh = sh0
  · subst heq
    obtain ⟨old, hold', ht⟩ := map_eq_some_iff.1 (hb i r sh hr hsh)
    rw [update_self, hold', map_some, map_some, hold old hold']
  · rw [update_of_ne heq]

/-- A shield keeps its connector, workspace and network. -/
def SameSeats (db db' : Db) : Prop :=
  ∀ sh shield', db'.shields sh = some shield' → ∃ shield, db.shields sh = some shield ∧
    shield.connectorId = shield'.connectorId ∧ homeOf shield = homeOf shield'

/-- **The services** bind a resource to shields of its workspace, and leave the shields there. -/
lemma bound_service {c} (hb : Bound db) (hsr : isService c = true) (h : c.apply db = some db') :
    Bound db' ∧ SameSeats db db' := by
  have hk {db'' : Db} (heq : db''.shields = db.shields) : SameSeats db db'' :=
    fun sh sh' hs' => ⟨sh', heq ▸ hs', rfl, rfl⟩
  cases c with
  | create tenantId id input shield now => exact (bound_create hb h).imp_right hk
  | update tenantId id input shield now => exact (bound_update hb h).imp_right hk
  | markProtecting => exact (bound_markProtecting hb h).imp_right hk
  | markUnprotecting tenantId id now | markDeleting tenantId id now =>
    obtain ⟨row, hrow, -, ⟨⟩⟩ := bind_ite_eq_some.1 h
    exact ⟨bound_rewrite hb hrow rfl rfl, hk rfl⟩
  | deleteUnprotected tenantId id | deleteIfShieldGone tenantId id =>
    obtain ⟨row, -, -, ⟨⟩⟩ := bind_ite_eq_some.1 h
    exact ⟨bound_deleteRow hb, hk rfl⟩
  | forceDeleteRow tenantId id =>
    obtain ⟨row, -, h⟩ := bind_eq_some_iff.1 h
    cases h
    exact ⟨bound_deleteRow hb, hk rfl⟩
  | reapStaleTombstones now olderThan =>
    cases h
    exact ⟨bound_of_fewer hb (fun _ _ hr => (lookup_retain_eq_some.1 hr).1) rfl, hk rfl⟩
  | revokeShield sh0 =>
    obtain ⟨shield, hs, h⟩ := bind_eq_some_iff.1 h
    cases h
    refine ⟨bound_setShield hb fun old hold => ?_, fun sh sh' hs' => ?_⟩
    · rw [some.inj (hold.symm.trans hs)]
    · rcases update_apply_eq_iff.1 hs' with ⟨rfl, ⟨⟩⟩ | ⟨-, hold⟩
      · exact ⟨shield, hs, rfl, rfl⟩
      · exact ⟨sh', hold, rfl, rfl⟩
  | updateShieldHealth | reapOnAck | updateOnAck => cases hsr

end Changes

variable {a : Action} {acc : Controller × Bool}

section Messages

variable {t t' : Controller} {p : ShieldId → Prop} {w : TenantId}

lemma Integrity.of_touches (h : Integrity t) (ht : Touches p w t t') : Integrity t' where
  bound id row' sh hr' hsh := by
    obtain ⟨row, hr, hs, htn⟩ := ht.rows id row' hr'
    have hold := h.bound id row sh hr (hs.trans hsh)
    have hh := congrArg (Option.map Prod.fst) (ht.home sh)
    rw [map_map, map_map] at hh
    exact hh.trans (hold.trans (congrArg some htn))
  assigned sh shield' hs' := by
    rw [ht.rest.2.2.1]
    rcases ht.seat sh shield' hs' with ⟨shield, hs, hsm⟩ | ⟨c, hc, hh⟩
    · have hh := ht.home sh
      rw [hs', hs] at hh
      rw [← hsm, h.assigned sh shield hs]
      exact hh.symm
    · rw [hc]
      exact congrArg some hh

lemma foreign_congr {c} (ht : Touches p w t t') (sh : ShieldId) :
    Foreign c t' sh ↔ Foreign c t sh := by
  unfold Foreign
  rw [ht.home sh]

variable {id : ConnectorId} {c : Connector}

/-- What a message may reach. -/
abbrev Reach (c : Connector) (t : Controller) : ShieldId → Prop := fun sh => ¬ Foreign c t sh

lemma touches_reach (ht : Touches (· = sh) w t t') (hf : Foreign c t sh → t' = t) :
    Touches (Reach c t) w t t' := by
  by_cases h : Foreign c t sh
  · rw [hf h]
    exact .refl _ w t
  · refine ht.mono fun sh' hsh' => ?_
    rw [hsh']
    exact h

lemma reach_shieldStatus {tenantId} (hc : acc.1.connectors.lookup id = some c)
    (u : ShieldStatusUpdate) :
    Touches (Reach c acc.1) w acc.1 (shieldStatus ⟨id, tenantId⟩ acc u).1 := by
  refine touches_reach (touches_shieldStatus _ acc u) fun ⟨h, hh, hne⟩ => ?_
  have hnn : updateShieldHealth acc.1 id u = none := by
    by_contra hsm
    obtain ⟨r, hr⟩ := ne_none_iff_exists'.1 hsm
    obtain ⟨shield, d, -, -, hs, hd, ht, hn, -⟩ := updateShieldHealth_eq_some _ hr
    cases hc.symm.trans hd
    rw [hs] at hh
    cases hh
    exact hne (Prod.ext ht.symm hn.symm)
  unfold shieldStatus
  rw [hnn]

lemma reach_resourceAck (hint : Integrity acc.1) (now : ℤ) {a : ResourceAck}
    (hok : ∀ h ∈ (acc.1.db.shields a.shieldId).map homeOf,
      h.1 = c.tenantId → h = homeOfConnector c) :
    Touches (Reach c acc.1) w acc.1 (resourceAck ⟨id, c.tenantId⟩ now acc a).1 := by
  refine touches_reach (touches_resourceAck _ now acc a) fun ⟨h, hh, hne⟩ => ?_
  unfold resourceAck
  split
  · rfl
  · next ack ha =>
    dsimp only
    rcases recordAck_cases acc.1.db c.tenantId ack now with hsm | ⟨row, hr, hb, -⟩
    · rw [hsm]
    · have hsh := hint.bound _ row _ (SignedResourceSets.lookup_of_row hr) hb
      rw [toAck_shieldId ha, tenant_of_row hr] at hsh
      obtain ⟨shield, hs, rfl⟩ := map_eq_some_iff.1 hh
      rw [hs] at hsh
      exact absurd (hok _ hh (some.inj hsh)) hne

lemma reach_shieldDiscovery (now : ℤ) {entry : ShieldDiscoveryReport}
    (hok : entry.report.isSome →
      ∀ h ∈ (t.db.shields entry.shieldId).map homeOf, h = homeOfConnector c) :
    Touches (Reach c t) w t (shieldDiscovery now t entry) := by
  refine touches_reach (touches_shieldDiscovery t now entry) fun ⟨h, hh, hne⟩ => ?_
  unfold shieldDiscovery
  split
  · rfl
  · next r hr => exact absurd (hok (by rw [hr]; rfl) h hh) hne

lemma reach_resourceState (hint : Integrity t) (hc : t.connectors.lookup id = some c)
    (rep : ResourceStateReport) :
    Touches (Reach c t) c.tenantId t (resourceState ⟨id, c.tenantId⟩ t rep) := by
  have ht := touches_resourceState t ⟨id, c.tenantId⟩ rep
  refine touches_reach ht fun ⟨h, hh, hne⟩ => ?_
  unfold resourceState
  rw [if_neg]
  intro ho
  obtain ⟨shield, hs, hcn⟩ := (any_eq_true ..).1 ho
  simp only [Bool.and_eq_true, beq_iff_eq] at hcn
  rw [hs] at hh
  cases hh
  have ha := hint.assigned _ shield hs
  rw [hcn.1, hc] at ha
  exact hne (some.inj ha).symm

lemma reach_foldl {A S : Type*} (ctl : S → Controller) {f : S → A → S} (l : List A) (s : S)
    (hint : Integrity (ctl s)) (hc : (ctl s).connectors.lookup id = some c)
    (hf : ∀ r, Integrity (ctl r) → (ctl r).connectors.lookup id = some c →
      (∀ sh, ((ctl r).db.shields sh).map homeOf = ((ctl s).db.shields sh).map homeOf) →
      ∀ x ∈ l, Touches (Reach c (ctl r)) w (ctl r) (ctl (f r x))) :
    Touches (Reach c (ctl s)) w (ctl s) (ctl (l.foldl f s)) :=
  List.foldlRecOn l f (motive := fun r => Touches (Reach c (ctl s)) w (ctl s) (ctl r))
    (.refl _ w _) fun r hr x hx => by
      have hc' : (ctl r).connectors.lookup id = some c := by
        rw [hr.rest.2.2.1]
        exact hc
      have hs := hf r (hint.of_touches hr) hc' hr.home x hx
      exact hr.trans (hs.mono fun sh hsh hfr => hsh ((foreign_congr hr sh).2 hfr))

/-- **A message about shields** keeps to the connector's network. -/
lemma reach_handle (hint : Integrity t) (hc : t.connectors.lookup id = some c) (now : ℤ)
    (hok : KeepsTo c t m) (hs : ∀ r, m ≠ .scanReport r) (hl : ∀ e, m ≠ .connectorLog e) :
    Touches (Reach c t) c.tenantId t (handle t ⟨id, c.tenantId⟩ now m) := by
  cases m with
  | shieldStatus shs =>
    refine Touches.trans ?_ (touches_notify _ _ _ _)
    exact reach_foldl Prod.fst shs (t, false) hint hc fun r _ hc' _ u _ =>
      reach_shieldStatus hc' u
  | resourceAcks acks =>
    refine Touches.trans ?_ (touches_notify _ _ _ _)
    refine reach_foldl Prod.fst acks (t, false) hint hc fun r hint' _ hh a ha => ?_
    refine reach_resourceAck hint' now ?_
    rw [hh]
    exact hok a ha
  | shieldDiscovery reps =>
    refine reach_foldl (fun r => r) reps t hint hc fun r _ _ hh entry he => ?_
    refine reach_shieldDiscovery now ?_
    rw [hh]
    exact hok entry he
  | resourceState reps =>
    exact reach_foldl (fun r => r) reps t hint hc fun r hint' hc' _ rep _ =>
      reach_resourceState hint' hc' rep
  | scanReport rep => exact absurd rfl (hs rep)
  | connectorLog entry => exact absurd rfl (hl entry)

/-- What keeps to the connector's network keeps to its workspace: a resource's shield is in the
resource's workspace. -/
lemma confined_of_touches (hint : Integrity t) (ht : Touches (Reach c t) c.tenantId t t') :
    Confined c t t' := by
  have hb : ∀ i row, t.db.resources.lookup i = some row → row.tenantId ≠ c.tenantId →
      ¬ BoundTo (Reach c t) row := by
    rintro i row hrow hne ⟨sh, hsh, hr⟩
    have htn := hint.bound i row sh hrow hsh
    obtain ⟨shield, hs, heq⟩ := map_eq_some_iff.1 htn
    refine hr ⟨homeOf shield, by rw [hs]; rfl, fun hh => ?_⟩
    exact hne (heq.symm.trans (congrArg Prod.fst hh))
  obtain ⟨hn, hrl, hc, hrq, hrs, hd, hl⟩ := ht.rest
  refine ⟨fun sh hsh => ?_, fun sh hnn => ?_, fun i row hrow hcs => ?_,
    fun i row' hr' hne => ?_, fun key hkey => ht.service key (not_not.2 hkey),
    fun key _ _ _ => by rw [hrs], by rw [hl], ht.version, hn, hrl, hc, hrq, hd⟩
  · have hsh := not_not.2 hsh
    exact ⟨ht.shield sh hsh, ht.beat sh hsh, ht.counter sh hsh⟩
  · have hh := ht.home sh
    rw [hnn] at hh
    exact map_eq_none_iff.1 hh
  · refine ht.kept i row hrow ?_
    rcases hcs with hne | ⟨sh, hsh, hf⟩
    · exact hb i row hrow hne
    · rintro ⟨sh', hsh', hr⟩
      obtain rfl := mem_unique hsh hsh'
      exact hr hf
  · obtain ⟨row, hrow, -, htn⟩ := ht.rows i row' hr'
    have hk := ht.kept i row hrow (hb i row hrow (htn ▸ hne))
    cases hk.symm.trans hr'
    exact hrow

lemma lookup_foldlM_upsertScanResult {reqs rid key} (hne : key.connectorId ≠ id) :
    ∀ (l : List ScanResult) (results results' : Map ScanKey (String × ℤ)),
      l.foldlM (upsertScanResult reqs id rid now) results = some results' →
      results'.lookup key = results.lookup key
  | [], results, results', h => by
    cases h
    rfl
  | r :: l, results, results', h => by
    obtain ⟨mid, hm, h⟩ := bind_eq_some_iff.1 h
    rw [lookup_foldlM_upsertScanResult hne l mid results' h]
    unfold upsertScanResult at hm
    obtain ⟨-, hm⟩ := ite_none_right_eq_some.1 hm
    split at hm
    · cases hm
      exact AList.lookup_insert_ne fun hk => hne (congrArg ScanKey.connectorId hk)
    · cases hm
      rfl

lemma confined_of_tables {scanResults : Map ScanKey (String × ℤ)} {logs : List LogRow}
    (hr : ∀ key d, t.connectors.lookup key.connectorId = some d → d.tenantId ≠ c.tenantId →
      scanResults.lookup key = t.scanResults.lookup key)
    (hl : (logs.filter fun row => row.workspaceId ≠ c.tenantId) =
      t.logs.filter fun row => row.workspaceId ≠ c.tenantId) :
    Confined c t { t with scanResults := scanResults, logs := logs } where
  shields _ _ := ⟨rfl, rfl, rfl⟩
  noShield _ h := h
  resources _ _ h _ := h
  inserted _ _ h _ := h
  services _ _ := rfl
  scanResults := hr
  logs := hl
  versions _ _ := rfl
  rest := ⟨rfl, rfl, rfl, rfl, rfl⟩

end Messages

/-! ### Runs -/

lemma assigned_of_same {t t' : Controller} (h : Assigned t)
    (hc : ∀ k d, t.connectors.lookup k = some d →
      (t'.connectors.lookup k).map homeOfConnector = some (homeOfConnector d))
    (hs : SameSeats t.db t'.db) : Assigned t' := by
  intro sh sh' hs'
  obtain ⟨shield, hsh, hsm, hh⟩ := hs sh sh' hs'
  obtain ⟨d, hd, heq⟩ := map_eq_some_iff.1 (h sh shield hsh)
  rw [← hsm, hc _ d hd, heq, hh]

lemma integrity_step {t t'} (h : Integrity t) (hok : NamesOwn t a) (hs : step t a = some t') :
    Integrity t' := by
  have hsm : ∀ k d, t.connectors.lookup k = some d →
      (t.connectors.lookup k).map homeOfConnector = some (homeOfConnector d) :=
    fun k d hd => by rw [hd]; rfl
  cases a with
  | network | scanRequest =>
    obtain ⟨-, rfl⟩ := ite_some_none_eq_some.1 hs
    exact ⟨h.bound, h.assigned⟩
  | connector id tenantId nid td =>
    obtain ⟨⟨hn, -⟩, rfl⟩ := ite_some_none_eq_some.1 hs
    refine ⟨h.bound, assigned_of_same h.assigned (fun k d hd => ?_) fun _ shield hsh =>
      ⟨shield, hsh, rfl, rfl⟩⟩
    have hne : k ≠ id := by
      rintro rfl
      rw [hn] at hd
      cases hd
    rw [AList.lookup_insert_ne hne]
    exact hsm k d hd
  | connectorState id row =>
    obtain ⟨c, hc, rfl⟩ := map_eq_some_iff.1 hs
    refine ⟨h.bound, assigned_of_same h.assigned (fun k d hd => ?_) fun _ shield hsh =>
      ⟨shield, hsh, rfl, rfl⟩⟩
    by_cases hk : k = id
    · subst hk
      cases hc.symm.trans hd
      rw [AList.lookup_insert]
      rfl
    · rw [AList.lookup_insert_ne hk]
      exact hsm k d hd
  | shield id cid =>
    obtain ⟨hn, c, hc, rfl⟩ := ite_map_eq_some.1 hs
    refine ⟨bound_setShield h.bound fun old hold => ?_, fun sh row hr => ?_⟩
    · rw [hn] at hold
      cases hold
    · rcases update_apply_eq_iff.1 hr with ⟨-, ⟨⟩⟩ | ⟨-, hr⟩
      · exact hsm cid c hc
      · exact h.assigned sh row hr
  | shieldState id st =>
    obtain ⟨shield, hsh, rfl⟩ := map_eq_some_iff.1 hs
    refine ⟨bound_setShield h.bound fun old hold => ?_,
      assigned_of_same h.assigned hsm fun sh row hr => ?_⟩
    · rw [some.inj (hold.symm.trans hsh)]
    · rcases update_apply_eq_iff.1 hr with ⟨rfl, ⟨⟩⟩ | ⟨-, hr⟩
      · exact ⟨shield, hsh, rfl, rfl⟩
      · exact ⟨row, hr, rfl, rfl⟩
  | service c =>
    obtain ⟨hsr, db, hdb, rfl⟩ := ite_map_eq_some.1 hs
    obtain ⟨hb, hshl⟩ := bound_service h.bound hsr hdb
    exact ⟨hb, assigned_of_same h.assigned hsm hshl⟩
  | register id | unregister id | restart =>
    cases hs
    exact ⟨h.bound, h.assigned⟩
  | message id now m =>
    obtain ⟨c, hc, rfl⟩ := map_eq_some_iff.1 hs
    have hok := hok (c, m) (by rw [Action.arrives, hc]; rfl)
    cases m with
    | scanReport rep => exact ⟨h.bound, h.assigned⟩
    | connectorLog entry =>
      change Integrity (handleConnectorLog _ _ _ _)
      dsimp only [handleConnectorLog]
      split
      · exact ⟨h.bound, h.assigned⟩
      · exact h
    | _ => exact h.of_touches (reach_handle h hc now hok (by simp) (by simp))

lemma ownWorkspace_step {t t'} (h : Integrity t) (hok : NamesOwn t a) (hs : step t a = some t') :
    OwnWorkspace t a t' := by
  rintro id now m rfl c hc
  have hs : (t.connectors.lookup id).map (fun c => handle t ⟨id, c.tenantId⟩ now m) = some t' := hs
  rw [hc] at hs
  cases hs
  have hok := hok (c, m) (by rw [Action.arrives, hc]; rfl)
  cases m with
  | scanReport rep =>
    -- Results are stored under the connector that reports them.
    refine confined_of_tables (fun key d hd hne => ?_) rfl
    have hk : key.connectorId ≠ id := by
      rintro rfl
      exact hne (congrArg Connector.tenantId (some.inj (hd.symm.trans hc)))
    cases h : rep.results.foldlM (upsertScanResult t.scanRequests id rep.requestId now)
        t.scanResults with
    | none => rfl
    | some results => exact lookup_foldlM_upsertScanResult hk _ _ _ h
  | connectorLog entry =>
    -- log rows are of the connector's workspace
    have hl : Confined c t { t with logs := logRow t ⟨id, c.tenantId⟩ entry now :: t.logs } := by
      refine confined_of_tables (fun _ _ _ _ => rfl) (List.filter_cons_of_neg ?_)
      simp [logRow]
    dsimp only [handle, handleConnectorLog]
    split
    · exact hl
    · exact confined_of_tables (fun _ _ _ _ => rfl) rfl
  | _ => exact confined_of_touches h (reach_handle h hc now hok (by simp) (by simp))

/-- When discovery reports and acks name shields of the connector's network, its messages reach
nothing of another workspace or network. -/
theorem ownWorkspace_of_namesOwn (rules : List AccessRule)
    (devices : Map String (String × String)) (acts : List Action)
    (hok : Meets step NamesOwn (start rules devices) acts) :
    Always step OwnWorkspace (start rules devices) acts :=
  always_of_meets (fun _ _ _ h hok hs => integrity_step h hok hs)
    (fun _ _ _ h hok hs => ownWorkspace_step h hok hs) (integrity_start rules devices) hok

/-! ### Two workspaces -/

/-- A workspace with two networks and another with one, each network with a connector and a
shield that has reported. -/
def prepared : List Action :=
  [.network "n1" "w" "one", .network "n2" "w" "two", .network "n3" "v" "three",
    .connector "c1" "w" "n1" "w.example", .connector "c2" "w" "n2" "w.example",
    .connector "c3" "v" "n3" "v.example", .connectorState "c1" ⟨.active, false⟩,
    .connectorState "c2" ⟨.active, false⟩, .connectorState "c3" ⟨.active, false⟩,
    .shield "s1" "c1", .shield "s2" "c2", .shield "s3" "c3", .register "c1", .register "c2",
    .message "c1" 10 (.shieldStatus [⟨"s1", "active", "1", "10.0.0.1", 9⟩]),
    .message "c2" 10 (.shieldStatus [⟨"s2", "active", "1", "10.0.0.2", 9⟩]),
    .message "c3" 10 (.shieldDiscovery [⟨"s3", some ⟨[⟨"tcp", 22, "0.0.0.0", "ssh"⟩], [], true⟩⟩])]

/-- A resource of the workspace is put behind a shield. -/
def protects (host : String) (networkId : NetworkId) (sh : ShieldId) : List Action :=
  [.service (.create "w" ⟨"r1", plain_r1⟩ ⟨networkId, "web", host, .tcp, 80, 80⟩ none 11),
    .service (.markProtecting "w" ⟨"r1", plain_r1⟩ none sh 12)]

def verdict (host : String) (sh : ShieldId) : Message :=
  .resourceAcks [⟨"r1", "protected", "", 13, sh, host, "tcp", 80, 80⟩]

def discovers (sh : ShieldId) : Message := .shieldDiscovery [⟨sh, some ⟨[], [], true⟩⟩]

/-- The first connector speaks for its own shield, and tries the heartbeat, the state report, the
ack and the scan result of others. -/
def ownNetwork : List Action :=
  prepared ++ protects "10.0.0.1" "n1" "s1" ++
    [Action.scanRequest "v" "c3" "q", .message "c1" 13 (verdict "10.0.0.1" "s1"),
      .message "c1" 14 (discovers "s1"), .message "c1" 14 (.resourceState [⟨"s1", []⟩, ⟨"s2", []⟩]),
      .message "c1" 15 (.resourceState [⟨"s1", []⟩, ⟨"s2", []⟩]),
      .message "c1" 16 (.shieldStatus [⟨"s3", "revoked", "1", "", 9⟩]),
      .message "c1" 17 (verdict "10.0.0.1" "s3"),
      .message "c1" 18 (.scanReport ⟨"q", [⟨"10.0.0.9", 22, "tcp", "ssh"⟩]⟩),
      .message "c1" 19 (.connectorLog ⟨"m", "", "", "", "", 0, "", "allow", "", 0⟩)]

theorem ownWorkspace_ownNetwork :
    Meets step NamesOwn (start [] ∅) ownNetwork ∧
      Always step OwnWorkspace (start [] ∅) ownNetwork ∧
      (exec step (start [] ∅) ownNetwork).map (fun t =>
        (t.sent.map Push.shieldId, t.logs.map LogRow.workspaceId)) =
          some (["s1", "s2", "s1"], ["w"]) := by
  have hm : Meets step NamesOwn (start [] ∅) ownNetwork := by decide +kernel
  exact ⟨hm, ownWorkspace_of_namesOwn [] ∅ _ hm, by decide +kernel⟩

def otherNetwork : List Action := prepared ++ protects "10.0.0.2" "n2" "s2"

/-- A discovery report of a connector deletes the services of another workspace's shield, and an
ack of it settles the resource of a shield in another network. -/
theorem messages_reach_other_workspace_and_network :
    (∃ t t' c key row, exec step (start [] ∅) prepared = some t ∧
      step t (.message "c1" 20 (discovers "s3")) = some t' ∧
      t.connectors.lookup "c1" = some c ∧ Foreign c t "s3" ∧ key = ("s3", "tcp", 22) ∧
      t.services.lookup key = some row ∧ t'.services.lookup key = none ∧
      ¬ OwnWorkspace t (.message "c1" 20 (discovers "s3")) t') ∧
    ∃ t t' c row row', exec step (start [] ∅) otherNetwork = some t ∧
      step t (.message "c1" 20 (verdict "10.0.0.2" "s2")) = some t' ∧
      t.connectors.lookup "c1" = some c ∧ Foreign c t "s2" ∧
      t.db.resources.lookup ⟨"r1", plain_r1⟩ = some row ∧ row.shieldId = some "s2" ∧
      row.status = .protecting ∧ t'.db.resources.lookup ⟨"r1", plain_r1⟩ = some row' ∧
      row'.status = .protected_ ∧
      ¬ OwnWorkspace t (.message "c1" 20 (verdict "10.0.0.2" "s2")) t' := by
  constructor
  · obtain ⟨t, ht, t', ht', c, hc, row, hr, hhm, hh, hg⟩ :
        ∃ t, exec step (start [] ∅) prepared = some t ∧
          ∃ t', step t (.message "c1" 20 (discovers "s3")) = some t' ∧
          ∃ c, t.connectors.lookup "c1" = some c ∧
          ∃ row, t.services.lookup ("s3", "tcp", 22) = some row ∧
            (t.db.shields "s3").map homeOf = some ("v", "n3") ∧ homeOfConnector c = ("w", "n1") ∧
            t'.services.lookup ("s3", "tcp", 22) = none := by
      decide +kernel
    have hf : Foreign c t "s3" := ⟨_, hhm, by rw [hh]; decide⟩
    refine ⟨t, t', c, _, row, ht, ht', hc, hf, rfl, hr, hg, fun ho => ?_⟩
    have hsm := (ho "c1" 20 _ rfl c hc).services ("s3", "tcp", 22) hf
    rw [hg, hr] at hsm
    cases hsm
  · obtain ⟨t, ht, t', ht', c, hc, hhm, hh, row, hr, hs, hst, row', hr',
        hs'⟩ : ∃ t, exec step (start [] ∅) otherNetwork = some t ∧
          ∃ t', step t (.message "c1" 20 (verdict "10.0.0.2" "s2")) = some t' ∧
          ∃ c, t.connectors.lookup "c1" = some c ∧
            (t.db.shields "s2").map homeOf = some ("w", "n2") ∧ homeOfConnector c = ("w", "n1") ∧
          ∃ row, t.db.resources.lookup ⟨"r1", plain_r1⟩ = some row ∧ row.shieldId = some "s2" ∧
            row.status = .protecting ∧ ∃ row', t'.db.resources.lookup ⟨"r1", plain_r1⟩ = some row' ∧
            row'.status = .protected_ := by
      decide +kernel
    have hf : Foreign c t "s2" := ⟨_, hhm, by rw [hh]; decide⟩
    refine ⟨t, t', c, row, row', ht, ht', hc, hf, hr, hs, hst, hr', hs', fun ho => ?_⟩
    have hsm := (ho "c1" 20 _ rfl c hc).resources _ row hr (.inr ⟨"s2", hs, hf⟩)
    cases hsm.symm.trans hr'
    rw [hst] at hs'
    cases hs'

end Zecurity.ControlScope
