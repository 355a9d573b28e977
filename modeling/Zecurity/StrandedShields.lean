import Zecurity.ConnectorRemoval

/-!
No shield is stranded silently: the last connector of a network is not revoked while enrolled
shields are attached to it, unless they are revoked too.

`StrandedShields` looks at the shields of the connector that is to be revoked; what is attached, or
revoked, after the look is not seen.
-/

namespace Zecurity.ConnectorRemoval

open AList FiniteMap Runs ShieldEnrollment ShieldRows
open ResourceStore (ShieldId)

/-- The network has no connector that is active or disconnected and not revoked. -/
def NoneLive (connectors : Map ConnectorId Connector) (n : Network) : Prop :=
  All connectors fun c => c.network = n → c.live = false

def attachedToRevoked (connectors : Map ConnectorId Connector) (row : ShieldRow) : Bool :=
  (connectors.lookup row.connectorId).any Connector.revoked

/-- No shield of the network that is attached to a revoked connector is active or disconnected. -/
def NoneStranded (connectors : Map ConnectorId Connector) (shields : Map ShieldId ShieldRow)
    (n : Network) : Prop :=
  All shields fun row =>
    row.network = n → row.live = true → attachedToRevoked connectors row = false

/-- Where the last revocation of a connector has returned true and no connector is left, no shield
is stranded. -/
def NoneSilent (s : State) : Prop :=
  ∀ n ∈ s.settled, NoneLive s.connectors n → NoneStranded s.connectors s.shields n

instance (connectors : Map ConnectorId Connector) (n : Network) :
    Decidable (NoneLive connectors n) := inferInstanceAs (Decidable (All _ _))

instance (connectors : Map ConnectorId Connector) (shields : Map ShieldId ShieldRow)
    (n : Network) : Decidable (NoneStranded connectors shields n) :=
  inferInstanceAs (Decidable (All _ _))

instance (s : State) : Decidable (NoneSilent s) := inferInstanceAs (Decidable (∀ _ ∈ _, _))

/-- The network in which a call has found a connector active. -/
def Call.reliesIn : Call → Option Network
  | .enroll e => if e.phase = .connectorActive then some e.claims.network else none
  | .health r => some r.connector.network
  | _ => none

/-- The network in which a call revokes a connector. -/
def Call.revokesIn : Call → Option Network
  | .revokeConnector r => some r.network
  | _ => none

/-- The connector whose shields a step looks for, and its network. -/
def Action.checks (s : State) : Action → Option (ConnectorId × Network)
  | .strandedShields _ _ connectorId _ =>
    (s.connectors.lookup connectorId).map fun c => (connectorId, c.network)
  | _ => none

/-- The network in which a step looks for an active connector. -/
def Action.reliesIn (s : State) : Action → Option Network
  | .loadConnector id => (s.enrollmentIn id .workspaceActive).map (·.claims.network)
  | .readHealth _ connectorId _ => (s.connectors.lookup connectorId).map Connector.network
  | _ => none

/-- A revocation of a connector overlaps with no other one in the network, and with no enrollment
or status report that has found a connector of the network active; and when the last connector is
to be revoked, no enrolled shield is attached to one that was revoked before. -/
def Orderly (s : State) (a : Action) : Prop :=
  (∀ p ∈ a.checks s,
    (All s.calls fun call => call.revokesIn ≠ some p.2 ∧ call.reliesIn ≠ some p.2) ∧
      (otherLive s.connectors p.2 p.1 = true ∨ NoneStranded s.connectors s.shields p.2)) ∧
    ∀ n ∈ a.reliesIn s, All s.calls fun call => call.revokesIn ≠ some n

instance (s : State) (a : Action) : Decidable (Orderly s a) :=
  inferInstanceAs (Decidable (_ ∧ _))

/-! ### The tables -/

variable {st : ConnectorRow.Statement} {r' : RevokeConnector} {row' : ShieldRow}

section Tables

variable {connectors connectors' : Map ConnectorId Connector}
  {shields shields' : Map ShieldId ShieldRow} {n : Network} {id : ConnectorId}
  {p p' : ShieldRow → Bool} {list : List ShieldId}

lemma inNetwork_eq_true :
    inNetwork connectors id n = true ↔ ∃ c, connectors.lookup id = some c ∧ c.network = n := by
  simp [inNetwork, Option.any_eq_true]

lemma otherLive_eq_true :
    otherLive connectors n id = true ↔
      ∃ i c, connectors.lookup i = some c ∧ c.network = n ∧ i ≠ id ∧ c.live = true := by
  simp only [otherLive, List.any_eq_true, Bool.and_eq_true, beq_iff_eq, bne_iff_ne]
  constructor
  · rintro ⟨⟨i, c⟩, hm, ⟨hn, hne⟩, hl⟩
    exact ⟨i, c, mem_lookup_iff.2 hm, hn, hne, hl⟩
  · rintro ⟨i, c, hc, hn, hne, hl⟩
    exact ⟨⟨i, c⟩, mem_lookup_iff.1 hc, ⟨hn, hne⟩, hl⟩

/-- Connectors come and change and go, but none is revoked, and none that is live goes. -/
structure Mild (connectors connectors' : Map ConnectorId Connector) : Prop where
  revoked : ∀ i c', connectors'.lookup i = some c' → c'.revoked = true →
    ∃ c, connectors.lookup i = some c ∧ c.revoked = true
  live : ∀ i c, connectors.lookup i = some c → c.live = true →
    ∃ c', connectors'.lookup i = some c' ∧ c'.live = true ∧ c'.network = c.network

lemma Mild.refl : Mild connectors connectors where
  revoked := fun _ c h hr => ⟨c, h, hr⟩
  live := fun _ c h hl => ⟨c, h, hl, rfl⟩

lemma Mild.noneLive (h : Mild connectors connectors') (hnn : NoneLive connectors' n) :
    NoneLive connectors n := by
  intro i c hc hn
  by_contra hl
  obtain ⟨c', hc', hl', hn'⟩ := h.live i c hc (by simpa using hl)
  rw [hnn i c' hc' (hn'.trans hn)] at hl'
  cases hl'

lemma Mild.otherLive (h : Mild connectors connectors') (ho : otherLive connectors n id = true) :
    otherLive connectors' n id = true := by
  obtain ⟨i, c, hc, hn, hne, hl⟩ := otherLive_eq_true.1 ho
  obtain ⟨c', hc', hl', hn'⟩ := h.live i c hc hl
  exact otherLive_eq_true.2 ⟨i, c', hc', hn'.trans hn, hne, hl'⟩

lemma Mild.attachedToRevoked (h : Mild connectors connectors') {row}
    (hs : row.connectorId = row'.connectorId) (hrv : attachedToRevoked connectors' row' = true) :
    attachedToRevoked connectors row = true := by
  obtain ⟨c', hc', hr'⟩ := (Option.any_eq_true ..).1 hrv
  obtain ⟨c, hc, hr⟩ := h.revoked _ c' hc' hr'
  rw [← hs] at hc
  exact (Option.any_eq_true ..).2 ⟨c, hc, hr⟩

/-- No enrolled row of the network is new, or newly attached. -/
def Quieter (n : Network) (shields shields' : Map ShieldId ShieldRow) : Prop :=
  ∀ sh row', shields'.lookup sh = some row' → row'.network = n → row'.live = true →
    ∃ row, shields.lookup sh = some row ∧ row.network = n ∧ row.live = true ∧
      row.connectorId = row'.connectorId

lemma Quieter.refl : Quieter n shields shields := fun _ row h hn hl => ⟨row, h, hn, hl, rfl⟩

lemma quieter_insert {sh : ShieldId}
    (h : row'.network = n → row'.live = true → ∃ row, shields.lookup sh = some row ∧
      row.network = n ∧ row.live = true ∧ row.connectorId = row'.connectorId) :
    Quieter n shields (shields.insert sh row') := by
  intro k r hr hn hl
  rcases lookup_insert_eq_some.1 hr with ⟨rfl, rfl⟩ | ⟨-, hold⟩
  · exact h hn hl
  · exact ⟨r, hold, hn, hl, rfl⟩

lemma quieter_of_lookup
    (h : ∀ sh row, shields'.lookup sh = some row → shields.lookup sh = some row) :
    Quieter n shields shields' := fun sh row hr hn hl => ⟨row, h sh row hr, hn, hl, rfl⟩

/-- Every enrolled shield of the network with `p` is in the list. -/
def Listed (shields : Map ShieldId ShieldRow) (n : Network) (p : ShieldRow → Bool)
    (list : List ShieldId) : Prop :=
  ∀ sh row, shields.lookup sh = some row → row.network = n → row.live = true → p row = true →
    sh ∈ list

lemma listed_nil :
    Listed shields n (attachedToRevoked connectors) [] ↔ NoneStranded connectors shields n := by
  constructor
  · intro h sh row hrow hn hl
    by_contra hr
    exact List.not_mem_nil (h sh row hrow hn hl (by simpa using hr))
  · intro h sh row hrow hn hl hr
    rw [h sh row hrow hn hl] at hr
    cases hr

lemma Listed.mono (h : Listed shields n p list) (hq : Quieter n shields shields')
    (hp : ∀ row row', row.connectorId = row'.connectorId → p' row' = true → p row = true) :
    Listed shields' n p' list := by
  intro sh row' hr' hn' hl' hp'
  obtain ⟨row, hr, hn, hl, hs⟩ := hq sh row' hr' hn' hl'
  exact h sh row hr hn hl (hp row row' hs hp')

/-- What is known of a revocation of a connector under way. -/
structure RevokeOk (connectors : Map ConnectorId Connector) (shields : Map ShieldId ShieldRow)
    (r : RevokeConnector) : Prop where
  tenant : r.network.1 = r.tenantId
  checked : r.phase = .checked → otherLive connectors r.network r.connectorId = true ∨
    Listed shields r.network
      (fun row => attachedToRevoked connectors row || row.connectorId == r.connectorId) r.shields
  updated : r.phase ≠ .checked → NoneLive connectors r.network →
    Listed shields r.network (attachedToRevoked connectors) r.shields

lemma RevokeOk.mono {r} (h : RevokeOk connectors shields r) (hm : Mild connectors connectors')
    (hq : Quieter r.network shields shields') :
    RevokeOk connectors' shields' r where
  tenant := h.tenant
  checked := fun hp => by
    refine (h.checked hp).imp hm.otherLive fun hl => hl.mono hq fun row row' hs hr' => ?_
    rw [Bool.or_eq_true] at hr' ⊢
    refine hr'.imp (hm.attachedToRevoked hs) fun hc => ?_
    rw [hs]
    exact hc
  updated := fun hp hn =>
    (h.updated hp (hm.noneLive hn)).mono hq fun _ _ hs => hm.attachedToRevoked hs

lemma RevokeOk.drop {r sh rest phase} (h : RevokeOk connectors shields r)
    (hp : r.phase ≠ .checked) (hph : phase ≠ .checked) (hsh : r.shields = sh :: rest)
    (hrow : ∀ row, shields.lookup sh = some row → row.network = r.network → row.live = false) :
    RevokeOk connectors shields { r with shields := rest, phase := phase } where
  tenant := h.tenant
  checked := fun hc => absurd hc hph
  updated := fun _ hnn k row hk hn hl hr => by
    have hm := h.updated hp hnn k row hk hn hl hr
    rw [hsh] at hm
    rcases List.mem_cons.1 hm with rfl | hrs
    · rw [hrow row hk hn] at hl
      cases hl
    · exact hrs

end Tables

/-! ### Networks of rows and of calls -/

/-- The connector that a call names, with the network that it has read of it. -/
def Call.names : Call → Option (ConnectorId × Network)
  | .health r => some (r.connectorId, r.connector.network)
  | .revokeConnector r => some (r.connectorId, r.network)
  | _ => none

/-- Rows and calls agree with the connectors about networks. -/
structure Registry (s : State) : Prop where
  attached : ∀ sh row, s.shields.lookup sh = some row →
    inNetwork s.connectors row.connectorId row.network = true
  known : ∀ i c, s.connectors.lookup i = some c → i ∈ s.connectorIds
  marked : ∀ i c, s.connectors.lookup i = some c → c.row.revokedAt = true → c.row.status = .revoked
  named : ∀ i call p, s.calls.lookup i = some call → call.names = some p →
    p.1 ∈ s.connectorIds ∧ ∀ c, s.connectors.lookup p.1 = some c → c.network = p.2

variable {r : RevokeConnector} {a : Action}

lemma registry_start : Registry start where
  attached := by rintro _ _ ⟨⟩
  known := by rintro _ _ ⟨⟩
  marked := by rintro _ _ ⟨⟩
  named := by rintro _ _ _ ⟨⟩

section Fields

variable {s : State} {id : CallId} {sh : ShieldId} {row : ShieldRow} {call : Call}

section

variable (h : Registry s)
include h

lemma Registry.setRow (hin : inNetwork s.connectors row.connectorId row.network = true) :
    Registry (s.setRow sh row) := { h with attached := forall_lookup_insert h.attached hin }

lemma Registry.endCall (id : CallId) : Registry (s.endCall id) :=
  { h with named := fun i call p hi => h.named i call p (lookup_erase_eq_some.1 hi).1 }

lemma Registry.setCall (hn : ∀ p, call.names = some p →
      p.1 ∈ s.connectorIds ∧ ∀ c, s.connectors.lookup p.1 = some c → c.network = p.2) :
    Registry (s.setCall id call) := by
  refine { h with named := fun i call p hi hp => ?_ }
  rcases lookup_insert_eq_some.1 hi with ⟨rfl, rfl⟩ | ⟨-, hi'⟩
  · exact hn p hp
  · exact h.named i call p hi' hp

lemma Registry.resume (hr : s.calls.lookup id = some (.revokeConnector r))
    (hs : (r'.connectorId, r'.network) = (r.connectorId, r.network)) :
    Registry (s.setCall id (.revokeConnector r')) :=
  h.setCall fun p hp => h.named id _ p hr ((congrArg some hs).symm.trans hp)

lemma Registry.insertConnector {i c ids} (hids : insert i s.connectorIds = ids)
    (hn : i ∈ s.connectorIds → ∃ c', s.connectors.lookup i = some c' ∧ c.network = c'.network)
    (hm : c.row.revokedAt = true → c.row.status = .revoked) :
    Registry { s with connectors := s.connectors.insert i c, connectorIds := ids } where
  attached := by
    intro k r hr
    obtain ⟨d, hd, hdn⟩ := inNetwork_eq_true.1 (h.attached k r hr)
    by_cases hi : r.connectorId = i
    · obtain ⟨c', hc', hn'⟩ := hn (hi ▸ h.known _ d hd)
      rw [hi, hc'] at hd
      cases hd
      exact inNetwork_eq_true.2 ⟨c, hi ▸ lookup_insert _, hn'.trans hdn⟩
    · exact inNetwork_eq_true.2 ⟨d, (lookup_insert_ne hi).trans hd, hdn⟩
  known := by
    subst hids
    refine forall_lookup_insert (fun k d hd => ?_) (Finset.mem_insert_self ..)
    exact Finset.mem_insert_of_mem (h.known k d hd)
  marked := forall_lookup_insert h.marked hm
  named := by
    intro j call p hj hp
    obtain ⟨hk, hnet⟩ := h.named j call p hj hp
    refine ⟨hids ▸ Finset.mem_insert_of_mem hk, fun d hd => ?_⟩
    rcases lookup_insert_eq_some.1 hd with ⟨rfl, rfl⟩ | ⟨-, hd'⟩
    · obtain ⟨c', hc', hn'⟩ := hn hk
      exact hn'.trans (hnet c' hc')
    · exact hnet d hd'

lemma Registry.setConnector {i c c'} (hc : s.connectors.lookup i = some c)
    (hn : c'.network = c.network) (hm : c'.row.revokedAt = true → c'.row.status = .revoked) :
    Registry { s with connectors := s.connectors.insert i c' } :=
  h.insertConnector (Finset.insert_eq_of_mem (h.known i c hc)) (fun _ => ⟨c, hc, hn⟩) hm

end

end Fields

lemma apply_live {r r'} (hmr : r.revokedAt = true → r.status = .revoked) (hr : st ≠ .revoke)
    (hm : st.matchesRow r = true) (ha : st.apply r = some r') :
    r'.revokedAt = false ∧ (r'.status = .active ∨ r'.status = .disconnected) := by
  obtain ⟨status, revokedAt⟩ := r
  cases st <;> cases status <;> cases revokedAt <;>
    simp_all [ConnectorRow.Statement.matchesRow, ConnectorRow.Statement.apply] <;> simp [← ha]

lemma Enters.registry {s id call} (hc : Enters s id a call) (h : Registry s) :
    Registry (s.setCall id call) := by
  cases hc with
  | readHealth hc hm | strandedShields hc =>
    refine h.setCall fun p hp => ?_
    cases hp
    refine ⟨h.known _ _ hc, fun c' hc' => ?_⟩
    cases hc.symm.trans hc'
    rfl
  | revokeNext hr hp hsh hf | skip hr hp hsh hrow => exact h.resume hr rfl
  | _ => exact h.setCall (by rintro _ ⟨⟩)

lemma Step.registry {s s'} (hs : Step s a s') (h : Registry s) : Registry s' := by
  cases hs with
  | idle => exact h
  | workspace => exact { h with }
  | addConnector hnew => exact h.insertConnector rfl (fun hi => absurd hi hnew) (by simp)
  | @connector i st c row hc hrv hm ha =>
    obtain ⟨hf, -⟩ := apply_live (h.marked i c hc) hrv hm ha
    refine h.setConnector hc rfl fun htr => ?_
    rw [hf] at htr
    cases htr
  | pend hpn hold hin => exact h.setRow hin
  | @watch sh now th row hrow hfr =>
    refine h.setRow ?_
    rw [markDisconnected_connectorId, markDisconnected_network]
    exact h.attached sh row hrow
  | deleteShield hrow hl hfr => exact { h with attached := forall_lookup_erase h.attached }
  | setCall hc => exact hc.registry h
  | endCall => exact h.endCall _
  | @activate id sn now e row he hp hrow =>
    have hend := h.endCall id
    exact { hend with attached := forall_lookup_insert h.attached (h.attached _ row hrow) }
  | @writeHealth id r row row' hr hrow hr' hfr =>
    obtain ⟨status, -, hm, ht, rfl⟩ := Report.row_eq_some hr'
    refine Registry.endCall (h.setRow ?_) id
    rcases ht with hsm | ht
    · rw [← hsm]
      exact h.attached _ row hrow
    · obtain ⟨c, hc, -⟩ := (Option.any_eq_true ..).1 ht
      simp only [healthMatches, Bool.and_eq_true, beq_iff_eq] at hm
      refine inNetwork_eq_true.2 ⟨c, hc, ((h.named id _ _ hr rfl).2 c hc).trans ?_⟩
      exact Prod.ext hm.1.1.1 hm.1.1.2
  | @commitShield id sh row hsh hrow =>
    have hend := h.endCall id
    exact { hend with attached := forall_lookup_insert h.attached (h.attached sh row hrow) }
  | @commitNext id r sh rest row hr hp hsh hrow =>
    have hn : Registry (s.setCall id
      (.revokeConnector { r with shields := rest, phase := .updated })) := h.resume hr rfl
    exact { hn with attached := forall_lookup_insert h.attached (h.attached sh row hrow) }
  | @revokeConnector id r c hr hp hc =>
    have hset : Registry { s with
        connectors := s.connectors.insert r.connectorId { c with row := ⟨.revoked, true⟩ } } :=
      h.setConnector hc rfl fun _ => rfl
    have hn : Registry (State.setCall _ id (.revokeConnector { r with phase := .updated })) :=
      hset.resume hr rfl
    exact { hn with }
  | @returnTrue id r hr hp hnil =>
    have hend := h.endCall id
    exact { hend with }
  | @cascade id ten con c hd hc hm hfr =>
    have hend := h.endCall id
    refine { hend with attached := fun k r hr => ?_, known := ?_, marked := ?_, named := ?_ }
    · obtain ⟨hr, hne⟩ := lookup_retain_eq_some.1 hr
      obtain ⟨d, hd, hdn⟩ := inNetwork_eq_true.1 (h.attached k r hr)
      exact inNetwork_eq_true.2 ⟨d, lookup_erase_eq_some.2 ⟨hd, bne_iff_ne.1 hne⟩, hdn⟩
    · exact forall_lookup_erase h.known
    · exact forall_lookup_erase h.marked
    · intro i call p hi hp
      obtain ⟨hk, hnet⟩ := hend.named i call p hi hp
      exact ⟨hk, fun d hd => hnet d (lookup_erase_eq_some.1 hd).1⟩

/-! ### The invariant -/

structure OrderlyInv (s : State) : Prop where
  /-- who has found a connector active, of a network, has not been left without one -/
  served : ∀ i call n, s.calls.lookup i = some call → call.reliesIn = some n →
    ¬NoneLive s.connectors n
  alone : ∀ i j ci cj n, s.calls.lookup i = some ci → s.calls.lookup j = some cj →
    ci.revokesIn = some n → cj.reliesIn ≠ some n ∧ (cj.revokesIn = some n → i = j)
  revoking : ∀ i r, s.calls.lookup i = some (.revokeConnector r) →
    RevokeOk s.connectors s.shields r
  silent : NoneSilent s

lemma orderlyInv_start : OrderlyInv start where
  served := by rintro _ _ _ ⟨⟩
  alone := by rintro _ _ _ _ _ ⟨⟩
  revoking := by rintro _ _ ⟨⟩
  silent := fun n hn => absurd hn (Finset.notMem_empty n)

section Steps

variable {s s' : State} {id : CallId}

lemma NoneSilent.mono (h : NoneSilent s) (hs : s'.settled = s.settled)
    (hm : Mild s.connectors s'.connectors)
    (hq : ∀ n, ¬NoneLive s.connectors n ∨ Quieter n s.shields s'.shields) : NoneSilent s' := by
  intro n hn hnn
  rw [hs] at hn
  have hn' := hm.noneLive hnn
  have hqt := (hq n).resolve_left (not_not_intro hn')
  refine listed_nil.1 ((listed_nil.2 (h n hn hn')).mono hqt fun _ _ hsm => ?_)
  exact hm.attachedToRevoked hsm

lemma OrderlyInv.tables (h : OrderlyInv s) (hc : s'.calls = s.calls)
    (hs : s'.settled = s.settled) (hm : Mild s.connectors s'.connectors)
    (hq : ∀ n, Quieter n s.shields s'.shields) : OrderlyInv s' where
  served := fun i call n hi hr hn => by
    rw [hc] at hi
    exact h.served i call n hi hr (hm.noneLive hn)
  alone := by
    rw [hc]
    exact h.alone
  revoking := fun i r hi => by
    rw [hc] at hi
    exact (h.revoking i r hi).mono hm (hq _)
  silent := h.silent.mono hs hm fun n => .inr (hq n)

lemma OrderlyInv.endCall (h : OrderlyInv s) (id : CallId) : OrderlyInv (s.endCall id) where
  served := fun i call n hi => h.served i call n (lookup_erase_eq_some.1 hi).1
  alone := fun i j ci cj n hi hj =>
    h.alone i j ci cj n (lookup_erase_eq_some.1 hi).1 (lookup_erase_eq_some.1 hj).1
  revoking := fun i r hi => h.revoking i r (lookup_erase_eq_some.1 hi).1
  silent := h.silent

lemma OrderlyInv.relied (h : OrderlyInv s) {call m} (hcll : s.calls.lookup id = some call)
    (hr : call.reliesIn = some m) (hcl : s'.calls = s.calls.erase id)
    (hs : s'.settled = s.settled) (hc : s'.connectors = s.connectors)
    (hq : ∀ n, n ≠ m → Quieter n s.shields s'.shields) : OrderlyInv s' where
  served := by
    rw [hcl, hc]
    exact (h.endCall id).served
  alone := by
    rw [hcl]
    exact (h.endCall id).alone
  revoking := fun i r hi => by
    rw [hcl] at hi
    obtain ⟨hi, -⟩ := lookup_erase_eq_some.1 hi
    rw [hc]
    refine (h.revoking i r hi).mono .refl (hq _ ?_)
    rintro rfl
    exact (h.alone i id _ call _ hi hcll rfl).1 hr
  silent := by
    refine h.silent.mono hs (hc ▸ .refl) fun n => ?_
    by_cases hn : n = m
    · exact .inl (hn ▸ h.served id call m hcll hr)
    · exact .inr (hq n hn)

lemma OrderlyInv.setCall (h : OrderlyInv s) {call : Call}
    (hrl : ∀ n, call.reliesIn = some n → ¬NoneLive s.connectors n ∧
      call.revokesIn = none ∧ All s.calls fun c => c.revokesIn ≠ some n)
    (hr : ∀ n, call.revokesIn = some n → call.reliesIn = none ∧
      ∀ j cj, s.calls.lookup j = some cj → j ≠ id → cj.reliesIn ≠ some n ∧ cj.revokesIn ≠ some n)
    (hok : ∀ r, call = .revokeConnector r → RevokeOk s.connectors s.shields r) :
    OrderlyInv (s.setCall id call) where
  served := by
    intro i c n hi hrel
    rcases lookup_insert_eq_some.1 hi with ⟨rfl, rfl⟩ | ⟨-, hi'⟩
    · exact (hrl n hrel).1
    · exact h.served i c n hi' hrel
  alone := by
    intro i j ci cj n hi hj hrev
    rcases lookup_insert_eq_some.1 hi with ⟨rfl, rfl⟩ | ⟨hne, hi'⟩ <;>
      rcases lookup_insert_eq_some.1 hj with ⟨rfl, rfl⟩ | ⟨hne', hj'⟩
    · exact ⟨by simp [(hr n hrev).1], fun _ => rfl⟩
    · obtain ⟨hrel, hr'⟩ := (hr n hrev).2 j cj hj' hne'
      exact ⟨hrel, fun hj => absurd hj hr'⟩
    · refine ⟨fun hrel => (hrl n hrel).2.2 i ci hi' hrev, fun hr' => ?_⟩
      exact absurd hrev ((hr n hr').2 i ci hi' hne).2
    · exact h.alone i j ci cj n hi' hj' hrev
  revoking := by
    intro i r hi
    rcases lookup_insert_eq_some.1 hi with ⟨rfl, heq⟩ | ⟨-, hi'⟩
    · exact hok r heq.symm
    · exact h.revoking i r hi'
  silent := h.silent

lemma OrderlyInv.resume (h : OrderlyInv s) (hr : s.calls.lookup id = some (.revokeConnector r))
    (hn : r'.network = r.network) (hok : RevokeOk s.connectors s.shields r') :
    OrderlyInv (s.setCall id (.revokeConnector r')) := by
  refine h.setCall (by rintro _ ⟨⟩) (fun n hrev => ⟨rfl, fun j cj hj hne => ?_⟩) ?_
  · cases hrev
    obtain ⟨hrel, hs⟩ := h.alone id j _ cj _ hr hj rfl
    rw [hn]
    exact ⟨hrel, fun hr' => hne (hs hr').symm⟩
  · rintro _ ⟨⟩
    exact hok

end Steps

/-! ### The steps -/

/-- What `StrandedShields` finds is all there is, where no other connector can take over and no
shield has been left behind before. -/
lemma revokeOk_checked {s : State} {con : ConnectorId} {c : Connector}
    (hl : otherLive s.connectors c.network con = true ∨
      NoneStranded s.connectors s.shields c.network) :
    RevokeOk s.connectors s.shields ⟨con, c.tenantId, c.network,
      strandedShields s.connectors s.shields c.tenantId con, .checked⟩ where
  tenant := rfl
  checked := fun _ => by
    cases ho : otherLive s.connectors c.network con with
    | true => exact .inl rfl
    | false =>
      refine .inr fun sh row hrow hn hlv hp => ?_
      rcases Bool.or_eq_true_iff.1 hp with hr | hc
      · rw [ho, or_iff_right (by simp)] at hl
        rw [hl sh row hrow hn hlv] at hr
        cases hr
      · have ht : row.tenantId = c.tenantId := congrArg Prod.fst hn
        have hnt : (c.tenantId, row.remoteNetworkId) = c.network := ht ▸ hn
        refine mem_keys_retain.2 ⟨row, hrow, ?_⟩
        simp [ht, beq_iff_eq.1 hc, hlv, hnt, ho]
  updated := fun hne => absurd rfl hne

lemma Registry.not_noneLive {s} (h : Registry s) {i c} (hc : s.connectors.lookup i = some c)
    (ha : c.row.status = .active) : ¬NoneLive s.connectors c.network := by
  intro hn
  have hm : c.row.revokedAt = false := by
    by_contra hm
    rw [h.marked i c hc (by simpa using hm)] at ha
    cases ha
  have hl := hn i c hc rfl
  simp [Connector.live, ha, hm] at hl

lemma Enters.orderlyInv {s id call} (hc : Enters s id a call) (h : OrderlyInv s)
    (hreg : Registry s) (hok : Orderly s a) : OrderlyInv (s.setCall id call) := by
  cases hc with
  | @loadConnector e c he hp hc ha =>
    simp only [enrollConnectorActive, Bool.and_eq_true, beq_iff_eq] at ha
    have hnt : c.network = e.claims.network := Prod.ext ha.1.1 ha.1.2
    refine h.setCall (fun n hrel => ?_) (by rintro _ ⟨⟩) (by rintro _ ⟨⟩)
    cases hrel
    refine ⟨hnt ▸ hreg.not_noneLive hc ha.2, rfl, hok.2 _ ?_⟩
    simp [Action.reliesIn, Tables.enrollmentIn, Locking.enrollment, he, hp]
  | @readHealth con u c row hc hm =>
    simp only [healthMatches, Bool.and_eq_true, beq_iff_eq] at hm
    refine h.setCall (fun n hrel => ?_) (by rintro _ ⟨⟩) (by rintro _ ⟨⟩)
    cases hrel
    refine ⟨hreg.not_noneLive hc hm.1.2, rfl, hok.2 _ ?_⟩
    simp [Action.reliesIn, hc]
  | @strandedShields con also c hc =>
    obtain ⟨hnb, hl⟩ := hok.1 (con, c.network) (by simp [Action.checks, hc])
    refine h.setCall (by rintro _ ⟨⟩) (fun n hrev => ⟨rfl, fun j cj hj _ => ?_⟩) ?_
    · cases hrev
      exact (hnb j cj hj).symm
    · rintro _ ⟨⟩
      exact revokeOk_checked hl
  | @revokeNext r sh rest hr hp hsh hf =>
    have hr' := h.revoking id r hr
    exact h.resume hr rfl ⟨hr'.tenant, by simp, fun _ => hr'.updated (by simp [hp])⟩
  | @skip r sh rest hr hp hsh hrow =>
    have hr' := h.revoking id r hr
    have hne : r.phase ≠ .checked := by simp [hp]
    refine h.resume hr rfl (hr'.drop hne hne hsh fun row hk hn => ?_)
    -- a row of the workspace that is not revocable is not enrolled
    have ht : row.tenantId = r.tenantId := (congrArg Prod.fst hn).trans hr'.tenant
    have hnot := hrow row hk
    simpa only [revocable, ht, beq_self_eq_true, Bool.true_and, ShieldRow.live] using hnot
  | _ => exact h.setCall (by rintro _ ⟨⟩) (by rintro _ ⟨⟩) (by rintro _ ⟨⟩)

/-! A connector of the network `m` is revoked: other networks do not see it. -/

section Revoke

variable {s : State} {i : ConnectorId} {c c' : Connector} {n : Network} {row : ShieldRow}

lemma noneLive_of_insert (hc : s.connectors.lookup i = some c) (hn : n ≠ c.network)
    (hnn : NoneLive (s.connectors.insert i c') n) : NoneLive s.connectors n := by
  intro k d hd hdn
  refine hnn k d (lookup_insert_eq_some.2 (.inr ⟨?_, hd⟩)) hdn
  rintro rfl
  cases hc.symm.trans hd
  exact hn hdn.symm

lemma otherLive_insert {k} (hc : s.connectors.lookup i = some c) (hn : n ≠ c.network ∨ k = i)
    (ho : otherLive s.connectors n k = true) : otherLive (s.connectors.insert i c') n k = true := by
  obtain ⟨j, d, hd, hdn, hne, hl⟩ := otherLive_eq_true.1 ho
  refine otherLive_eq_true.2 ⟨j, d, lookup_insert_eq_some.2 (.inr ⟨?_, hd⟩), hdn, hne, hl⟩
  rintro rfl
  cases hc.symm.trans hd
  exact hn.elim (fun hn => hn hdn.symm) fun hk => hne hk.symm

lemma attachedToRevoked_insert (hne : row.connectorId ≠ i) :
    attachedToRevoked (s.connectors.insert i c') row = attachedToRevoked s.connectors row := by
  unfold attachedToRevoked
  rw [lookup_insert_ne hne]

lemma Registry.connectorId_ne (h : Registry s) {sh} (hr : s.shields.lookup sh = some row)
    (hc : s.connectors.lookup i = some c) (hn : row.network ≠ c.network) : row.connectorId ≠ i := by
  rintro rfl
  obtain ⟨d, hd, hdn⟩ := inNetwork_eq_true.1 (h.attached sh row hr)
  cases hc.symm.trans hd
  exact hn hdn.symm

lemma Listed.insert {p p' : ShieldRow → Bool} {list} (h : Listed s.shields n p list)
    (hreg : Registry s) (hc : s.connectors.lookup i = some c) (hn : n ≠ c.network)
    (hp : ∀ row, row.connectorId ≠ i → p' row = true → p row = true) :
    Listed s.shields n p' list := by
  intro sh row hr hrn hl hp'
  exact h sh row hr hrn hl (hp row (hreg.connectorId_ne hr hc (hrn ▸ hn)) hp')

lemma RevokeOk.insert (h : RevokeOk s.connectors s.shields r) (hreg : Registry s)
    (hc : s.connectors.lookup i = some c) (hn : r.network ≠ c.network) :
    RevokeOk (s.connectors.insert i c') s.shields r where
  tenant := h.tenant
  checked := fun hp => by
    refine (h.checked hp).imp (otherLive_insert hc (.inl hn)) fun hl => hl.insert hreg hc hn ?_
    intro row hne hr
    rwa [attachedToRevoked_insert hne] at hr
  updated := fun hp hnn => by
    refine (h.updated hp (noneLive_of_insert hc hn hnn)).insert hreg hc hn fun row hne hr => ?_
    rwa [attachedToRevoked_insert hne] at hr

lemma RevokeOk.update (h : RevokeOk s.connectors s.shields r) (hp : r.phase = .checked)
    (hc : s.connectors.lookup r.connectorId = some c) :
    RevokeOk (s.connectors.insert r.connectorId c') s.shields { r with phase := .updated } where
  tenant := h.tenant
  checked := by simp
  updated := fun _ hnn => by
    rcases h.checked hp with ho | hl
    · have ho' : otherLive (s.connectors.insert r.connectorId c') r.network r.connectorId =
          true := otherLive_insert hc (.inr rfl) ho
      obtain ⟨k, d, hd, hdn, -, hlv⟩ := otherLive_eq_true.1 ho'
      rw [hnn k d hd hdn] at hlv
      cases hlv
    · intro sh row hrow hn hlv hr
      refine hl sh row hrow hn hlv ?_
      by_cases hne : row.connectorId = r.connectorId
      · simp [hne]
      · rw [attachedToRevoked_insert hne] at hr
        simp [hr]

lemma OrderlyInv.revokeConnector {id} (h : OrderlyInv s) (hreg : Registry s)
    (hr : s.calls.lookup id = some (.revokeConnector r)) (hp : r.phase = .checked)
    (hc : s.connectors.lookup r.connectorId = some c) :
    OrderlyInv { s.setCall id (.revokeConnector { r with phase := .updated }) with
      connectors := s.connectors.insert r.connectorId c'
      settled := s.settled.erase c.network } := by
  have hnt : c.network = r.network := (hreg.named id _ _ hr rfl).2 c hc
  refine ⟨fun j cj n hj hrel hnn => ?_, ?_, fun j rj hj => ?_, fun n hn hnn => ?_⟩
  · rcases lookup_insert_eq_some.1 hj with ⟨rfl, rfl⟩ | ⟨-, hj'⟩
    · cases hrel
    · refine h.served j cj n hj' hrel (noneLive_of_insert hc ?_ hnn)
      rintro rfl
      exact (h.alone id j _ cj _ hr hj' rfl).1 (hnt ▸ hrel)
  · intro i j ci cj n hi hj hrev
    rcases lookup_insert_eq_some.1 hi with ⟨rfl, rfl⟩ | ⟨-, hi'⟩ <;>
      rcases lookup_insert_eq_some.1 hj with ⟨rfl, rfl⟩ | ⟨-, hj'⟩
    · exact ⟨by rintro ⟨⟩, fun _ => rfl⟩
    · exact h.alone i j _ cj n hr hj' hrev
    · refine ⟨by rintro ⟨⟩, fun hr' => ?_⟩
      exact (h.alone i j ci _ n hi' hr hrev).2 hr'
    · exact h.alone i j ci cj n hi' hj' hrev
  · rcases lookup_insert_eq_some.1 hj with ⟨rfl, heq⟩ | ⟨hne, hj'⟩
    · cases heq
      exact (h.revoking j r hr).update hp hc
    · refine (h.revoking j rj hj').insert hreg hc fun hsm => hne ?_
      exact ((h.alone id j _ _ _ hr hj' rfl).2 (congrArg some (hsm.trans hnt))).symm
  · obtain ⟨hne, hn⟩ := Finset.mem_erase.1 hn
    have hs := h.silent n hn (noneLive_of_insert hc hne hnn)
    refine listed_nil.1 ((listed_nil.2 hs).insert hreg hc hne fun row hrow hrv => ?_)
    rwa [attachedToRevoked_insert hrow] at hrv

end Revoke

lemma mild_connector {s} (hreg : Registry s) {i c row} (hc : s.connectors.lookup i = some c)
    (hrv : st ≠ .revoke) (hm : st.matchesRow c.row = true) (ha : st.apply c.row = some row) :
    Mild s.connectors (s.connectors.insert i { c with row := row }) := by
  obtain ⟨hmr, hs⟩ := apply_live (hreg.marked i c hc) hrv hm ha
  refine ⟨fun k d hd hr => ?_, fun k d hd hl => ?_⟩
  · rcases lookup_insert_eq_some.1 hd with ⟨rfl, rfl⟩ | ⟨-, hd'⟩
    · rcases hs with hs | hs <;> simp [Connector.revoked, hmr, hs] at hr
    · exact ⟨d, hd', hr⟩
  · by_cases hk : k = i
    · subst hk
      cases hc.symm.trans hd
      refine ⟨_, lookup_insert _, ?_, rfl⟩
      rcases hs with hs | hs <;> simp [Connector.live, hmr, hs]
    · exact ⟨d, (lookup_insert_ne hk).trans hd, hl, rfl⟩

lemma mild_addConnector {s} (hreg : Registry s) {i c} (hn : i ∉ s.connectorIds)
    (hc : c.revoked = false) : Mild s.connectors (s.connectors.insert i c) := by
  refine ⟨fun k d hd hr => ?_, fun k d hd hl => ⟨d, ?_, hl, rfl⟩⟩
  · rcases lookup_insert_eq_some.1 hd with ⟨rfl, rfl⟩ | ⟨-, hd'⟩
    · rw [hc] at hr
      cases hr
    · exact ⟨d, hd', hr⟩
  · refine (lookup_insert_ne ?_).trans hd
    rintro rfl
    exact hn (hreg.known k d hd)

lemma mild_erase {s : State} {i : ConnectorId} {c : Connector}
    (hc : s.connectors.lookup i = some c)
    (hm : ConnectorRow.Statement.delete.matchesRow c.row = true) :
    Mild s.connectors (s.connectors.erase i) := by
  refine ⟨fun k d hd hr => ⟨d, (lookup_erase_eq_some.1 hd).1, hr⟩,
    fun k d hd hl => ⟨d, lookup_erase_eq_some.2 ⟨hd, ?_⟩, hl, rfl⟩⟩
  rintro rfl
  cases hc.symm.trans hd
  simp only [ConnectorRow.Statement.matchesRow, Bool.or_eq_true, beq_iff_eq] at hm
  rcases hm with hs | hs <;> simp [Connector.live, hs] at hl

lemma quieter_revoke {s : State} {sh : ShieldId} {row : ShieldRow} (n : Network) :
    Quieter n s.shields (s.commitRevoke sh row).shields := quieter_insert (by rintro _ ⟨⟩)

lemma Step.orderlyInv {s s' : State} (hs : Step s a s') (h : OrderlyInv s) (hreg : Registry s)
    (hlc : Locks s.calls s.shields) (hok : Orderly s a) : OrderlyInv s' := by
  cases hs with
  | idle => exact h
  | workspace => exact h.tables rfl rfl .refl fun _ => .refl
  | addConnector hnew => exact h.tables rfl rfl (mild_addConnector hreg hnew rfl) fun _ => .refl
  | connector hc hrv hm hap =>
    exact h.tables rfl rfl (mild_connector hreg hc hrv hm hap) fun _ => .refl
  | pend hpn hold hin =>
    refine h.tables rfl rfl .refl fun n => quieter_insert fun _ hlv => ?_
    simp [ShieldRow.live, hpn] at hlv
  | @watch sh now th row hrow hf =>
    refine h.tables rfl rfl .refl fun n => quieter_insert fun hn hlv => ?_
    rw [markDisconnected_network] at hn
    rw [markDisconnected_live] at hlv
    exact ⟨row, hrow, hn, hlv, (markDisconnected_connectorId ..).symm⟩
  | deleteShield hrow hlv hf =>
    exact h.tables rfl rfl .refl fun n =>
      quieter_of_lookup fun _ _ hr => (lookup_erase_eq_some.1 hr).1
  | setCall hc => exact hc.orderlyInv h hreg hok
  | endCall => exact h.endCall _
  | @activate id sn now e row he hp hrow =>
    obtain ⟨r, hr, -, ha⟩ := hlc.claimed id e he (by simp [hp])
    cases hrow.symm.trans hr
    simp only [claimAgrees, Bool.and_eq_true, beq_iff_eq] at ha
    have hnt : row.network = e.claims.network := Prod.ext ha.1.1.1 ha.1.2
    refine h.relied he (if_pos hp) rfl rfl rfl fun n hn => quieter_insert fun hrn _ => ?_
    exact absurd (hrn.symm.trans hnt) hn
  | @writeHealth id r row row' hr hrow hr' hf =>
    obtain ⟨st, -, hm, -, rfl⟩ := Report.row_eq_some hr'
    simp only [healthMatches, Bool.and_eq_true, beq_iff_eq] at hm
    have hnt : r.connector.network = row.network := Prod.ext hm.1.1.1 hm.1.1.2
    refine h.relied hr rfl rfl rfl rfl fun n hn => quieter_insert fun hrn _ => ?_
    exact absurd (hrn.symm.trans hnt.symm) hn
  | @commitShield id sh row hsh hrow =>
    have ht : OrderlyInv (s.commitRevoke sh row) := h.tables rfl rfl .refl quieter_revoke
    exact ht.endCall id
  | @commitNext id r sh rest row hr hp hsh hrow =>
    have ht : OrderlyInv (s.commitRevoke sh row) := h.tables rfl rfl .refl quieter_revoke
    refine ht.resume hr rfl ((ht.revoking id r hr).drop (by simp [hp]) (by simp) hsh ?_)
    intro row' hr' _
    rcases lookup_insert_eq_some.1 hr' with ⟨-, rfl⟩ | ⟨hne, -⟩
    · rfl
    · exact absurd rfl hne
  | revokeConnector hr hp hc => exact h.revokeConnector hreg hr hp hc
  | @returnTrue id r hr hp hnil =>
    have hend := h.endCall id
    refine { hend with silent := fun n hn hnn => ?_ }
    rcases Finset.mem_insert.1 hn with rfl | hn
    · have hl := (h.revoking id r hr).updated (by simp [hp]) hnn
      rw [hnil] at hl
      exact listed_nil.1 hl
    · exact h.silent n hn hnn
  | @cascade id ten con c hd hc hm hf =>
    have ht : OrderlyInv { s with
        connectors := s.connectors.erase con
        shields := retain s.shields fun _ row => row.connectorId != con } :=
      h.tables rfl rfl (mild_erase hc hm) fun n =>
        quieter_of_lookup fun _ _ hr => (lookup_retain_eq_some.1 hr).1
    exact ht.endCall id

/-! ### The result -/

/-- In every run in which a revocation of a connector overlaps with no other one in its network
and with no enrollment or status report that relies on a connector there, and begins on the last
connector only when no enrolled shield is attached to one that was revoked before: where the last
revocation has returned true and no connector is left, no shield is stranded. -/
theorem none_stranded_silently {acts : List Action} (h : Meets step Orderly start acts) :
    Always step (fun _ _ s' => NoneSilent s') start acts := by
  have hst : ∀ s a s', Locks s.calls s.shields ∧ Registry s ∧ OrderlyInv s → Orderly s a →
      step s a = some s' → Locks s'.calls s'.shields ∧ Registry s' ∧ OrderlyInv s' := by
    rintro s a s' ⟨hl, hr, hi⟩ hok hs
    have hc := step_cases hs
    exact ⟨hc.locks hl, hc.registry hr, hc.orderlyInv hi hr hl hok⟩
  refine always_of_meets hst (fun s a s' hi hok hs => ?_)
    ⟨.empty, registry_start, orderlyInv_start⟩ h
  exact (hst s a s' hi hok hs).2.2.silent

/-- Two connectors, and a shield that is enrolled through the first. -/
def twoConnectors : List Action :=
  [Action.workspace "t" true] ++ addActive "c" ++ addActive "d" ++ enrollUntilActive 0 "sh" "c" ++
    [Action.activate 0 7 0]

/-- The first connector is revoked, the shield moves to the second, and this is revoked with it. -/
def movedThenRevoked : List Action :=
  twoConnectors ++
    [Action.strandedShields 1 "t" "c" false, .revokeConnector 1, .returnTrue 1,
      .readHealth 2 "d" ⟨"sh", "active", "1.0", 5⟩, .writeHealth 2, .strandedShields 3 "t" "d" true,
      .revokeConnector 3, .revokeNext 3, .commitNext 3, .returnTrue 3]

theorem none_stranded_silently_movedThenRevoked :
    Meets step Orderly start movedThenRevoked ∧
      Always step (fun _ _ s' => NoneSilent s') start movedThenRevoked ∧
      (exec step start movedThenRevoked).any (fun s => decide (("t", "n") ∈ s.settled) &&
        decide (NoneLive s.connectors ("t", "n")) && decide ("sh" ∈ s.tombstones)) = true := by
  have h : Meets step Orderly start movedThenRevoked := by decide +kernel
  exact ⟨h, none_stranded_silently h, by decide +kernel⟩

/-- Both connectors are revoked, one after the other, before the shield has moved. -/
def revokedInTurn : List Action :=
  twoConnectors ++
    [Action.strandedShields 1 "t" "c" false, .revokeConnector 1, .returnTrue 1,
      .strandedShields 2 "t" "d" false, .revokeConnector 2, .returnTrue 2]

/-- Neither call is refused, and the shield is left enrolled at a revoked connector, with no other
one in its network. -/
theorem shield_stranded_silently : ∃ s, exec step start revokedInTurn = some s ∧ ¬NoneSilent s := by
  decide +kernel

end Zecurity.ConnectorRemoval
