import Zecurity.TransportMaps

/-!
Changes of the configuration while the client's tunnel is up (`client/src/daemon.rs`,
`effective_config`, `classify_applied`, `plan_resource_apply`, `hot_apply_transport_map`,
`hot_apply_resources`, `run_restart_decision`, `handle_up`, `handle_down`).

The data plane is four things: the keys with listeners, the capture rules, the routes and the
transport map. A restart builds them from the snapshots; a hot apply changes them by the
difference of two effective configurations, which leave out the order of the entries and that of
the connectors that are not preferred. Conflicts of the name map are forgotten by a restart only.
-/

namespace Zecurity.HotApply

open Acl FakeAddresses FiniteMap List Runs TransportMaps

structure DeviceInfo where
  spiffeId : String
  certificatePem : String
  privateKeyPem : String
  tpmKeyMaterial : Option String
  caCertPem : String

structure Snapshots where
  acl : AclSnapshot
  transport : Option TransportSnapshot
  device : DeviceInfo

structure AppliedEntry where
  address : String
  port : UInt32
  protocol : String
  remoteNetworkId : String
  preferredConnectorId : String
  coords : List ConnCoords
  deriving DecidableEq

structure AppliedConfig where
  spiffeId : String
  certificatePem : String
  privateKeyPem : String
  tpmKeyMaterial : Option String
  caCertPem : String
  entries : List AppliedEntry
  deriving DecidableEq

/-! ### Effective configurations -/

def coordsLe (a b : ConnCoords) : Prop :=
  ((compare a.connectorId b.connectorId).then
    ((compare a.connectorTunnelAddr b.connectorTunnelAddr).then
      (compare a.relayAddr b.relayAddr))).isLE = true

/-- On the address, the port, the protocol and the network. -/
def compareEntries (a b : AppliedEntry) : Ordering :=
  (compare a.address b.address).then ((compare a.port b.port).then
    ((compare a.protocol b.protocol).then (compare a.remoteNetworkId b.remoteNetworkId)))

def entryLe (a b : AppliedEntry) : Prop :=
  ((compareEntries a b).then (compare a.preferredConnectorId b.preferredConnectorId)).isLE = true

def viewLe (a b : AppliedEntry) : Prop := (compareEntries a b).isLE = true

instance : DecidableRel coordsLe := fun _ _ => inferInstanceAs (Decidable (_ = _))
instance : DecidableRel entryLe := fun _ _ => inferInstanceAs (Decidable (_ = _))
instance : DecidableRel viewLe := fun _ _ => inferInstanceAs (Decidable (_ = _))

/-- The coordinates sorted, but for a preferred connector that comes first. -/
def sortCoords (preferred : String) : List ConnCoords → List ConnCoords
  | [] => []
  | c :: cs =>
    if !preferred.isEmpty && c.connectorId == preferred then c :: cs.insertionSort coordsLe
    else (c :: cs).insertionSort coordsLe

def appliedEntry (p : Planes) (e : AclEntry) : AppliedEntry where
  address := e.address
  port := e.port
  protocol := e.protocol
  remoteNetworkId := e.remoteNetworkId
  preferredConnectorId := e.preferredConnectorId
  coords := sortCoords e.preferredConnectorId (resolveEntryCoords p e)

namespace Snapshots

def planes (s : Snapshots) : Planes :=
  TransportMaps.planes s.acl.remoteNetworks (revokedConnectorIds s.acl) s.transport

def entries (s : Snapshots) : List AclEntry := allowedEntriesFor s.acl s.device.spiffeId

def effectiveConfig (s : Snapshots) : AppliedConfig where
  spiffeId := s.device.spiffeId
  certificatePem := s.device.certificatePem
  privateKeyPem := s.device.privateKeyPem
  tpmKeyMaterial := s.device.tpmKeyMaterial
  caCertPem := s.device.caCertPem
  entries := (s.entries.map (appliedEntry s.planes)).insertionSort entryLe

end Snapshots

inductive ConfigDelta
  | noChange
  | transportOnly
  | resourceDelta
  | structural

/-- The configuration with the fields of the connectors blanked. -/
def structuralView (cfg : AppliedConfig) : AppliedConfig :=
  { cfg with
    entries := (cfg.entries.map fun e =>
      { e with preferredConnectorId := "", coords := [] }).insertionSort viewLe }

def AppliedEntry.key (e : AppliedEntry) : String × UInt32 × String :=
  (e.address, e.port, e.protocol)

/-- `remote_networks_by_entry_key` at one key; empty where there is no entry. -/
def remoteNetworksAt (entries : List AppliedEntry) (key : String × UInt32 × String) :
    Finset String :=
  ((entries.filter fun e => e.key = key).map (·.remoteNetworkId)).toFinset

def resourceDeltaAllowed (applied candidate : AppliedConfig) : Bool :=
  decide ({ applied with entries := [] } = { candidate with entries := [] }) &&
    applied.entries.all fun e =>
      remoteNetworksAt candidate.entries e.key = ∅ ||
        remoteNetworksAt candidate.entries e.key = remoteNetworksAt applied.entries e.key

def classifyApplied (applied candidate : AppliedConfig) : ConfigDelta :=
  if candidate = applied then .noChange
  else if structuralView candidate = structuralView applied then .transportOnly
  else if resourceDeltaAllowed applied candidate then .resourceDelta
  else .structural

/-! ### The plan -/

structure ResourcePlan where
  removed : Finset ResourceKey
  added : Finset ResourceKey
  addrDel : Finset Ipv4Addr
  addrAdd : Finset Ipv4Addr
  flowsAfterRemoval : Finset ResourceKey
  flowsAfter : Finset ResourceKey
  target : AppliedConfig

def routableKeys (nm : NameMap) (cfg : AppliedConfig) : List ResourceKey × NameMap :=
  filterMapWith (fun nm e => routableKey nm e.address e.protocol e.port) nm cfg.entries

def ipsOf (keys : Finset ResourceKey) : Finset Ipv4Addr := keys.image Prod.fst

def planOf (appliedKeys candKeys : Finset ResourceKey) (candidate : AppliedConfig) :
    ResourcePlan where
  removed := appliedKeys \ candKeys
  added := candKeys \ appliedKeys
  addrDel := ipsOf appliedKeys \ ipsOf candKeys
  addrAdd := ipsOf candKeys \ ipsOf appliedKeys
  flowsAfterRemoval := appliedKeys ∩ candKeys
  flowsAfter := (appliedKeys ∩ candKeys) ∪ (candKeys \ appliedKeys)
  target := candidate

def planResourceApply (nm : NameMap) (applied candidate : AppliedConfig) : ResourcePlan × NameMap :=
  let a := routableKeys nm applied
  let c := routableKeys a.2 candidate
  (planOf a.1.toFinset c.1.toFinset candidate, c.2)

/-! ### The data plane -/

structure Plane where
  listening : Finset ResourceKey
  nft : Finset ResourceKey
  routes : Finset Ipv4Addr
  transports : TransportMap ConnCoords

abbrev FlowId := ℕ

structure Tunnel where
  applied : AppliedConfig
  plane : Plane
  flows : Map FlowId ResourceKey

/-- `new_listen_pool`: nothing listens at port 0. -/
def canListen (k : ResourceKey) : Bool := k.2 != 0

/-- `build_transport_from_coords`, as the resolver and the key material have it this time. -/
def buildWith (fails : ConnCoords → Bool) (c : ConnCoords) : Except Unit ConnCoords :=
  if fails c then .error () else .ok c

def buildMap (fails : ConnCoords → Bool) (nm : NameMap) (s : Snapshots) :
    NameMap × Except Unit (TransportMap ConnCoords) :=
  buildTransportsByResourceWithCrl (buildWith fails) nm s.entries s.acl.remoteNetworks
    (revokedConnectorIds s.acl) s.transport

/-- The keys of the allowed entries, in `up_preflight` and in `net_stack::run`. -/
def entryKeys (nm : NameMap) (s : Snapshots) : List ResourceKey × NameMap :=
  filterMapWith (fun nm e => routableKey nm e.address e.protocol e.port) nm s.entries

/-- What goes wrong in one pass. -/
structure Faults where
  /-- the coordinates that no transport can be built for -/
  build : ConnCoords → Bool
  /-- a step after the build: the device, a route, a rule, a command -/
  mutation : Bool

def noFaults : Faults := ⟨fun _ => false, false⟩

def handleUp (f : Faults) (nm : NameMap) (s : Snapshots) : NameMap × Option Tunnel :=
  let flows := entryKeys nm s
  match buildMap f.build flows.2 s with
  | (nm', .error ()) => (nm', none)
  | (nm', .ok map) =>
    if f.mutation then (nm', none)
    else
      -- `net_stack::run` asks for the keys again
      let resources := entryKeys nm' s
      (resources.2, some
        { applied := s.effectiveConfig
          plane :=
            { listening := resources.1.toFinset.filter fun k => canListen k
              nft := flows.1.toFinset
              routes := ipsOf flows.1.toFinset
              transports := map }
          flows := ∅ })

def handleDown (nm : NameMap) : NameMap := (nm.setActive ∅).clearConflicts

/-- What the tunnel would be after a restart in which nothing goes wrong. -/
def restart (nm : NameMap) (s : Snapshots) : Option Tunnel :=
  (handleUp noFaults (handleDown nm) s).2

/-- The mutation of `hot_apply_resources`. -/
def applyPlan (plan : ResourcePlan) (map : TransportMap ConnCoords) (t : Tunnel) : Tunnel :=
  let removed : Plane :=
    { listening := t.plane.listening \ plan.removed
      nft := if plan.removed = ∅ then t.plane.nft else plan.flowsAfterRemoval
      routes := t.plane.routes \ plan.addrDel
      transports := map }
  { applied := plan.target
    plane :=
      if plan.added = ∅ then removed
      else
        { removed with
          listening := removed.listening ∪ plan.added.filter fun k => canListen k
          nft := plan.flowsAfter
          routes := removed.routes ∪ plan.addrAdd }
    flows := retain t.flows fun _ k => decide (k ∉ plan.removed) }

/-! ### Runs -/

/-- What `run_restart_decision` did. -/
inductive Outcome
  | noChange
  | transportOnly
  | resourceDelta
  | failed
  | restarted
  deriving DecidableEq

def Outcome.hot : Outcome → Bool
  | .noChange | .transportOnly | .resourceDelta => true
  | .failed | .restarted => false

structure State where
  nm : NameMap
  snapshots : Snapshots
  tunnel : Option Tunnel
  /-- the outcome of the last step, if it was a decision -/
  last : Option Outcome

def start (s : Snapshots) : State := ⟨.default, s, none, none⟩

inductive Action
  | store (s : Snapshots)
  | up (f : Faults)
  | down
  /-- `dead`: the net stack has exited; `again`: what goes wrong in the restart, if there is one -/
  | decision (dead : Bool) (f again : Faults)
  | accept (id : FlowId) (k : ResourceKey)
  | endFlow (id : FlowId)

namespace State

def downUp (s : State) (again : Faults) : State :=
  let r := handleUp again (handleDown s.nm) s.snapshots
  { s with nm := r.1, tunnel := r.2, last := some .restarted }

def hotApplyTransportMap (s : State) (t : Tunnel) (f again : Faults) : State :=
  match buildMap f.build s.nm s.snapshots with
  | (nm, .error ()) => { s with nm := nm, last := some .failed }
  | (nm, .ok map) =>
    if f.mutation then { s with nm := nm }.downUp again
    else
      { s with
        nm := nm
        tunnel := some
          { t with
            applied := s.snapshots.effectiveConfig
            plane := { t.plane with transports := map } }
        last := some .transportOnly }

def hotApplyResources (s : State) (t : Tunnel) (f again : Faults) : State :=
  let plan := planResourceApply s.nm t.applied s.snapshots.effectiveConfig
  match buildMap f.build plan.2 s.snapshots with
  | (nm, .error ()) => { s with nm := nm, last := some .failed }
  | (nm, .ok map) =>
    if f.mutation then { s with nm := nm }.downUp again
    else
      { s with nm := nm, tunnel := some (applyPlan plan.1 map t), last := some .resourceDelta }

def runRestartDecision (s : State) (t : Tunnel) (dead : Bool) (f again : Faults) : State :=
  if dead then s.downUp again
  else
    match classifyApplied t.applied s.snapshots.effectiveConfig with
    | .noChange => { s with last := some .noChange }
    | .structural => s.downUp again
    | .transportOnly => s.hotApplyTransportMap t f again
    | .resourceDelta => s.hotApplyResources t f again

end State

def step (s : State) : Action → Option State
  | .store snapshots => some { s with snapshots := snapshots, last := none }
  | .up f =>
    if s.tunnel.isNone then
      let r := handleUp f s.nm s.snapshots
      some { s with nm := r.1, tunnel := r.2, last := none }
    else none
  | .down => some { s with nm := handleDown s.nm, tunnel := none, last := none }
  | .decision dead f again => s.tunnel.map fun t => s.runRestartDecision t dead f again
  | .accept id k =>
    s.tunnel.bind fun t =>
      if k ∈ t.plane.listening ∧ t.flows.lookup id = none then
        some { s with tunnel := some { t with flows := t.flows.insert id k }, last := none }
      else none
  | .endFlow id =>
    s.tunnel.map fun t =>
      { s with tunnel := some { t with flows := t.flows.erase id }, last := none }

/-! ### What a configuration comes to -/

def AppliedConfig.addresses (cfg : AppliedConfig) : List String := cfg.entries.map (·.address)

/-- The key that stands for an entry, without asking for it. -/
def keyAt (nm : NameMap) (address protocol : String) (port : UInt32) : Option ResourceKey :=
  (if routable protocol then some address else none).bind fun a =>
    (addressOf nm a).map (·, port.toUInt16)

def keysOf (nm : NameMap) (cfg : AppliedConfig) : Finset ResourceKey :=
  (cfg.entries.filterMap fun e => keyAt nm e.address e.protocol e.port).toFinset

/-- The map that stands for the snapshots, without asking for the addresses. -/
def mapAt (nm : NameMap) (s : Snapshots) : Except Unit (TransportMap ConnCoords) :=
  fill (buildWith noFaults.build) s.planes ∅ ∅
    (s.entries.filterMap fun e => (addressOf nm e.address).map (·, e))

/-- The data plane is that of the snapshots. -/
structure PlaneAt (nm : NameMap) (s : Snapshots) (p : Plane) : Prop where
  listening : p.listening = (keysOf nm s.effectiveConfig).filter fun k => canListen k
  nft : p.nft = keysOf nm s.effectiveConfig
  routes : p.routes = ipsOf (keysOf nm s.effectiveConfig)
  transports : mapAt nm s = .ok p.transports

lemma effectiveConfig_perm (s : Snapshots) :
    s.effectiveConfig.entries.Perm (s.entries.map (appliedEntry s.planes)) := perm_insertionSort _ _

lemma mem_addresses {s : Snapshots} {a : String} :
    a ∈ s.effectiveConfig.addresses ↔ ∃ e ∈ s.entries, e.address = a := by
  rw [AppliedConfig.addresses, ((effectiveConfig_perm s).map _).mem_iff, map_map, mem_map]
  rfl

lemma keysOf_effectiveConfig (nm : NameMap) (s : Snapshots) :
    keysOf nm s.effectiveConfig =
      (s.entries.filterMap fun e => keyAt nm e.address e.protocol e.port).toFinset := by
  rw [keysOf, toFinset_eq_of_perm _ _ ((effectiveConfig_perm s).filterMap _), filterMap_map]
  rfl

variable {cfg : AppliedConfig} {α : Type} {K : Finset ResourceKey} {addresses : List String}

lemma keysOf_of_structuralView {cfg'} (nm : NameMap)
    (h : structuralView cfg = structuralView cfg') : keysOf nm cfg = keysOf nm cfg' := by
  have hv : ∀ cfg : AppliedConfig, keysOf nm (structuralView cfg) = keysOf nm cfg := by
    intro cfg
    rw [keysOf, structuralView, toFinset_eq_of_perm _ _ ((perm_insertionSort _ _).filterMap _),
      filterMap_map]
    rfl
  rw [← hv cfg, h, hv cfg']

section Later

variable {nm nm' : NameMap} (hlt : Later nm nm') (h : Inverse nm)
include hlt h

lemma keyAt_later {addr proto} (port : UInt32) (hset : routable proto = true → Settled nm addr) :
    keyAt nm' addr proto port = keyAt nm addr proto port := by
  unfold keyAt
  split
  next hr => rw [Option.bind_some, Option.bind_some, hlt.addressOf h (hset hr)]
  next => rfl

lemma keysOf_later (hset : ∀ a ∈ cfg.addresses, Settled nm a) : keysOf nm' cfg = keysOf nm cfg := by
  refine congrArg List.toFinset (filterMap_congr fun e he => ?_)
  exact keyAt_later hlt h e.port fun _ => hset e.address (mem_map_of_mem he)

lemma mapAt_later {s : Snapshots} (hset : ∀ a ∈ s.effectiveConfig.addresses, Settled nm a) :
    mapAt nm' s = mapAt nm s := by
  refine congrArg (fill (buildWith noFaults.build) s.planes ∅ ∅) (filterMap_congr fun e he => ?_)
  rw [hlt.addressOf h (hset e.address (mem_addresses.2 ⟨e, he, rfl⟩))]

lemma PlaneAt.later {s p} (hp : PlaneAt nm s p)
    (hset : ∀ a ∈ s.effectiveConfig.addresses, Settled nm a) : PlaneAt nm' s p := by
  have hk := keysOf_later hlt h hset
  exact ⟨hk ▸ hp.listening, hk ▸ hp.nft, hk ▸ hp.routes,
    (mapAt_later hlt h hset).trans hp.transports⟩

end Later

/-! ### Passes -/

def Reserved (a : String) : Prop := ∃ ip, literalOf a = some ip ∧ inReservedRange ip = true

/-- What a pass over some of the addresses does to the name map. -/
structure Passed (nm nm' : NameMap) (addresses : List String) : Prop where
  later : Later nm nm'
  calm : Calm nm' addresses
  grows : nm.conflicts ⊆ nm'.conflicts
  quiet : (∀ a ∈ addresses, ¬ Reserved a) → nm'.conflicts = nm.conflicts

/-- The reserved literals have been noted. -/
def Heard (nm : NameMap) (addresses : List String) : Prop :=
  nm.conflicts = ∅ → ∀ a ∈ addresses, ¬ Reserved a

lemma Heard.mono {nm nm'} (h : Heard nm addresses) (hsub : nm.conflicts ⊆ nm'.conflicts) :
    Heard nm' addresses :=
  fun he => h (Finset.subset_empty.1 (he ▸ hsub))

lemma passed_filterMapWith {β : Type} {f : NameMap → α → Option β × NameMap}
    {addr : α → Option String} {make : α → Ipv4Addr → β} (hf : Asks f addr make) {nm}
    (h : Inverse nm) (hcalm : Calm nm addresses) {xs} (hm : ∀ x ∈ xs, ∀ a ∈ addr x, a ∈ addresses) :
    Passed nm (filterMapWith f nm xs).2 addresses := by
  obtain ⟨hlt, hc', -, -⟩ := filterMapWith_spec hf h hcalm hm
  refine ⟨hlt, hc', fun ip hip => ?_, fun hn => ?_⟩
  · exact (mem_conflicts_filterMapWith hf h).2 (.inl hip)
  · ext ip
    rw [mem_conflicts_filterMapWith hf h, or_iff_left]
    rintro ⟨x, hx, a, ha, hl⟩
    exact hn a (hm x hx a ha) ⟨ip, hl⟩

lemma keys_filterMapWith (addr proto : α → String) (port : α → UInt32) {nm} (h : Inverse nm)
    (hcalm : Calm nm addresses) {xs} (hm : ∀ x ∈ xs, addr x ∈ addresses) :
    let r := filterMapWith (fun nm x => routableKey nm (addr x) (proto x) (port x)) nm xs
    Passed nm r.2 addresses ∧ ∀ nm', Later r.2 nm' →
      r.1 = xs.filterMap fun x => keyAt nm' (addr x) (proto x) (port x) := by
  intro r
  have hasks : Asks (fun nm x => routableKey nm (addr x) (proto x) (port x))
      (fun x => if routable (proto x) then some (addr x) else none)
      (fun x ip => (ip, (port x).toUInt16)) := by
    intro m x
    unfold routableKey
    by_cases hrt : routable (proto x) <;> simp [hrt]
  have hask : ∀ x ∈ xs,
      ∀ a ∈ (if routable (proto x) then some (addr x) else none), a ∈ addresses := by
    intro x hx a ha
    obtain rfl := Option.some.inj (Option.ite_none_right_eq_some.1 ha).2
    exact hm x hx
  obtain ⟨hlt, -, hset, heq⟩ := filterMapWith_spec hasks h hcalm hask
  refine ⟨passed_filterMapWith hasks h hcalm hask, fun nm' hl' => heq.trans ?_⟩
  refine filterMap_congr fun x hx => (keyAt_later hl' hlt.inverse _ fun hr => ?_).symm
  exact hset x hx _ (by rw [if_pos hr]; rfl)

section Pass

variable {nm : NameMap} (h : Inverse nm)
include h

lemma entryKeys_spec {s : Snapshots} (hcalm : Calm nm s.effectiveConfig.addresses) :
    Passed nm (entryKeys nm s).2 s.effectiveConfig.addresses ∧ ∀ nm', Later (entryKeys nm s).2 nm' →
        (entryKeys nm s).1.toFinset = keysOf nm' s.effectiveConfig := by
  obtain ⟨hp, hk⟩ := keys_filterMapWith AclEntry.address AclEntry.protocol AclEntry.port
    h hcalm fun e he => mem_addresses.2 ⟨e, he, rfl⟩
  refine ⟨hp, fun nm' hlt => ?_⟩
  rw [keysOf_effectiveConfig, entryKeys, hk nm' hlt]

lemma routableKeys_spec (hcalm : Calm nm cfg.addresses) :
    Passed nm (routableKeys nm cfg).2 cfg.addresses ∧ ∀ nm', Later (routableKeys nm cfg).2 nm' →
        (routableKeys nm cfg).1.toFinset = keysOf nm' cfg := by
  obtain ⟨hp, hk⟩ := keys_filterMapWith AppliedEntry.address AppliedEntry.protocol
    AppliedEntry.port h hcalm fun e he => mem_map_of_mem he
  refine ⟨hp, fun nm' hlt => ?_⟩
  rw [keysOf, routableKeys, hk nm' hlt]

lemma buildMap_spec {s : Snapshots} (fails : ConnCoords → Bool)
    (hcalm : Calm nm s.effectiveConfig.addresses) :
    Passed nm (buildMap fails nm s).1 s.effectiveConfig.addresses ∧
      ∀ map, (buildMap fails nm s).2 = .ok map →
        (∀ a ∈ s.effectiveConfig.addresses, Settled (buildMap fails nm s).1 a) ∧
          Heard (buildMap fails nm s).1 s.effectiveConfig.addresses ∧
          mapAt (buildMap fails nm s).1 s = .ok map := by
  have hask : Asks (fun nm (e : AclEntry) =>
      ((nm.resourceIpv4 e.address).1.map (·, e), (nm.resourceIpv4 e.address).2))
      (fun e => some e.address) fun e ip => (ip, e) := fun _ _ => rfl
  obtain ⟨asked, hsub, hf, hall⟩ := buildFrom_fst (buildWith fails) s.planes s.entries nm ∅ ∅
  have hm : ∀ e ∈ asked, ∀ a ∈ some e.address, a ∈ s.effectiveConfig.addresses := by
    rintro e he a ha
    exact mem_addresses.2 ⟨e, hsub.subset he, Option.some.inj ha⟩
  have hp := passed_filterMapWith hask h hcalm hm
  change (buildMap fails nm s).1 = _ at hf
  rw [hf]
  refine ⟨hp, fun map hok => ?_⟩
  obtain rfl := hall map hok
  obtain ⟨-, -, hset, heq⟩ := filterMapWith_spec hask h hcalm hm
  refine ⟨fun a ha => ?_, fun hem a ha ⟨ip, hlit⟩ => ?_, ?_⟩
  · obtain ⟨e, he, rfl⟩ := mem_addresses.1 ha
    exact hset e he e.address rfl
  · obtain ⟨e, he, rfl⟩ := mem_addresses.1 ha
    have hn : ip ∈ (locate nm s.entries).2.conflicts :=
      (mem_conflicts_filterMapWith hask h).2 (.inr ⟨e, he, e.address, rfl, hlit⟩)
    rw [hem] at hn
    exact absurd hn (Finset.notMem_empty ip)
  · have hfl := buildFrom_snd (buildWith fails) s.planes s.entries nm ∅ ∅
    have hl : located nm s.entries = s.entries.filterMap fun e =>
        (addressOf (locate nm s.entries).2 e.address).map (·, e) := heq
    rw [mapAt, ← hl]
    refine fill_mono (fun c t hc => ?_) (hfl.symm.trans hok)
    unfold buildWith at hc ⊢
    split at hc
    next => cases hc
    next => exact hc

omit h in
lemma buildMap_noFaults (nm : NameMap) (s : Snapshots) :
    ∃ map, (buildMap noFaults.build nm s).2 = .ok map := by
  have htt : ∀ c, ∃ t, buildWith noFaults.build c = .ok t := fun c => ⟨c, rfl⟩
  obtain ⟨map, hm⟩ := fill_total htt s.planes (located nm s.entries) ∅ ∅
  exact ⟨map, (buildFrom_snd _ s.planes s.entries nm ∅ ∅).trans hm⟩

end Pass

/-! ### The tunnel of some snapshots -/

structure TunnelFrom (nm : NameMap) (s : Snapshots) (t : Tunnel) : Prop where
  applied : t.applied = s.effectiveConfig
  settled : ∀ a ∈ s.effectiveConfig.addresses, Settled nm a
  heard : Heard nm s.effectiveConfig.addresses
  plane : PlaneAt nm s t.plane

lemma TunnelFrom.later {nm nm' s t} (ht : TunnelFrom nm s t) (h : Inverse nm) (hlt : Later nm nm')
    (hsub : nm.conflicts ⊆ nm'.conflicts) :
    TunnelFrom nm' s t where
  applied := ht.applied
  settled := fun a ha => hlt.settled (ht.settled a ha)
  heard := ht.heard.mono hsub
  plane := ht.plane.later hlt h ht.settled

lemma handleUp_spec {nm s} (h : Inverse nm) (hcalm : Calm nm s.effectiveConfig.addresses)
    (f : Faults) :
    Later nm (handleUp f nm s).1 ∧
      ∀ t, (handleUp f nm s).2 = some t → TunnelFrom (handleUp f nm s).1 s t := by
  obtain ⟨hp1, hk1⟩ := entryKeys_spec h hcalm
  obtain ⟨hp2, hm⟩ := buildMap_spec hp1.later.inverse f.build hp1.calm
  have hl2 := hp1.later.trans hp2.later
  dsimp only [handleUp]
  rcases hb : buildMap f.build (entryKeys nm s).2 s with ⟨nm2, ⟨⟩ | map⟩
  · rw [hb] at hl2
    exact ⟨hl2, by simp⟩
  · rw [hb] at hl2 hp2 hm
    dsimp only at hl2 hp2 hm ⊢
    split
    · exact ⟨hl2, by simp⟩
    · obtain ⟨hset, hh, hma⟩ := hm map rfl
      obtain ⟨hp3, hk3⟩ := entryKeys_spec hl2.inverse hp2.calm
      have hl3 := hp3.later
      refine ⟨hl2.trans hl3, fun t ht => ?_⟩
      cases ht
      have hn := hk1 _ (hp2.later.trans hl3)
      refine ⟨rfl, fun a ha => hl3.settled (hset a ha), hh.mono hp3.grows, ?_⟩
      refine ⟨?_, hn, by rw [← hn], ?_⟩
      · rw [← hk3 _ (.refl hl3.inverse)]
      · exact (mapAt_later hl3 hl2.inverse hset).trans hma

lemma handleUp_noFaults (nm : NameMap) (s : Snapshots) :
    ∃ t, (handleUp noFaults nm s).2 = some t := by
  obtain ⟨map, hm⟩ := buildMap_noFaults (entryKeys nm s).2 s
  dsimp only [handleUp]
  rcases hb : buildMap noFaults.build (entryKeys nm s).2 s with ⟨nm2, ⟨⟩ | map'⟩
  · rw [hb] at hm
    cases hm
  · exact ⟨_, rfl⟩

lemma calm_handleDown {nm} (h : Calm nm addresses) (nm' : NameMap) :
    Calm (handleDown nm') addresses := h.imp_right fun hc => ⟨rfl, hc.2⟩

lemma TunnelFrom.restart {nm s t} (ht : TunnelFrom nm s t) (h : Inverse nm) {s'}
    (hsm : s.effectiveConfig = s'.effectiveConfig)
    (hcalm : Calm (handleDown nm) s'.effectiveConfig.addresses) :
    ∃ t', restart nm s' = some t' ∧ t.plane.listening = t'.plane.listening ∧
      t.plane.nft = t'.plane.nft ∧ t.plane.routes = t'.plane.routes ∧
      (s = s' → t.plane.transports = t'.plane.transports) := by
  obtain ⟨t', ht'⟩ := handleUp_noFaults (handleDown nm) s'
  have hd := later_forget h
  obtain ⟨hlt, hf⟩ := handleUp_spec hd.inverse hcalm noFaults
  have hn := (hf t' ht').plane
  have hold := ht.plane.later (hd.trans hlt) h ht.settled
  refine ⟨t', ht', ?_, ?_, ?_, ?_⟩
  · rw [hold.listening, hn.listening, hsm]
  · rw [hold.nft, hn.nft, hsm]
  · rw [hold.routes, hn.routes, hsm]
  · rintro rfl
    exact Except.ok.inj (hold.transports.symm.trans hn.transports)

/-! ### The plan -/

lemma ipsOf_mono {N} (h : K ⊆ N) : ipsOf K ⊆ ipsOf N :=
  Finset.image_subset_image h

lemma applyPlan_plane {t} (N : Finset ResourceKey) (cand : AppliedConfig)
    (map : TransportMap ConnCoords) (hl : t.plane.listening = K.filter fun k => canListen k)
    (hn : t.plane.nft = K) (hrt : t.plane.routes = ipsOf K) :
    (applyPlan (planOf K N cand) map t).plane =
      ⟨N.filter fun k => canListen k, N, ipsOf N, map⟩ := by
  have hk : (K ∩ N) ∪ (N \ K) = N := by grind
  have hb : (ipsOf K \ (ipsOf K \ ipsOf N)) ∪ (ipsOf N \ ipsOf K) = ipsOf N := by grind
  unfold applyPlan planOf
  dsimp only
  rw [hl, hn, hrt]
  split
  next ha =>
    have hsub : N ⊆ K := Finset.sdiff_eq_empty_iff_subset.1 ha
    have hi := ipsOf_mono hsub
    congr 1
    · grind
    · grind
    · grind
  next =>
    congr 1
    grind

/-- Flows to keys of the new configuration are kept. -/
def KeepsFlows (t t' : Tunnel) : Prop :=
  ∀ id k, t.flows.lookup id = some k → k ∈ t'.plane.nft → t'.flows.lookup id = some k

/-! ### Decisions -/

/-- What comes of a decision about the tunnel `t`. -/
structure Decided (s : State) (t : Tunnel) (s' : State) : Prop where
  inverse : Inverse s'.nm
  snapshots : s'.snapshots = s.snapshots
  tunnel : ∀ t' ∈ s'.tunnel, ∃ from', TunnelFrom s'.nm from' t'
  hot : ∀ o, s'.last = some o → o.hot = true → ∃ t' from', s'.tunnel = some t' ∧
    TunnelFrom s'.nm from' t' ∧ from'.effectiveConfig = s.snapshots.effectiveConfig ∧
    (o ≠ .noChange → from' = s.snapshots) ∧ KeepsFlows t t'

lemma Calm.of_passed {nm nm' A B} (hp : Passed nm nm' A) (hh : Heard nm A) (hcalm : Calm nm B) :
    Calm nm' B :=
  hcalm.imp_right fun ⟨he, hl⟩ => ⟨(hp.quiet (hh he)).trans he, hl⟩

section Decision

variable {s : State} {t : Tunnel}

lemma decided_downUp {nm} (h : Inverse nm)
    (hcalm : Calm s.nm s.snapshots.effectiveConfig.addresses) (again : Faults) :
    Decided s t ({ s with nm := nm }.downUp again) := by
  obtain ⟨hlt, hf⟩ := handleUp_spec (later_forget h).inverse (calm_handleDown hcalm nm) again
  refine ⟨hlt.inverse, rfl, fun t' ht' => ⟨s.snapshots, hf t' ht'⟩, fun o ho hh => ?_⟩
  obtain rfl : Outcome.restarted = o := Option.some.inj ho
  cases hh

lemma decided_hot {nm t'} (h : Inverse nm) (ht' : TunnelFrom nm s.snapshots t')
    (hk : KeepsFlows t t') (o : Outcome) :
    Decided s t { s with nm := nm, tunnel := some t', last := some o } := by
  refine ⟨h, rfl, fun t'' ht'' => ⟨s.snapshots, ?_⟩, fun _ _ _ =>
    ⟨t', s.snapshots, rfl, ht', rfl, fun _ => rfl, hk⟩⟩
  obtain rfl := Option.some.inj ht''
  exact ht'

variable {old : Snapshots} (ht : TunnelFrom s.nm old t) (hs : s.tunnel = some t)
  (h : Inverse s.nm)
include ht hs h

lemma decided_failed {nm} (hlt : Later s.nm nm) (hsub : s.nm.conflicts ⊆ nm.conflicts) :
    Decided s t { s with nm := nm, last := some .failed } := by
  refine ⟨hlt.inverse, rfl, fun t' ht' => ⟨old, ?_⟩, fun o ho hh => ?_⟩
  · cases hs.symm.trans ht'
    exact ht.later h hlt hsub
  · obtain rfl : Outcome.failed = o := Option.some.inj ho
    cases hh

variable (hcalm : Calm s.nm s.snapshots.effectiveConfig.addresses)
include hcalm

lemma decided_hotApplyResources (f again : Faults) (ha : Calm s.nm t.applied.addresses) :
    Decided s t (s.hotApplyResources t f again) := by
  -- the keys of the applied configuration, those of the candidate, and the map, one after another
  obtain ⟨hp1, hk1⟩ := routableKeys_spec h ha
  have hc1 := Calm.of_passed hp1 (ht.applied ▸ ht.heard) hcalm
  obtain ⟨hp2, hk2⟩ := routableKeys_spec hp1.later.inverse hc1
  obtain ⟨hp3, hm⟩ := buildMap_spec hp2.later.inverse f.build hp2.calm
  have hlt := (hp1.later.trans hp2.later).trans hp3.later
  have hg := (hp1.grows.trans hp2.grows).trans hp3.grows
  unfold State.hotApplyResources planResourceApply
  dsimp only
  rcases hb : buildMap f.build (routableKeys (routableKeys s.nm t.applied).2
    s.snapshots.effectiveConfig).2 s.snapshots with ⟨nm, ⟨⟩ | map⟩
  · rw [hb] at hlt hg
    exact decided_failed ht hs h hlt hg
  · rw [hb] at hlt hg hp3 hm
    dsimp only at hlt hg hp3 hm ⊢
    split
    · exact decided_downUp hlt.inverse hcalm again
    · obtain ⟨hset, hh, hma⟩ := hm map rfl
      have hold := (ht.later h hlt hg).plane
      rw [hk1 nm (hp2.later.trans hp3.later), hk2 nm hp3.later, ht.applied]
      have hp := applyPlan_plane (keysOf nm s.snapshots.effectiveConfig)
        s.snapshots.effectiveConfig map hold.listening hold.nft hold.routes
      refine decided_hot hlt.inverse ⟨rfl, hset, hh, ?_⟩ (fun id k hf hk => ?_) _
      · rw [hp]
        exact ⟨rfl, rfl, rfl, hma⟩
      · rw [hp] at hk
        refine lookup_retain_eq_some.2 ⟨hf, decide_eq_true fun hr => ?_⟩
        exact (Finset.mem_sdiff.1 hr).2 hk

lemma decided_runRestartDecision (dead : Bool) (f again : Faults)
    (ha : Calm s.nm t.applied.addresses) : Decided s t (s.runRestartDecision t dead f again) := by
  unfold State.runRestartDecision
  split
  · exact decided_downUp h hcalm again
  · unfold classifyApplied
    split_ifs with hsm hv hal
    · refine ⟨h, rfl, fun t' ht' => ⟨old, ?_⟩,
        fun o ho _ => ⟨t, old, hs, ht, ?_, fun hne => ?_, ?_⟩⟩
      · cases hs.symm.trans ht'
        exact ht
      · rw [hsm, ht.applied]
      · exact absurd (Option.some.inj ho).symm hne
      · exact fun _ _ hf _ => hf
    · obtain ⟨hp, hm⟩ := buildMap_spec h f.build hcalm
      unfold State.hotApplyTransportMap
      rcases hb : buildMap f.build s.nm s.snapshots with ⟨nm, ⟨⟩ | map⟩
      · rw [hb] at hp
        exact decided_failed ht hs h hp.later hp.grows
      · rw [hb] at hp hm
        dsimp only at hp hm ⊢
        split
        · exact decided_downUp hp.later.inverse hcalm again
        · obtain ⟨hset, hh, hma⟩ := hm map rfl
          have hold := (ht.later h hp.later hp.grows).plane
          have hk : keysOf nm old.effectiveConfig = keysOf nm s.snapshots.effectiveConfig := by
            rw [keysOf_of_structuralView nm hv, ht.applied]
          refine decided_hot hp.later.inverse ?_ ?_ _
          · exact ⟨rfl, hset, hh, hk ▸ hold.listening, hk ▸ hold.nft, hk ▸ hold.routes, hma⟩
          · exact fun _ _ hf _ => hf
    · exact decided_hotApplyResources ht hs h hcalm f again ha
    · exact decided_downUp h hcalm again

end Decision

/-! ### As after a restart -/

/-- When the addresses are asked for, names and reserved literals do not meet: not within the
configuration, and not within the applied one, nor with a literal noted before. -/
def Apart (s : State) : Action → Prop
  | .up _ => Calm s.nm s.snapshots.effectiveConfig.addresses
  | .decision .. => Calm s.nm s.snapshots.effectiveConfig.addresses ∧
    ∀ t ∈ s.tunnel, Calm s.nm t.applied.addresses
  | _ => True

instance (s : State) : (a : Action) → Decidable (Apart s a)
  | .up _ => inferInstanceAs (Decidable (Calm _ _))
  | .decision .. => inferInstanceAs (Decidable (_ ∧ _))
  | .store _ | .down | .accept .. | .endFlow _ => inferInstanceAs (Decidable True)

/-- The tunnel is that of some snapshots. -/
structure Inv (s : State) : Prop where
  inverse : Inverse s.nm
  tunnel : ∀ t ∈ s.tunnel, ∃ from', TunnelFrom s.nm from' t

lemma decided_of_step {s s' dead f again} (hi : Inv s) (hok : Apart s (.decision dead f again))
    (hs : step s (.decision dead f again) = some s') : ∃ t, s.tunnel = some t ∧ Decided s t s' := by
  obtain ⟨t, ht, rfl⟩ := Option.map_eq_some_iff.1 hs
  obtain ⟨old, hold⟩ := hi.tunnel t ht
  exact ⟨t, ht, decided_runRestartDecision hold ht hi.inverse hok.1 dead f again (hok.2 t ht)⟩

lemma inv_step (s : State) (a : Action) (s' : State) (hi : Inv s) (hok : Apart s a)
    (hs : step s a = some s') : Inv s' := by
  cases a with
  | store snapshots =>
    cases hs
    exact ⟨hi.inverse, hi.tunnel⟩
  | up f =>
    obtain ⟨-, rfl⟩ := Option.ite_some_none_eq_some.1 hs
    obtain ⟨hlt, hf⟩ := handleUp_spec hi.inverse hok f
    exact ⟨hlt.inverse, fun t ht => ⟨s.snapshots, hf t ht⟩⟩
  | down =>
    cases hs
    exact ⟨(later_forget hi.inverse).inverse, by simp⟩
  | decision dead f again =>
    obtain ⟨t, -, hd⟩ := decided_of_step hi hok hs
    exact ⟨hd.inverse, hd.tunnel⟩
  | accept id k =>
    obtain ⟨t, ht, -, ⟨⟩⟩ := bind_ite_eq_some.1 hs
    refine ⟨hi.inverse, fun t' ht' => ?_⟩
    obtain rfl := Option.some.inj ht'
    obtain ⟨old, hold⟩ := hi.tunnel t ht
    exact ⟨old, hold.applied, hold.settled, hold.heard, hold.plane⟩
  | endFlow id =>
    obtain ⟨t, ht, rfl⟩ := Option.map_eq_some_iff.1 hs
    refine ⟨hi.inverse, fun t' ht' => ?_⟩
    obtain rfl := Option.some.inj ht'
    obtain ⟨old, hold⟩ := hi.tunnel t ht
    exact ⟨old, hold.applied, hold.settled, hold.heard, hold.plane⟩

/-- The data plane of `t` is what a restart with the snapshots would make; its transport map, what
a restart with snapshots of the same effective configuration would. -/
structure AsRestarted (s : State) (o : Outcome) (t : Tunnel) : Prop where
  keys : ∃ t', restart s.nm s.snapshots = some t' ∧ t.plane.listening = t'.plane.listening ∧
    t.plane.nft = t'.plane.nft ∧ t.plane.routes = t'.plane.routes
  transports : ∃ from' t', from'.effectiveConfig = s.snapshots.effectiveConfig ∧
    (o ≠ .noChange → from' = s.snapshots) ∧ restart s.nm from' = some t' ∧
    t.plane.transports = t'.plane.transports

/-- After a hot apply the data plane is as after a restart, and flows to keys that stay are kept. -/
theorem asRestarted_of_apart {first : Snapshots} {acts : List Action} {s s' : State} {dead : Bool}
    {f again : Faults} {o : Outcome} (hexec : exec step (start first) acts = some s)
    (hmeets : Meets step Apart (start first) (acts ++ [.decision dead f again]))
    (hs : step s (.decision dead f again) = some s') (ho : s'.last = some o) (hhot : o.hot = true) :
    ∃ t t', s.tunnel = some t ∧ s'.tunnel = some t' ∧ AsRestarted s' o t' ∧ KeepsFlows t t' := by
  have hst : Inv (start first) := ⟨inverse_default, by rintro _ ⟨⟩⟩
  have hi : Inv s := exec_inv_of_meets inv_step hst hmeets.left hexec
  have hok := meets_iff.1 hmeets acts _ [] s rfl hexec
  obtain ⟨t, ht, hd⟩ := decided_of_step hi hok hs
  obtain ⟨t', from', ht', hf, hsm, hc, hk⟩ := hd.hot o ho hhot
  rw [← hd.snapshots] at hsm hc
  have hcalm : Calm (handleDown s'.nm) s'.snapshots.effectiveConfig.addresses := by
    rw [hd.snapshots]
    exact calm_handleDown hok.1 s'.nm
  refine ⟨t, t', ht, ht', ⟨?_, ?_⟩, hk⟩
  · obtain ⟨t'', hr, hl, hn, hrt, -⟩ := hf.restart hd.inverse hsm hcalm
    exact ⟨t'', hr, hl, hn, hrt⟩
  · rw [← hsm] at hcalm
    obtain ⟨t'', hr, -, -, -, htr⟩ := hf.restart hd.inverse rfl hcalm
    exact ⟨from', t'', hsm, hc, hr, htr rfl⟩

def one : AclConnector := ⟨"c1", "192.0.2.1:9092", "s1", "", ""⟩

def two : AclConnector := ⟨"c2", "192.0.2.2:9092", "s2", "", ""⟩

def snapshotsWith (addresses : List String) (connectors : List AclConnector) : Snapshots where
  acl :=
    { version := 1
      workspaceId := "w"
      generatedAt := 0
      entries := addresses.map fun a => ⟨a, a, 443, "tcp", ["d"], "web", "connector", "", "n1", ""⟩
      relayAddr := ""
      relaySpiffeId := ""
      remoteNetworks := [⟨"n1", "one", connectors⟩]
      revokedConnectors := [] }
  transport := none
  device := ⟨"d", "certificate", "key", none, "ca"⟩

def keyFor (a b c d : UInt8) : ResourceKey := (⟨a, b, c, d⟩, 443)

def decision : Action := .decision false noFaults noFaults

/-- A literal makes room for another one, next to a name. -/
def literalReplaced : List Action :=
  [.up noFaults, .accept 7 (keyFor 198 18 230 163), .accept 8 (keyFor 10 0 0 5),
    .store (snapshotsWith ["10.0.0.6", "db.internal"] [two, one])]

theorem asRestarted_literalReplaced :
    ∃ s s' t t', exec step (start (snapshotsWith ["db.internal", "10.0.0.5"] [one]))
        literalReplaced = some s ∧ step s decision = some s' ∧ s'.last = some .resourceDelta ∧
      (s.tunnel = some t ∧ s'.tunnel = some t' ∧ AsRestarted s' .resourceDelta t' ∧
        KeepsFlows t t') ∧
      t'.plane.listening = {keyFor 10 0 0 6, keyFor 198 18 230 163} ∧
      t'.flows.lookup 7 = some (keyFor 198 18 230 163) ∧ t'.flows.lookup 8 = none := by
  obtain ⟨s, he, s', hst, hl, u, hu, hp⟩ :
      ∃ s, exec step (start (snapshotsWith ["db.internal", "10.0.0.5"] [one])) literalReplaced =
          some s ∧ ∃ s', step s decision = some s' ∧ s'.last = some .resourceDelta ∧
        ∃ u, s'.tunnel = some u ∧ u.plane.listening = {keyFor 10 0 0 6, keyFor 198 18 230 163} ∧
          u.flows.lookup 7 = some (keyFor 198 18 230 163) ∧ u.flows.lookup 8 = none := by
    decide +kernel
  obtain ⟨t, t', ht, ht', has⟩ := asRestarted_of_apart he (by decide +kernel) hst hl rfl
  cases hu.symm.trans ht'
  exact ⟨s, s', t, u, he, hst, hl, ⟨ht, ht', has⟩, hp⟩

/-- A literal of the reserved range comes next to a name, and goes again. -/
def clashAndBack : List Action :=
  [.up noFaults, .store (snapshotsWith ["198.18.5.5", "db.internal"] [one]), decision,
    .store (snapshotsWith ["db.internal"] [one]), decision]

/-- The connectors of the network change places. -/
def connectorsSwapped : List Action :=
  [.up noFaults, .store (snapshotsWith ["10.0.0.5"] [two, one]), decision]

/-- The name of the first run stays off, and the second keeps the old order of the connectors. -/
theorem hot_apply_differs_from_restart :
    (∃ s t t', exec step (start (snapshotsWith ["db.internal"] [one])) clashAndBack = some s ∧
      s.last = some .resourceDelta ∧ s.tunnel = some t ∧ restart s.nm s.snapshots = some t' ∧
      t.plane.listening = ∅ ∧ t'.plane.listening = {keyFor 198 18 230 163}) ∧
    ∃ s t t', exec step (start (snapshotsWith ["10.0.0.5"] [one, two])) connectorsSwapped =
        some s ∧
      s.last = some .noChange ∧ s.tunnel = some t ∧ restart s.nm s.snapshots = some t' ∧
      t.plane.transports.lookup (keyFor 10 0 0 5) =
        some (some [coordsFromAcl one, coordsFromAcl two]) ∧
      t'.plane.transports.lookup (keyFor 10 0 0 5) =
        some (some [coordsFromAcl two, coordsFromAcl one]) := by
  simp only [exists_and_left]
  constructor
  · decide +kernel
  · decide +kernel

end Zecurity.HotApply
