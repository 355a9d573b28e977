import Zecurity.Compiler
import Zecurity.Sessions

/-!
Which tunnel requests a connector admits on a compiled list, by network.

The list is that of the whole workspace, and the decision of `handle_stream` looks at the
network tuple alone: `remote_network_id` tells a client where to find connectors, and no
connector compares it with its own network.
-/

namespace Zecurity.Isolation

open Acl Posture Compiler Sessions

/-- A connector that holds `snapshot` admits the request on the entry `e`. -/
def AdmitsWith (snapshot : AclSnapshot) (client : String) (req : TunnelRequest) (e : AclEntry) :
    Prop :=
  (snapshot.entries.find? fun e => e.matchesTuple req.destination req.port req.protocol) = some e ∧
    decision ⟨some snapshot⟩ client req =
      some ⟨e.resourceId, e.allowedSpiffeIds, e.routeType, e.shieldId⟩

def Listed (snapshot : AclSnapshot) (networkId connectorId : String) : Prop :=
  ∃ n ∈ snapshot.remoteNetworks, n.remoteNetworkId = networkId ∧
    connectorId ∈ n.connectors.map AclConnector.connectorId

instance (snapshot : AclSnapshot) (networkId connectorId : String) :
    Decidable (Listed snapshot networkId connectorId) :=
  inferInstanceAs (Decidable (∃ n ∈ snapshot.remoteNetworks, _))

/-- Whatever the connector admits belongs to a network it is listed in. -/
def Isolated (snapshot : AclSnapshot) (connectorId : String) : Prop :=
  ∀ client req e, AdmitsWith snapshot client req e → Listed snapshot e.remoteNetworkId connectorId

/-- No entry of the same tuple comes before `e` in the order of the keys. -/
def LeastOfTuple (snapshot : AclSnapshot) (e : AclEntry) : Prop :=
  ∀ e' ∈ snapshot.entries, e'.tuple = e.tuple → (keyOf e).lex ≤ (keyOf e').lex

instance (snapshot : AclSnapshot) (e : AclEntry) : Decidable (LeastOfTuple snapshot e) :=
  inferInstanceAs (Decidable (∀ e' ∈ snapshot.entries, _))

variable {store : Store} {postureStore : PostureStore} {r : Reads} {version : UInt64}
  {workspaceId : String} {now : Time}

lemma toUInt32_toUInt16 {p : UInt32} (h : p.toNat < 65536) : p.toUInt16.toUInt32 = p := by
  apply UInt32.toNat_inj.1
  exact Nat.mod_eq_of_lt h

/-- **Admission does not look at the network.** On every compiled list: a request is admitted
on `e` exactly if `e` has its tuple, lists the client and is the first such entry by key,
whichever connector asks; every entry's network is described, once; and a connector admits
only traffic of networks that list it exactly if every entry that some request can be
admitted on (first of its tuple, with a `u16` port and a client) is of such a network. -/
theorem admission_by_tuple (hr : reads store postureStore = .ok r) :
    let snapshot := (assemble r version workspaceId now).snapshot
    compileAclSnapshot store postureStore version workspaceId now =
        .ok (assemble r version workspaceId now) ∧
    (∀ cl req e, AdmitsWith snapshot cl req e ↔ e ∈ snapshot.entries ∧
      e.tuple = (req.destination, req.port.toUInt32, toAsciiLowercase req.protocol) ∧
      cl ∈ e.allowedSpiffeIds ∧ LeastOfTuple snapshot e) ∧
    (∀ e ∈ snapshot.entries, ∃! n, n ∈ snapshot.remoteNetworks ∧
      n.remoteNetworkId = e.remoteNetworkId) ∧
    (∀ cid, Isolated snapshot cid ↔
      ∀ e ∈ snapshot.entries, e.allowedSpiffeIds ≠ [] → e.port.toNat < 65536 →
        LeastOfTuple snapshot e → Listed snapshot e.remoteNetworkId cid) := by
  intro snapshot
  have ha : ∀ cl req e, AdmitsWith snapshot cl req e ↔ e ∈ snapshot.entries ∧
      e.tuple = (req.destination, req.port.toUInt32, toAsciiLowercase req.protocol) ∧
      cl ∈ e.allowedSpiffeIds ∧ LeastOfTuple snapshot e := by
    intro cl req e
    -- the admission rule is the first match by tuple that lists the client
    have hf : AdmitsWith snapshot cl req e ↔
        (snapshot.entries.find? fun e => e.matchesTuple req.destination req.port req.protocol) =
          some e ∧ cl ∈ e.allowedSpiffeIds := by
      refine and_congr_right fun hfn => ?_
      simp [decision, PolicyCache.resolveResource, hfn, Option.filter_some]
    -- on a compiled list it is the match of the least key
    rw [hf, find?_eq_some_iff_least (assemble_pairwise r version workspaceId now)]
    simp only [matchesTuple_iff, LeastOfTuple]
    constructor
    · rintro ⟨⟨he, ht, hl⟩, hc⟩
      exact ⟨he, ht, hc, fun e' he' h => hl e' he' (h.trans ht)⟩
    · rintro ⟨he, ht, hc, hl⟩
      exact ⟨⟨he, ht, fun e' he' h => hl e' he' (h.trans ht.symm)⟩, hc⟩
  refine ⟨by simp [compileAclSnapshot, hr, Except.map], ha, fun e he => ?_,
    fun cid => ⟨fun hi e he hne hp hl => ?_, fun hall cl req e hadm => ?_⟩⟩
  · obtain ⟨x, hx, rfl⟩ := List.mem_map.1 (assemble_entries r version workspaceId now ▸ he)
    obtain ⟨n, hn, hid⟩ := exists_network hr (mem_sortedEntries.1 hx)
    refine ⟨n, ⟨hn, hid⟩, ?_⟩
    rintro n' ⟨hn', hid'⟩
    exact List.inj_on_of_nodup_map (networks_nodup hr) hn' hn (hid'.trans hid.symm)
  · -- ask for the entry's own tuple as one of its clients
    obtain ⟨cl, hc⟩ := List.exists_mem_of_ne_nil _ hne
    refine hi cl ⟨e.address, e.port.toUInt16, e.protocol⟩ e ((ha _ _ _).2 ⟨he, ?_, hc, hl⟩)
    simp [AclEntry.tuple, toUInt32_toUInt16 hp]
  · obtain ⟨he, ht, hc, hl⟩ := (ha _ _ _).1 hadm
    have hp : e.port = req.port.toUInt32 := by
      have := congrArg (fun t => t.2.1) ht
      exact this
    refine hall e he (List.ne_nil_of_mem hc) ?_ hl
    rw [hp, UInt16.toNat_toUInt32]
    exact req.port.toNat_lt

/-! ### Two networks with the same private address -/

/-- `db-b` in the network `rn-b` and `db-a` in the network `rn-a` have the address
`10.0.0.5:5432`; each is granted to one device. -/
def overlappingRules : List CompilerResourceRow :=
  [⟨"res-1", "db-b", "10.0.0.5", 5432, "tcp", "group-b", "", "", "unprotected", "rn-b", "B",
      false⟩,
    ⟨"res-2", "db-a", "10.0.0.5", 5432, "tcp", "group-a", "", "", "unprotected", "rn-a", "A",
      false⟩]

def overlappingStore : Store where
  parseWorkspace := .ok ()
  listEnabledRulesWithResources := .ok overlappingRules
  listActiveDeviceSPIFFEsForGroups := fun _ => .ok
    (((∅ : AList fun _ : String => List DeviceIdentity).insert "group-a"
      [⟨"dev-a", "spiffe://ws/client/dev-a"⟩]).insert "group-b"
        [⟨"dev-b", "spiffe://ws/client/dev-b"⟩])
  getConnectorsForRemoteNetworks := fun _ => .ok
    [⟨"rn-a", "conn-a", "192.168.1.2:9092", "ws", "", "", ""⟩,
      ⟨"rn-b", "conn-b", "192.168.2.2:9092", "ws", "", "", ""⟩]
  getActiveRelay := .ok none
  getRevokedConnectors := .ok []

def noProfiles : PostureStore where
  listProfiles := .ok []
  resourceProfilesForWorkspace := .ok fun _ => []
  evaluationsForDevices := fun _ => .ok fun _ => []

/-- The network whose entry comes first keeps its connector to itself. -/
theorem admission_by_tuple_overlapping :
    ∃ r, reads overlappingStore noProfiles = .ok r ∧
      Isolated (assemble r 1 "ws" 0).snapshot "conn-b" := by
  have hr : reads overlappingStore noProfiles = .ok _ := rfl
  exact ⟨_, hr, ((admission_by_tuple hr).2.2.2 "conn-b").2 (by decide)⟩

/-- The connector of `rn-a` admits the device that is granted the resource of `rn-b`. -/
theorem admits_grant_of_other_network :
    ∃ c e, compileAclSnapshot overlappingStore noProfiles 1 "ws" 0 = .ok c ∧
      Listed c.snapshot "rn-a" "conn-a" ∧
      AdmitsWith c.snapshot "spiffe://ws/client/dev-b" ⟨"10.0.0.5", 5432, "tcp"⟩ e ∧
      ¬ Listed c.snapshot e.remoteNetworkId "conn-a" := by
  exact ⟨_, _, rfl, by decide, ⟨rfl, rfl⟩, by decide⟩

end Zecurity.Isolation
