import Mathlib.Data.List.AList
import Mathlib.Data.List.Sort
import Mathlib.Data.Prod.Lex
import Mathlib.Data.String.Basic
import Zecurity.Acl
import Zecurity.Posture
import Zecurity.Runs

/-!
The compiler of access-control lists (`controller/internal/policy/compiler.go`).

A compile makes eight database reads one after another, each with its own answer or failure,
and reads the policy version last. Here a `Store` and a `PostureStore` hold those answers,
as functions of the arguments the compiler passes, so that every interleaving of the reads
with writers is some pair of stores. Go's maps are association lists with distinct keys; the
order in which Go ranges over one does not show in the result, since every list built that
way is sorted. The message of a quoted status (`%q`) is modelled for statuses without
characters that Go escapes.
-/

namespace Zecurity.Compiler

open AList Acl Checks List Posture

structure CompilerResourceRow where
  resourceId : String
  name : String
  address : String
  port : UInt32
  protocol : String
  groupId : String
  shieldId : String
  shieldConnectorId : String
  status : String
  remoteNetworkId : String
  remoteNetworkName : String
  shieldRevoked : Bool

structure DeviceIdentity where
  deviceId : Uuid
  spiffeId : String

structure RemoteNetworkConnectorsRow where
  remoteNetworkId : String
  connectorId : String
  lanAddr : String
  trustDomain : String
  relayPublicAddr : String
  relayObservedHost : String
  relayId : String

structure RelayDiscoveryRow where
  id : String
  publicAddr : String
  observedIp : String
  addressScope : String

structure RevokedConnectorRow where
  connectorId : String
  trustDomain : String

/-- The answers of the policy store. -/
structure Store where
  /-- the outcome of `uuid.Parse(workspaceID)`; its value is used in queries only -/
  parseWorkspace : Except String Unit
  listEnabledRulesWithResources : Except String (List CompilerResourceRow)
  listActiveDeviceSPIFFEsForGroups :
    List String → Except String (AList fun _ : String => List DeviceIdentity)
  getConnectorsForRemoteNetworks : List String → Except String (List RemoteNetworkConnectorsRow)
  getActiveRelay : Except String (Option RelayDiscoveryRow)
  getRevokedConnectors : Except String (List RevokedConnectorRow)

/-- The answers of the posture store. -/
structure PostureStore where
  listProfiles : Except String (List Profile)
  resourceProfilesForWorkspace : Except String (Uuid → List Uuid)
  evaluationsForDevices : List Uuid → Except String (Uuid → List Evaluation)

/-- A compiled snapshot and the time it may be cached until (zero: for good). -/
structure CompiledAcl where
  snapshot : AclSnapshot
  validUntil : Time

/-- `SnapshotCache.Get` still returns a cached snapshot at `t`. -/
def usableAt (validUntil t : Time) : Bool := validUntil == 0 || decide (t < validUntil)

/-! ### Addresses and identities -/

/-- `net.JoinHostPort`: a host with a colon is bracketed. -/
def joinHostPort (host port : String) : String :=
  if host.toList.contains ':' then "[" ++ host ++ "]:" ++ port else host ++ ":" ++ port

/-- The host of `net.SplitHostPort`, or `none` where that fails: the port follows the last
colon; a bracketed host ends right before it; no other colon or bracket is left. -/
def splitHost (hostport : String) : Option String :=
  let cs := hostport.toList
  let port := (cs.reverse.takeWhile (· ≠ ':')).reverse
  let before := (cs.reverse.dropWhile (· ≠ ':')).tail.reverse
  if !cs.contains ':' then none
  else match cs with
    | '[' :: rest =>
      let host := rest.takeWhile (· ≠ ']')
      if before = '[' :: host ++ [']'] ∧ '[' ∉ host ∧ '[' ∉ port ∧ ']' ∉ port then
        some (String.ofList host)
      else none
    | _ => if ':' ∈ before ∨ '[' ∈ cs ∨ ']' ∈ cs then none else some (String.ofList before)

def connectorSpiffeId (trustDomain connectorId : String) : String :=
  "spiffe://" ++ trustDomain ++ "/connector/" ++ connectorId

def relaySpiffeId (relayId : String) : String := "spiffe://zecurity.in/relay/" ++ relayId

def defaultRelayPort : String := "9093"

def resolveConnectorRelayAddr (publicAddr observedHost : String) : String :=
  if publicAddr ≠ "" then publicAddr
  else if observedHost ≠ "" then joinHostPort observedHost defaultRelayPort
  else ""

def aclConnector (row : RemoteNetworkConnectorsRow) : AclConnector :=
  let host := (splitHost row.lanAddr).getD row.lanAddr
  { connectorId := row.connectorId
    connectorTunnelAddr := if host ≠ "" then joinHostPort host "9092" else ""
    connectorSpiffe :=
      if row.connectorId ≠ "" ∧ row.trustDomain ≠ "" then
        connectorSpiffeId row.trustDomain row.connectorId
      else ""
    relayAddr := resolveConnectorRelayAddr row.relayPublicAddr row.relayObservedHost
    relaySpiffeId := if row.relayId ≠ "" then relaySpiffeId row.relayId else "" }

def relayCoordinates : Option RelayDiscoveryRow → String × String
  | none => ("", "")
  | some relay =>
    let addr :=
      if relay.publicAddr ≠ "" then relay.publicAddr
      else if relay.addressScope = "public" ∧ relay.observedIp ≠ "" then
        joinHostPort relay.observedIp defaultRelayPort
      else ""
    (addr, if addr ≠ "" then relaySpiffeId relay.id else "")

/-! ### Rules to entries -/

/-- Protected through a shield that is revoked or gone. -/
def shieldUnavailable (rule : CompilerResourceRow) : Bool :=
  if rule.status = "protecting" ∨ rule.status = "protected" ∨ rule.status = "failed" then
    rule.shieldId == "" || rule.shieldRevoked
  else false

def routeTypeForResource (status shieldId : String) : Except String String :=
  if status = "pending" ∨ status = "unprotected" then .ok "connector"
  else if status = "protecting" ∨ status = "protected" ∨ status = "failed" then
    if shieldId = "" then .error ("status \"" ++ status ++ "\" requires a shield") else .ok "shield"
  else .error ("unsupported resource status \"" ++ status ++ "\"")

structure EntryKey where
  resourceId : String
  address : String
  port : UInt32
  protocol : String
  deriving DecidableEq

/-- The comparison the keys are sorted by. -/
def EntryKey.less (a b : EntryKey) : Bool :=
  if a.resourceId ≠ b.resourceId then a.resourceId < b.resourceId
  else if a.address ≠ b.address then a.address < b.address
  else if a.port ≠ b.port then a.port.toNat < b.port.toNat
  else a.protocol < b.protocol

/-- What the first rule of a key sets (`names`, `shieldIDs`, `preferredConnectorIDs`,
`routeTypes`, `rnByKey`), and the groups of all its rules (`keyGroups`). -/
structure EntryInfo where
  name : String
  shieldId : String
  preferredConnectorId : String
  routeType : String
  remoteNetworkId : String
  groups : List String

structure Collected where
  entries : AList fun _ : EntryKey => EntryInfo
  groupIds : List String
  rnNames : AList fun _ : String => String

def CompilerResourceRow.key (rule : CompilerResourceRow) : EntryKey :=
  ⟨rule.resourceId, rule.address, rule.port, rule.protocol⟩

/-- The entry of a rule's key after the rule: its group is added, and a new key takes its
data from the rule. -/
def entryForRule (c : Collected) (rule : CompilerResourceRow) : Except String EntryInfo :=
  match c.entries.lookup rule.key with
  | some info => .ok { info with groups := info.groups ++ [rule.groupId] }
  | none =>
    match routeTypeForResource rule.status rule.shieldId with
    | .error err => .error ("compile acl: resource " ++ rule.resourceId ++ ": " ++ err)
    | .ok routeType =>
      .ok ⟨rule.name, rule.shieldId, rule.shieldConnectorId, routeType, rule.remoteNetworkId,
        [rule.groupId]⟩

def collectRule (c : Collected) (rule : CompilerResourceRow) : Except String Collected :=
  if shieldUnavailable rule then .ok c
  else do
    let info ← entryForRule c rule
    .ok { entries := c.entries.insert rule.key info
          groupIds := c.groupIds.insert rule.groupId
          rnNames := c.rnNames.insert rule.remoteNetworkId rule.remoteNetworkName }

def collectRules (rules : List CompilerResourceRow) : Except String Collected :=
  rules.foldlM collectRule ⟨∅, [], ∅⟩

def sortedEntries (c : Collected) : List (Sigma fun _ : EntryKey => EntryInfo) :=
  c.entries.entries.insertionSort fun a b => b.1.less a.1 = false

def sortStrings (l : List String) : List String := l.insertionSort fun a b => a ≤ b

/-- One network of the snapshot: its connectors are those of its rows, in their order. -/
def aclRemoteNetwork (rnNames : AList fun _ : String => String)
    (rows : List RemoteNetworkConnectorsRow) (id : String) : AclRemoteNetwork where
  remoteNetworkId := id
  name := (rnNames.lookup id).getD ""
  connectors := (rows.filter fun row => row.remoteNetworkId = id).map aclConnector

/-- `rnMap`, filled from the connector rows and sorted by id. A row of a network that no
rule names dereferences a missing map entry, which panics. -/
def remoteNetworks (rnNames : AList fun _ : String => String)
    (rows : List RemoteNetworkConnectorsRow) : Except String (List AclRemoteNetwork) :=
  if rows.all fun row => (rnNames.lookup row.remoteNetworkId).isSome then
    .ok ((sortStrings rnNames.keys).map (aclRemoteNetwork rnNames rows))
  else .error "invalid memory address or nil pointer dereference"

/-- The devices of an entry's groups, each with its SPIFFE id. -/
def entryDevices (groupSpiffes : AList fun _ : String => List DeviceIdentity)
    (groups : List String) : AList fun _ : Uuid => String :=
  (groups.flatMap fun gid => (groupSpiffes.lookup gid).getD []).foldl
    (fun devices d => devices.insert d.deviceId d.spiffeId) ∅

def devicePairs (devices : AList fun _ : Uuid => String) : List (Uuid × String) :=
  devices.entries.map fun d => (d.1, d.2)

/-! ### The loop over the keys -/

/-- What every turn of the loop reads. -/
structure PostureInputs where
  now : Time
  groupSpiffes : AList fun _ : String => List DeviceIdentity
  required : String → List Profile
  evaluations : Uuid → List Evaluation

structure EntryLoop where
  entries : List AclEntry
  snapshotValidUntil : Time
  hasPostureGatedEntry : Bool

def entryPosture (p : PostureInputs) (x : Sigma fun _ : EntryKey => EntryInfo) :
    List String × Time × Bool :=
  applyPosture p.now (devicePairs (entryDevices p.groupSpiffes x.2.groups))
    (p.required x.1.resourceId) p.evaluations

def aclEntry (p : PostureInputs) (x : Sigma fun _ : EntryKey => EntryInfo) : AclEntry :=
  { resourceId := x.1.resourceId
    name := x.2.name
    address := x.1.address
    port := x.1.port
    protocol := x.1.protocol
    allowedSpiffeIds := sortStrings (entryPosture p x).1
    routeType := x.2.routeType
    shieldId := x.2.shieldId
    remoteNetworkId := x.2.remoteNetworkId
    preferredConnectorId := x.2.preferredConnectorId }

def entryStep (p : PostureInputs) (loop : EntryLoop) (x : Sigma fun _ : EntryKey => EntryInfo) :
    EntryLoop :=
  let (allowed, pairValidUntil, isGated) := entryPosture p x
  let loop :=
    if isGated ∧ allowed ≠ [] then
      if !loop.hasPostureGatedEntry then
        { loop with hasPostureGatedEntry := true, snapshotValidUntil := pairValidUntil }
      else if pairValidUntil < loop.snapshotValidUntil then
        { loop with snapshotValidUntil := pairValidUntil }
      else loop
    else loop
  { loop with entries := loop.entries ++ [aclEntry p x] }

def entryLoop (p : PostureInputs) (xs : List (Sigma fun _ : EntryKey => EntryInfo)) : EntryLoop :=
  xs.foldl (entryStep p) ⟨[], 0, false⟩

/-! ### The compile -/

/-- `fmt.Errorf(text + ": %w", err)` -/
def wrapErr {α : Type*} (text : String) : Except String α → Except String α
  | .ok a => .ok a
  | .error err => .error (text ++ err)

def deviceIds (groupSpiffes : AList fun _ : String => List DeviceIdentity) : List Uuid :=
  (groupSpiffes.entries.flatMap fun g => g.2.map DeviceIdentity.deviceId).dedup

/-- `now.Unix()`: seconds since 1970. -/
def unixSeconds (now : Time) : Int := (now / 1000000000 : ℕ) - 62135596800

/-- What a compile has read when all its reads have succeeded; `collected` and `networks` are
made on the way, since later reads take their arguments from them. -/
structure Reads where
  collected : Collected
  groupSpiffes : AList fun _ : String => List DeviceIdentity
  networks : List AclRemoteNetwork
  profiles : List Profile
  resourceProfiles : Uuid → List Uuid
  evaluations : Uuid → List Evaluation
  relay : Option RelayDiscoveryRow
  revoked : List RevokedConnectorRow

/-- The reads, in their order, up to the first failure. -/
def reads (store : Store) (postureStore : PostureStore) : Except String Reads := do
  wrapErr "compile acl: invalid workspace id: " store.parseWorkspace
  let rules ← wrapErr "compile acl: list rules: " store.listEnabledRulesWithResources
  let collected ← collectRules rules
  let groupSpiffes ← wrapErr "compile acl: batch spiffes: "
    (store.listActiveDeviceSPIFFEsForGroups (sortStrings collected.groupIds))
  let rows ← wrapErr "compile acl: connector lookup: "
    (store.getConnectorsForRemoteNetworks (sortStrings collected.rnNames.keys))
  let networks ← remoteNetworks collected.rnNames rows
  let profiles ← wrapErr "compile acl: list posture profiles: " postureStore.listProfiles
  let resourceProfiles ← wrapErr "compile acl: resource policy profiles: "
    postureStore.resourceProfilesForWorkspace
  let evaluations ← wrapErr "compile acl: batch evaluations: "
    (postureStore.evaluationsForDevices (deviceIds groupSpiffes))
  let relay ← wrapErr "compile acl: relay lookup: " store.getActiveRelay
  let revoked ← wrapErr "compile acl: " store.getRevokedConnectors
  return ⟨collected, groupSpiffes, networks, profiles, resourceProfiles, evaluations, relay,
    revoked⟩

/-- What the loop over the keys reads. -/
def Reads.postureInputs (r : Reads) (now : Time) : PostureInputs :=
  ⟨now, r.groupSpiffes, requiredProfiles r.profiles r.resourceProfiles, r.evaluations⟩

/-- The snapshot of what was read; the version is read last of all. -/
def assemble (r : Reads) (version : UInt64) (workspaceId : String) (now : Time) : CompiledAcl :=
  let loop := entryLoop (r.postureInputs now) (sortedEntries r.collected)
  { snapshot :=
      { version := version
        workspaceId := workspaceId
        generatedAt := unixSeconds now
        entries := loop.entries
        relayAddr := (relayCoordinates r.relay).1
        relaySpiffeId := (relayCoordinates r.relay).2
        remoteNetworks := r.networks
        revokedConnectors := r.revoked.map fun row =>
          ⟨row.connectorId, connectorSpiffeId row.trustDomain row.connectorId⟩ }
    validUntil := loop.snapshotValidUntil }

def compileAclSnapshot (store : Store) (postureStore : PostureStore) (version : UInt64)
    (workspaceId : String) (now : Time) : Except String CompiledAcl :=
  (reads store postureStore).map fun r => assemble r version workspaceId now

/-! ### The loop -/

variable {c : Collected} {store : Store} {postureStore : PostureStore} {r : Reads}

lemma entryStep_entries (p : PostureInputs) (loop : EntryLoop)
    (x : Sigma fun _ : EntryKey => EntryInfo) :
    (entryStep p loop x).entries = loop.entries ++ [aclEntry p x] := by
  unfold entryStep
  simp only
  split
  · split
    · rfl
    · split <;> rfl
  · rfl

lemma entryLoop_entries (p : PostureInputs) (xs : List (Sigma fun _ : EntryKey => EntryInfo)) :
    (entryLoop p xs).entries = xs.map (aclEntry p) := by
  have hf : ∀ loop : EntryLoop,
      (xs.foldl (entryStep p) loop).entries = loop.entries ++ xs.map (aclEntry p) := by
    induction xs with
    | nil => simp
    | cons x rest ih => intro loop; simp [ih, entryStep_entries]
  simpa [entryLoop] using hf ⟨[], 0, false⟩

lemma assemble_entries (r : Reads) (ver : UInt64) (wid : String) (now : Time) :
    (assemble r ver wid now).snapshot.entries =
      (sortedEntries r.collected).map (aclEntry (r.postureInputs now)) := entryLoop_entries _ _

lemma mem_sortStrings {l x} : x ∈ sortStrings l ↔ x ∈ l :=
  mem_insertionSort _

/-! ### The order of the entries -/

/-- The key as a value of a linear order, the one `less` compares by. -/
def EntryKey.lex (k : EntryKey) : String ×ₗ String ×ₗ ℕ ×ₗ String :=
  toLex (k.resourceId, toLex (k.address, toLex (k.port.toNat, k.protocol)))

lemma EntryKey.lex_injective : Function.Injective EntryKey.lex := by
  rintro ⟨r, a, p, t⟩ ⟨r', a', p', t'⟩ h
  simp only [lex, toLex_inj, Prod.mk.injEq, UInt32.toNat_inj] at h
  obtain ⟨rfl, rfl, rfl, rfl⟩ := h
  rfl

variable {rule : CompilerResourceRow} {a b : EntryKey} {α : Type*}
  {x : Sigma fun _ : EntryKey => EntryInfo}

lemma EntryKey.less_iff : a.less b = true ↔ a.lex < b.lex := by
  simp only [less, lex, Prod.Lex.toLex_lt_toLex]
  by_cases hr : a.resourceId = b.resourceId
  · by_cases ha : a.address = b.address
    · by_cases hp : a.port = b.port
      · simp [hr, ha, hp]
      · have hp' : a.port.toNat ≠ b.port.toNat := fun h => hp (UInt32.toNat_inj.1 h)
        simp [hr, ha, hp, hp']
    · simp [hr, ha]
  · simp [hr]

lemma EntryKey.less_eq_false_iff : b.less a = false ↔ a.lex ≤ b.lex := by
  rw [← not_lt, ← less_iff, Bool.not_eq_true]

instance : Std.Total fun a b : Sigma fun _ : EntryKey => EntryInfo => b.1.less a.1 = false :=
  ⟨fun a b => by simp only [EntryKey.less_eq_false_iff]; exact le_total _ _⟩

instance : IsTrans (Sigma fun _ : EntryKey => EntryInfo) fun a b => b.1.less a.1 = false :=
  ⟨fun a b c => by simp only [EntryKey.less_eq_false_iff]; exact le_trans⟩

lemma mem_sortedEntries : x ∈ sortedEntries c ↔ x ∈ c.entries.entries := mem_insertionSort _

lemma sortedEntries_pairwise (c : Collected) :
    (sortedEntries c).Pairwise fun a b => a.1.lex < b.1.lex := by
  have hn : (sortedEntries c).Pairwise fun a b => a.1 ≠ b.1 := by
    have hk : (c.entries.entries.map Sigma.fst).Nodup := c.entries.keys_nodup
    have hp := (perm_insertionSort (fun a b => b.1.less a.1 = false) c.entries.entries).map
      Sigma.fst
    exact pairwise_map.1 (hp.nodup_iff.2 hk)
  have hs : (sortedEntries c).Pairwise fun a b => b.1.less a.1 = false := pairwise_insertionSort _ _
  refine (hs.and hn).imp fun ⟨hle, hne⟩ => ?_
  exact lt_of_le_of_ne (EntryKey.less_eq_false_iff.1 hle) fun h => hne (EntryKey.lex_injective h)

def keyOf (e : AclEntry) : EntryKey := ⟨e.resourceId, e.address, e.port, e.protocol⟩

lemma assemble_pairwise (r : Reads) (ver : UInt64) (wid : String) (now : Time) :
    (assemble r ver wid now).snapshot.entries.Pairwise
      fun a b => (keyOf a).lex < (keyOf b).lex := by
  rw [assemble_entries, pairwise_map]
  exact sortedEntries_pairwise r.collected

lemma find?_eq_some_iff_least {β : Type*} [LinearOrder β] {f : α → β} {l : List α}
    (hl : l.Pairwise fun a b => f a < f b) {q : α → Bool} {x : α} :
    l.find? q = some x ↔ x ∈ l ∧ q x = true ∧ ∀ y ∈ l, q y = true → f x ≤ f y := by
  induction l with
  | nil => simp
  | cons a rest ih =>
    obtain ⟨ha, hr⟩ := pairwise_cons.1 hl
    grind

/-! ### Networks -/

/-- Every entry's network has been given a name. -/
def Collected.Named (c : Collected) : Prop :=
  ∀ x ∈ c.entries.entries, x.2.remoteNetworkId ∈ c.rnNames

lemma entryForRule_network {info} (hn : c.Named) (h : entryForRule c rule = .ok info) :
    info.remoteNetworkId = rule.remoteNetworkId ∨ info.remoteNetworkId ∈ c.rnNames := by
  unfold entryForRule at h
  split at h
  · next old hold =>
    cases h
    exact .inr (hn ⟨_, old⟩ (mem_lookup_iff.1 hold))
  · split at h
    · cases h
    · cases h; exact .inl rfl

lemma collectRule_named {c'} (hn : c.Named) (h : collectRule c rule = .ok c') : c'.Named := by
  unfold collectRule at h
  split at h
  · cases h; exact hn
  · rcases hi : entryForRule c rule with err | info
    · rw [hi] at h; cases h
    · rw [hi] at h
      cases h
      intro x hx
      rw [mem_insert]
      by_cases hk : x.1 = rule.key
      · -- the rule's own entry
        have hl := mem_lookup_iff.2 hx
        obtain ⟨key, old⟩ := x
        subst hk
        rw [lookup_insert, Option.mem_some_iff] at hl
        subst hl
        exact entryForRule_network hn hi
      · have hl := mem_lookup_iff.2 hx
        rw [lookup_insert_ne hk] at hl
        exact .inr (hn x (mem_lookup_iff.1 hl))

lemma collectRules_named {rules} (h : collectRules rules = .ok c) : c.Named := by
  have hf : ∀ (rules : List CompilerResourceRow) (c0 : Collected), c0.Named →
      rules.foldlM collectRule c0 = .ok c → c.Named := by
    intro rules
    induction rules with
    | nil => rintro c0 hn ⟨⟩; exact hn
    | cons rule rest ih =>
      intro c0 hn hf
      rw [foldlM_cons] at hf
      rcases hs : collectRule c0 rule with err | c1
      · rw [hs] at hf; cases hf
      · rw [hs] at hf
        exact ih c1 (collectRule_named hn hs) hf
  exact hf rules _ (fun x hx => absurd hx not_mem_nil) h

lemma wrapErr_eq_ok {text : String} {x : Except String α} {a : α} :
    wrapErr text x = .ok a ↔ x = .ok a := by
  cases x <;> simp [wrapErr]

lemma reads_ok (h : reads store postureStore = .ok r) :
    ∃ rules rows, store.listEnabledRulesWithResources = .ok rules ∧
      collectRules rules = .ok r.collected ∧
      store.listActiveDeviceSPIFFEsForGroups (sortStrings r.collected.groupIds) =
        .ok r.groupSpiffes ∧
      store.getConnectorsForRemoteNetworks (sortStrings r.collected.rnNames.keys) = .ok rows ∧
      remoteNetworks r.collected.rnNames rows = .ok r.networks ∧
      postureStore.listProfiles = .ok r.profiles ∧
      postureStore.resourceProfilesForWorkspace = .ok r.resourceProfiles ∧
      postureStore.evaluationsForDevices (deviceIds r.groupSpiffes) = .ok r.evaluations := by
  simp only [reads, bind_eq_ok, wrapErr_eq_ok] at h
  obtain ⟨_, -, rules, hrl, collected, hc, groups, hg, rows, hrw, networks,
    hn, profiles, hp, resourceProfiles, hrs, evaluations, he, relay, -, revoked, -, hr⟩ := h
  cases hr
  exact ⟨rules, rows, hrl, hc, hg, hrw, hn, hp, hrs, he⟩

lemma remoteNetworks_ok {rns rows nets} (h : remoteNetworks rns rows = .ok nets) :
    nets = (sortStrings rns.keys).map (aclRemoteNetwork rns rows) := by
  unfold remoteNetworks at h
  split at h
  · exact (Except.ok.inj h).symm
  · cases h

lemma exists_network (h : reads store postureStore = .ok r) (hx : x ∈ r.collected.entries.entries) :
    ∃ n ∈ r.networks, n.remoteNetworkId = x.2.remoteNetworkId := by
  obtain ⟨rules, rows, -, hc, -, -, hn, -⟩ := reads_ok h
  have hnm := collectRules_named hc x hx
  rw [remoteNetworks_ok hn]
  exact ⟨_, mem_map_of_mem (mem_sortStrings.2 (AList.mem_keys.1 hnm)), rfl⟩

lemma networks_nodup (h : reads store postureStore = .ok r) :
    (r.networks.map AclRemoteNetwork.remoteNetworkId).Nodup := by
  obtain ⟨rules, rows, -, -, -, -, hn, -⟩ := reads_ok h
  have hi : r.networks.map AclRemoteNetwork.remoteNetworkId =
      sortStrings r.collected.rnNames.keys := by
    rw [remoteNetworks_ok hn, map_map]
    exact map_id _
  rw [hi]
  exact (perm_insertionSort _ _).nodup_iff.2 r.collected.rnNames.keys_nodup

end Zecurity.Compiler
