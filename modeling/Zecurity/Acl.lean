import Mathlib.Data.Finset.Basic

/-!
The compiled access-control list (`proto/client/v1/client.proto`, `ACLSnapshot`) and the
connector's cache of it (`connector/src/policy/mod.rs`, `PolicyCache`).

Admission looks an entry up by its network tuple, the re-check after registration by its resource
id, and the diff of two snapshots says which pairs of client and resource have lost something.
-/

namespace Zecurity.Acl

open List

structure AclConnector where
  connectorId : String
  connectorTunnelAddr : String
  connectorSpiffe : String
  relayAddr : String
  relaySpiffeId : String
  deriving DecidableEq

structure AclRemoteNetwork where
  remoteNetworkId : String
  name : String
  connectors : List AclConnector
  deriving DecidableEq

structure RevokedConnector where
  connectorId : String
  connectorSpiffe : String
  deriving DecidableEq

structure AclEntry where
  resourceId : String
  address : String
  port : UInt32
  protocol : String
  allowedSpiffeIds : List String
  name : String
  routeType : String
  shieldId : String
  remoteNetworkId : String
  preferredConnectorId : String
  deriving DecidableEq

structure AclSnapshot where
  version : UInt64
  workspaceId : String
  generatedAt : Int
  entries : List AclEntry
  relayAddr : String
  relaySpiffeId : String
  remoteNetworks : List AclRemoteNetwork
  revokedConnectors : List RevokedConnector
  deriving DecidableEq

/-- The ids that are not empty. -/
def revokedConnectorIds (acl : AclSnapshot) : List String :=
  (acl.revokedConnectors.map RevokedConnector.connectorId).filter (· ≠ "")

/-- (spiffe_id, resource_id) -/
abbrev SessionKey := String × String

instance : LawfulBEq SessionKey := inferInstance

/-- `to_ascii_lowercase`; `Char.toLower` changes the letters A to Z only. -/
def toAsciiLowercase (s : String) : String := String.ofList (s.toList.map Char.toLower)

def eqIgnoreAsciiCase (a b : String) : Bool := toAsciiLowercase a == toAsciiLowercase b

/-- The local snapshot; no snapshot denies everything. -/
structure PolicyCache where
  snapshot : Option AclSnapshot

/-- What `resolve_resource` returns of the entry it finds. -/
structure ResourceAcl where
  resourceId : String
  allowedSpiffeIds : List String
  routeType : String
  shieldId : String

/-- The pairs that a snapshot allows. -/
def allowSet (snapshot : AclSnapshot) : List SessionKey :=
  snapshot.entries.flatMap fun entry =>
    entry.allowedSpiffeIds.map fun spiffe => (spiffe, entry.resourceId)

/-- The tuple an entry is matched on, with the protocol lowercased. -/
def AclEntry.tuple (entry : AclEntry) : String × UInt32 × String :=
  (entry.address, entry.port, toAsciiLowercase entry.protocol)

/-- The tuples of a resource; `none` where no entry has the id. -/
def tuplesByResource (snapshot : AclSnapshot) (rid : String) :
    Option (Finset (String × UInt32 × String)) :=
  match snapshot.entries.filter fun entry => entry.resourceId = rid with
  | [] => none
  | entries => some (entries.map AclEntry.tuple).toFinset

def findEntryById (snapshot : AclSnapshot) (resourceId : String) : Option AclEntry :=
  snapshot.entries.find? fun e => e.resourceId = resourceId

/-- The pairs of one entry of the previous snapshot whose resource is in both snapshots with
different tuples. -/
def movedPairs (previous snapshot : AclSnapshot) (entry : AclEntry) : List SessionKey :=
  match tuplesByResource previous entry.resourceId, tuplesByResource snapshot entry.resourceId with
  | some old, some new =>
    if old ≠ new then entry.allowedSpiffeIds.map fun spiffe => (spiffe, entry.resourceId) else []
  -- absent from either side: the pair diff covers it
  | _, _ => []

/-- The match of `resolve_resource` on one entry. -/
def AclEntry.matchesTuple (e : AclEntry) (address : String) (port : UInt16) (protocol : String) :
    Bool :=
  e.address == address && e.port == port.toUInt32 && eqIgnoreAsciiCase e.protocol protocol

namespace PolicyCache

def new : PolicyCache := ⟨none⟩

def version (c : PolicyCache) : UInt64 := c.snapshot.elim 0 AclSnapshot.version

/-- Replace the snapshot; the result is the set of pairs whose sessions are to be torn
down. -/
def updateAndRevoked (c : PolicyCache) (snapshot : AclSnapshot) : PolicyCache × List SessionKey :=
  let newSet := allowSet snapshot
  match c.snapshot with
  | some previous =>
    (⟨some snapshot⟩, (allowSet previous).filter (· ∉ newSet) ++
      previous.entries.flatMap (movedPairs previous snapshot))
  | none => (⟨some snapshot⟩, [])

def isAllowed (c : PolicyCache) (resourceId clientSpiffeId : String) : Bool :=
  match c.snapshot with
  | none => false
  | some snapshot =>
    match findEntryById snapshot resourceId with
    | none => false
    | some entry =>
      !entry.allowedSpiffeIds.isEmpty && entry.allowedSpiffeIds.contains clientSpiffeId

/-- The first entry with the tuple. -/
def resolveResource (c : PolicyCache) (address : String) (port : UInt16) (protocol : String) :
    Option ResourceAcl :=
  c.snapshot.bind fun snapshot =>
    (snapshot.entries.find? fun e => e.matchesTuple address port protocol).map fun entry =>
      ⟨entry.resourceId, entry.allowedSpiffeIds, entry.routeType, entry.shieldId⟩

end PolicyCache

/-! ### The lookups -/

variable {snapshot : AclSnapshot} {client rid : String} {e : AclEntry}

lemma mem_allowSet :
    (client, rid) ∈ allowSet snapshot ↔
      ∃ e ∈ snapshot.entries, client ∈ e.allowedSpiffeIds ∧ e.resourceId = rid := by
  simp [allowSet]

lemma matchesTuple_iff {addr port proto} :
    e.matchesTuple addr port proto = true ↔
      e.tuple = (addr, port.toUInt32, toAsciiLowercase proto) := by
  simp [AclEntry.matchesTuple, AclEntry.tuple, eqIgnoreAsciiCase, and_assoc]

lemma tuplesByResource_eq_some (he : e ∈ snapshot.entries) (hr : e.resourceId = rid) :
    tuplesByResource snapshot rid =
      some ((snapshot.entries.filter fun e => e.resourceId = rid).map AclEntry.tuple).toFinset := by
  have hm : e ∈ snapshot.entries.filter fun e => e.resourceId = rid := by simp [he, hr]
  unfold tuplesByResource
  split
  · next h => simp [h] at hm
  · rfl

lemma findEntryById_some (h : findEntryById snapshot rid = some e) :
    e ∈ snapshot.entries ∧ e.resourceId = rid :=
  ⟨mem_of_find?_eq_some h, by simpa using List.find?_some h⟩

variable {prev : AclSnapshot} {c : PolicyCache}

lemma isAllowed_iff :
    c.isAllowed rid client = true ↔ ∃ snapshot e, c.snapshot = some snapshot ∧
      findEntryById snapshot rid = some e ∧ client ∈ e.allowedSpiffeIds := by
  unfold PolicyCache.isAllowed
  grind

/-! ### What the diff keeps -/

/-- The snapshot has an entry with the resource id and the tuple that lists the client. -/
def AclSnapshot.Grants (snapshot : AclSnapshot) (rid : String) (tuple : String × UInt32 × String)
    (client : String) : Prop :=
  ∃ e ∈ snapshot.entries, e.resourceId = rid ∧ e.tuple = tuple ∧ client ∈ e.allowedSpiffeIds

/-- No resource id repeats. -/
def AclSnapshot.Distinct (snapshot : AclSnapshot) : Prop :=
  (snapshot.entries.map AclEntry.resourceId).Nodup

lemma AclSnapshot.Distinct.eq (h : snapshot.Distinct) {e'} (he : e ∈ snapshot.entries)
    (he' : e' ∈ snapshot.entries) (hid : e.resourceId = e'.resourceId) : e = e' :=
  inj_on_of_nodup_map h he he' hid

lemma AclSnapshot.Distinct.findEntryById (h : snapshot.Distinct) (he : e ∈ snapshot.entries) :
    findEntryById snapshot e.resourceId = some e := by
  obtain ⟨e', hf⟩ := Option.isSome_iff_exists.1
    (find?_isSome (p := fun x => x.resourceId = e.resourceId).2 ⟨e, he, by simp⟩)
  obtain ⟨he', hid⟩ := findEntryById_some hf
  rw [Acl.findEntryById, hf, h.eq he' he hid]

lemma PolicyCache.updateAndRevoked_fst (c : PolicyCache) (snapshot : AclSnapshot) :
    (c.updateAndRevoked snapshot).1 = ⟨some snapshot⟩ := by
  unfold updateAndRevoked
  simp only
  split <;> rfl

lemma AclSnapshot.Distinct.tuplesByResource (h : snapshot.Distinct) (he : e ∈ snapshot.entries) :
    tuplesByResource snapshot e.resourceId = some {e.tuple} := by
  rw [tuplesByResource_eq_some he rfl, Option.some.injEq]
  ext tuple
  simp only [mem_toFinset, List.mem_map, mem_filter, decide_eq_true_eq, Finset.mem_singleton]
  constructor
  · rintro ⟨e', ⟨he', hid⟩, rfl⟩
    rw [h.eq he' he hid]
  · rintro rfl
    exact ⟨e, ⟨he, rfl⟩, rfl⟩

/-- **What the diff does not name is still granted**: a pair granted on a tuple by the
previous snapshot and not among the revoked ones is granted on that tuple by the new one. -/
theorem grants_of_not_revoked (hc : c.snapshot = some prev) (hd : snapshot.Distinct) {tuple}
    (hg : prev.Grants rid tuple client) (hn : (client, rid) ∉ (c.updateAndRevoked snapshot).2) :
    snapshot.Grants rid tuple client := by
  obtain ⟨e, he, rfl, rfl, hcl⟩ := hg
  simp only [PolicyCache.updateAndRevoked, hc, mem_append, not_or] at hn
  obtain ⟨hp, hm⟩ := hn
  -- the pair is still allowed, by an entry of the same id
  have hnew : (client, e.resourceId) ∈ allowSet snapshot := by
    by_contra ha
    exact hp (mem_filter.2 ⟨mem_allowSet.2 ⟨e, he, hcl, rfl⟩, by simpa using ha⟩)
  obtain ⟨e', he', hc', hid⟩ := mem_allowSet.1 hnew
  -- and that entry's tuple is the only one of the id before, too
  have ht : tuplesByResource prev e.resourceId = some {e'.tuple} := by
    by_contra hne
    refine hm (mem_flatMap.2 ⟨e, he, ?_⟩)
    rw [tuplesByResource_eq_some he rfl, Option.some.injEq] at hne
    rw [movedPairs, tuplesByResource_eq_some he rfl, ← hid, hd.tuplesByResource he', hid]
    simp [hne, hcl]
  rw [tuplesByResource_eq_some he rfl, Option.some.injEq] at ht
  have hmem := Finset.ext_iff.1 ht e.tuple
  simp only [mem_toFinset, Finset.mem_singleton] at hmem
  have htp := hmem.1 (mem_map_of_mem (mem_filter.2 ⟨he, by simp⟩))
  exact ⟨e', he', hid, htp.symm, hc'⟩

lemma mem_movedPairs (hp : prev.Distinct) (hd : snapshot.Distinct) (he : e ∈ prev.entries)
    (h : (client, rid) ∈ movedPairs prev snapshot e) :
    e.resourceId = rid ∧ client ∈ e.allowedSpiffeIds ∧
      ∀ new ∈ snapshot.entries, new.resourceId = rid → new.tuple ≠ e.tuple := by
  rw [movedPairs, hp.tuplesByResource he] at h
  split at h
  · next old new hold hn =>
    cases hold
    split at h
    · next hne =>
      obtain ⟨spiffe, hs, ⟨⟩⟩ := List.mem_map.1 h
      refine ⟨rfl, hs, fun e' he' hid ht => hne ?_⟩
      rw [← hid, hd.tuplesByResource he', Option.some.injEq] at hn
      rw [← hn, ht]
    · cases h
  · cases h

/-- **The diff is exact**: where ids do not repeat, it names a pair exactly if the old
snapshot allowed it and the new one's entry of the id, if there is one, has another tuple or
does not list the client; the cache then answers from the new snapshot. -/
theorem updateAndRevoked_exact {previous snapshot : AclSnapshot} (hprevious : previous.Distinct)
    (hdistinct : snapshot.Distinct) (rid client : String) :
    ((client, rid) ∈ (PolicyCache.updateAndRevoked ⟨some previous⟩ snapshot).2 ↔
      ∃ old ∈ previous.entries, old.resourceId = rid ∧ client ∈ old.allowedSpiffeIds ∧
        ∀ new ∈ snapshot.entries, new.resourceId = rid →
          new.tuple ≠ old.tuple ∨ client ∉ new.allowedSpiffeIds) ∧
    ((PolicyCache.updateAndRevoked ⟨some previous⟩ snapshot).1.isAllowed rid client = true ↔
      ∃ e ∈ snapshot.entries, e.resourceId = rid ∧ client ∈ e.allowedSpiffeIds) := by
  refine ⟨⟨fun h => ?_, ?_⟩, ?_⟩
  · rcases mem_append.1 h with hg | hm
    · obtain ⟨hp, hnot⟩ := mem_filter.1 hg
      obtain ⟨old, hold, hc, hid⟩ := mem_allowSet.1 hp
      exact ⟨old, hold, hid, hc, fun new hn hid => .inr fun hmem =>
        of_decide_eq_true hnot (mem_allowSet.2 ⟨new, hn, hmem, hid⟩)⟩
    · obtain ⟨old, hold, hp⟩ := mem_flatMap.1 hm
      obtain ⟨hid, hc, hne⟩ := mem_movedPairs hprevious hdistinct hold hp
      exact ⟨old, hold, hid, hc, fun new hn hid => .inl (hne new hn hid)⟩
  · rintro ⟨old, hold, hid, hc, hl⟩
    by_contra hk
    obtain ⟨e, he, hid, ht, hmem⟩ := grants_of_not_revoked rfl hdistinct
      ⟨old, hold, hid, rfl, hc⟩ hk
    exact (hl e he hid).elim (· ht) (· hmem)
  · rw [PolicyCache.updateAndRevoked_fst, isAllowed_iff]
    constructor
    · rintro ⟨_, e, ⟨⟩, hf, hmem⟩
      obtain ⟨he, hid⟩ := findEntryById_some hf
      exact ⟨e, he, hid, hmem⟩
    · rintro ⟨e, he, rfl, hmem⟩
      exact ⟨snapshot, e, rfl, hdistinct.findEntryById he, hmem⟩

/-- The database on one port, for one client. -/
def databaseOn (port : UInt32) : AclSnapshot :=
  ⟨1, "ws", 0, [⟨"db", "10.0.0.1", port, "tcp", ["dev"], "db", "connector", "", "rn", ""⟩], "", "",
    [], []⟩

lemma databaseOn_distinct (port : UInt32) : (databaseOn port).Distinct := nodup_singleton _

/-- The session on the old port is named when the database moves. -/
theorem updateAndRevoked_exact_moved :
    ("dev", "db") ∈ (PolicyCache.updateAndRevoked ⟨some (databaseOn 22)⟩ (databaseOn 23)).2 :=
  (updateAndRevoked_exact (databaseOn_distinct 22) (databaseOn_distinct 23) "db" "dev").1.2
    ⟨_, mem_cons_self, rfl, mem_cons_self, by decide⟩

end Zecurity.Acl
