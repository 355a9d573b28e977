import Zecurity.Acl
import Zecurity.FakeAddresses

/-!
The client's transport map (`client/src/daemon.rs`, `resolve_entry_coords` and
`build_transports_by_resource_with_crl`; `client/src/net_stack.rs`, `routable_key`): for each
address and port, the connectors that a captured flow is carried by.

`routable_key` captures the TCP entries. The map is filled from all entries, of any protocol, each
at the address it has when its turn comes; a later entry replaces an earlier one at the same key.
A transport is built once for each cache key, from the first coordinates that are listed under it.
-/

namespace Zecurity.TransportMaps

open Acl FakeAddresses FiniteMap List

structure TransportConnector where
  connectorId : String
  connectorTunnelAddr : String
  connectorSpiffe : String
  relayAddr : String
  relaySpiffeId : String

structure TransportRemoteNetwork where
  remoteNetworkId : String
  connectors : List TransportConnector

structure TransportSnapshot where
  remoteNetworks : List TransportRemoteNetwork
  version : UInt64

structure ConnCoords where
  connectorId : String
  connectorTunnelAddr : String
  connectorSpiffe : String
  relayAddr : String
  relaySpiffeId : String
  deriving DecidableEq

def coordsFromAcl (c : AclConnector) : ConnCoords :=
  ⟨c.connectorId, c.connectorTunnelAddr, c.connectorSpiffe, c.relayAddr, c.relaySpiffeId⟩

def coordsFromTransport (c : TransportConnector) : ConnCoords :=
  ⟨c.connectorId, c.connectorTunnelAddr, c.connectorSpiffe, c.relayAddr, c.relaySpiffeId⟩

/-! ### The connectors of an entry -/

/-- The preferred connector first, if it is listed, and then the others in their order. -/
def orderedFor {α : Type} (connectorId : α → String) (entry : AclEntry) (connectors : List α) :
    List α :=
  let preferred := entry.preferredConnectorId
  (if preferred.isEmpty then none else connectors.find? fun c => connectorId c == preferred).toList
    ++ connectors.filter fun c => connectorId c != preferred

def orderedConnectorsForEntry (entry : AclEntry) (rn : AclRemoteNetwork) : List AclConnector :=
  orderedFor AclConnector.connectorId entry rn.connectors

def orderedTransportConnectorsForEntry (entry : AclEntry) (rn : TransportRemoteNetwork) :
    List TransportConnector :=
  orderedFor TransportConnector.connectorId entry rn.connectors

/-- What the connectors are resolved from. -/
structure Planes where
  rnById : Map String AclRemoteNetwork
  trnById : Map String TransportRemoteNetwork
  revoked : List String

/-- The last of several networks with one id is the one that counts. -/
def planes (remoteNetworks : List AclRemoteNetwork) (revoked : List String)
    (transport : Option TransportSnapshot) : Planes where
  rnById := remoteNetworks.foldl (fun m rn => m.insert rn.remoteNetworkId rn) ∅
  trnById := (transport.elim [] (·.remoteNetworks)).foldl
    (fun m trn => m.insert trn.remoteNetworkId trn) ∅
  revoked := revoked

def resolveEntryCoordsUnfiltered (p : Planes) (entry : AclEntry) : List ConnCoords :=
  match p.trnById.lookup entry.remoteNetworkId with
  | some trn => (orderedTransportConnectorsForEntry entry trn).map coordsFromTransport
  | none =>
    match p.rnById.lookup entry.remoteNetworkId with
    | some rn => (orderedConnectorsForEntry entry rn).map coordsFromAcl
    | none => []

def resolveEntryCoords (p : Planes) (entry : AclEntry) : List ConnCoords :=
  (resolveEntryCoordsUnfiltered p entry).filter fun c => decide (c.connectorId ∉ p.revoked)

def allowedEntriesFor (acl : AclSnapshot) (spiffeId : String) : List AclEntry :=
  acl.entries.filter fun e => e.allowedSpiffeIds.any (· == spiffeId)

/-! ### Capture -/

abbrev ResourceKey := Ipv4Addr × UInt16

/-- Whether `routable_key` asks for the address at all. -/
def routable (protocol : String) : Bool := toAsciiLowercase protocol == "tcp" || protocol.isEmpty

def routableKey (nm : NameMap) (address protocol : String) (port : UInt32) :
    Option ResourceKey × NameMap :=
  if routable protocol then
    ((nm.resourceIpv4 address).1.map (·, port.toUInt16), (nm.resourceIpv4 address).2)
  else (none, nm)

/-- The captured keys, each with its entry. -/
def capturedFrom (nm : NameMap) (entries : List AclEntry) : List (ResourceKey × AclEntry) :=
  (filterMapWith (fun nm e =>
    ((routableKey nm e.address e.protocol e.port).1.map (·, e),
      (routableKey nm e.address e.protocol e.port).2)) nm entries).1

/-! ### The map -/

section Build

variable {T ε : Type} (build : ConnCoords → Except ε T)

abbrev TransportMap (T : Type) := Map ResourceKey (Option (List T))

def cacheKey (entry : AclEntry) (c : ConnCoords) : String :=
  if c.connectorId.isEmpty then entry.remoteNetworkId ++ ":" ++ c.connectorTunnelAddr
  else c.connectorId

def transportsOf (entry : AclEntry) : Map String T → List ConnCoords →
    Except ε (List T × Map String T)
  | cache, [] => .ok ([], cache)
  | cache, c :: cs =>
    match cache.lookup (cacheKey entry c) with
    | some t => (transportsOf entry cache cs).map fun r => (t :: r.1, r.2)
    | none =>
      match build c with
      | .error e => .error e
      | .ok t =>
        (transportsOf entry (cache.insert (cacheKey entry c) t) cs).map fun r => (t :: r.1, r.2)

def toSlot : List T → Option (List T)
  | [] => none
  | t :: ts => some (t :: ts)

def buildFrom (p : Planes) : NameMap → TransportMap T → Map String T → List AclEntry →
    NameMap × Except ε (TransportMap T)
  | nm, out, _, [] => (nm, .ok out)
  | nm, out, cache, e :: es =>
    match nm.resourceIpv4 e.address with
    | (none, nm') => buildFrom p nm' out cache es
    | (some v4, nm') =>
      match transportsOf build e cache (resolveEntryCoords p e) with
      | .error err => (nm', .error err)
      | .ok (ts, cache') => buildFrom p nm' (out.insert (v4, e.port.toUInt16) (toSlot ts)) cache' es

/-- The map, and the name map as the call leaves it. -/
def buildTransportsByResourceWithCrl (nm : NameMap) (entries : List AclEntry)
    (remoteNetworks : List AclRemoteNetwork) (revoked : List String)
    (transport : Option TransportSnapshot) : NameMap × Except ε (TransportMap T) :=
  buildFrom build (planes remoteNetworks revoked transport) nm ∅ ∅ entries

/-! ### What stands at a key -/

/-- The entries that have an address, each with the address it has at its turn. -/
def locate (nm : NameMap) (entries : List AclEntry) : List (Ipv4Addr × AclEntry) × NameMap :=
  filterMapWith (fun nm e =>
    ((nm.resourceIpv4 e.address).1.map (·, e), (nm.resourceIpv4 e.address).2)) nm entries

def located (nm : NameMap) (entries : List AclEntry) : List (Ipv4Addr × AclEntry) :=
  (locate nm entries).1

/-- The map is filled from the entries that have an address. -/
def fill (p : Planes) : TransportMap T → Map String T → List (Ipv4Addr × AclEntry) →
    Except ε (TransportMap T)
  | out, _, [] => .ok out
  | out, cache, q :: qs =>
    match transportsOf build q.2 cache (resolveEntryCoords p q.2) with
    | .error err => .error err
    | .ok (ts, cache') => fill p (out.insert (q.1, q.2.port.toUInt16) (toSlot ts)) cache' qs

variable {entry : AclEntry} {cs : List ConnCoords} {p : Planes} {seen : List (String × ConnCoords)}
  {key : String} {c : ConnCoords} {ts : List T} {build' : ConnCoords → Except ε T}
  {qs : List (Ipv4Addr × AclEntry)} {cache : Map String T} {t : T} {out : TransportMap T}

lemma buildFrom_snd (p : Planes) (es : List AclEntry) (nm : NameMap) (out : TransportMap T)
    (cache : Map String T) :
    (buildFrom build p nm out cache es).2 = fill build p out cache (located nm es) := by
  induction es generalizing nm out cache with
  | nil => rfl
  | cons e es ih =>
    unfold buildFrom located locate filterMapWith
    rcases hip : nm.resourceIpv4 e.address with ⟨_ | v4, nm'⟩
    · exact ih nm' out cache
    · change _ = fill build p out cache ((v4, e) :: located nm' es)
      unfold fill
      cases transportsOf build e cache (resolveEntryCoords p e) with
      | error err => rfl
      | ok r => exact ih nm' _ r.2

variable {build}

lemma transportsOf_mono (hm : ∀ c t, build c = .ok t → build' c = .ok t) :
    ∀ {cache : Map String T} {r : List T × Map String T},
      transportsOf build entry cache cs = .ok r → transportsOf build' entry cache cs = .ok r := by
  induction cs with
  | nil => exact fun h => h
  | cons c cs ih =>
    have hr : ∀ {cache : Map String T} {t : T} {r : List T × Map String T},
        ((transportsOf build entry cache cs).map fun r => (t :: r.1, r.2)) = .ok r →
        ((transportsOf build' entry cache cs).map fun r => (t :: r.1, r.2)) = .ok r := by
      intro cache t r h
      cases hcs : transportsOf build entry cache cs with
      | error err =>
        rw [hcs] at h
        cases h
      | ok r' => rwa [ih hcs, ← hcs]
    intro cache r h
    unfold transportsOf at h ⊢
    split at h
    next => exact hr h
    next =>
      split at h
      next => cases h
      next t hb =>
        rw [hm c t hb]
        exact hr h

lemma fill_mono (hm : ∀ c t, build c = .ok t → build' c = .ok t) :
    ∀ {out out' : TransportMap T} {cache : Map String T},
      fill build p out cache qs = .ok out' → fill build' p out cache qs = .ok out' := by
  induction qs with
  | nil => exact fun h => h
  | cons q qs ih =>
    intro out out' cache h
    unfold fill at h ⊢
    split at h
    next => cases h
    next ts cache' hts =>
      rw [transportsOf_mono hm hts]
      exact ih h

lemma transportsOf_total (htt : ∀ c, ∃ t, build c = .ok t) (entry : AclEntry)
    (cs : List ConnCoords) (cache : Map String T) :
    ∃ r, transportsOf build entry cache cs = .ok r := by
  induction cs generalizing cache with
  | nil => exact ⟨_, rfl⟩
  | cons c cs ih =>
    unfold transportsOf
    split
    next t _ =>
      obtain ⟨r, hr⟩ := ih cache
      exact ⟨_, by rw [hr]; rfl⟩
    next =>
      obtain ⟨t, ht⟩ := htt c
      obtain ⟨r, hr⟩ := ih (cache.insert (cacheKey entry c) t)
      exact ⟨_, by rw [ht]; dsimp only; rw [hr]; rfl⟩

lemma fill_total (ht : ∀ c, ∃ t, build c = .ok t) (p : Planes)
    (qs : List (Ipv4Addr × AclEntry)) (out : TransportMap T) (cache : Map String T) :
    ∃ out', fill build p out cache qs = .ok out' := by
  induction qs generalizing out cache with
  | nil => exact ⟨out, rfl⟩
  | cons q qs ih =>
    obtain ⟨⟨ts, cache'⟩, hr⟩ := transportsOf_total ht q.2 (resolveEntryCoords p q.2) cache
    unfold fill
    rw [hr]
    exact ih _ cache'

variable (build)

lemma buildFrom_fst (p : Planes) (es : List AclEntry) (nm : NameMap) (out : TransportMap T)
    (cache : Map String T) :
    ∃ asked, asked <+: es ∧ (buildFrom build p nm out cache es).1 = (locate nm asked).2 ∧
      ∀ out', (buildFrom build p nm out cache es).2 = .ok out' → asked = es := by
  induction es generalizing nm out cache with
  | nil => exact ⟨[], prefix_rfl, rfl, fun _ _ => rfl⟩
  | cons e es ih =>
    have hr : ∀ (nm' : NameMap) (out : TransportMap T) (cache : Map String T),
        (nm.resourceIpv4 e.address).2 = nm' → ∃ asked, asked <+: e :: es ∧
          (buildFrom build p nm' out cache es).1 = (locate nm asked).2 ∧
          ∀ out', (buildFrom build p nm' out cache es).2 = .ok out' → asked = e :: es := by
      intro nm' out cache hnm
      obtain ⟨asked, ha, hf, hall⟩ := ih nm' out cache
      refine ⟨e :: asked, cons_prefix_cons.2 ⟨rfl, ha⟩, ?_, fun out' hok => ?_⟩
      · rw [hf, ← hnm]
        rfl
      · rw [hall out' hok]
    unfold buildFrom
    rcases hip : nm.resourceIpv4 e.address with ⟨_ | v4, nm'⟩
    · exact hr nm' out cache (by rw [hip])
    · dsimp only
      split
      next =>
        refine ⟨[e], cons_prefix_cons.2 ⟨rfl, nil_prefix⟩, ?_, by simp⟩
        rw [show (locate nm [e]).2 = (nm.resourceIpv4 e.address).2 from rfl, hip]
      next ts cache' _ => exact hr nm' _ cache' (by rw [hip])

def keyOf (q : Ipv4Addr × AclEntry) : ResourceKey := (q.1, q.2.port.toUInt16)

def lastAt (k : ResourceKey) (qs : List (Ipv4Addr × AclEntry)) : Option (Ipv4Addr × AclEntry) :=
  qs.reverse.find? fun q => keyOf q = k

/-- All coordinates with their cache keys, in the order they are come by. -/
def listed (p : Planes) (qs : List (Ipv4Addr × AclEntry)) : List (String × ConnCoords) :=
  qs.flatMap fun q => (resolveEntryCoords p q.2).map fun c => (cacheKey q.2 c, c)

/-- The first coordinates under a cache key. -/
def under (seen : List (String × ConnCoords)) (key : String) : Option ConnCoords :=
  (seen.find? fun s => s.1 = key).map (·.2)

/-- The coordinates that the transport for `c` is built from. -/
def builtFrom (seen : List (String × ConnCoords)) (entry : AclEntry) (c : ConnCoords) :
    ConnCoords :=
  (under seen (cacheKey entry c)).getD c

lemma under_append (seen rest : List (String × ConnCoords)) (key : String) :
    under (seen ++ rest) key = (under seen key).or (under rest key) := by
  simp [under, List.find?_append, Option.map_or]

lemma under_append_of_some (h : under seen key = some c) (rest : List (String × ConnCoords)) :
    under (seen ++ rest) key = some c := by
  rw [under_append, h]
  rfl

lemma under_singleton (key key' : String) (c : ConnCoords) :
    under [(key, c)] key' = if key = key' then some c else none := by
  by_cases h : key = key' <;> simp [under, h]

/-- The cache has what was built from the first coordinates under each key. -/
structure CacheOk (seen : List (String × ConnCoords)) (cache : Map String T) : Prop where
  built : ∀ key t, cache.lookup key = some t → ∃ c, under seen key = some c ∧ build c = .ok t
  absent : ∀ key, cache.lookup key = none → under seen key = none

variable {build}

lemma CacheOk.hit (h : CacheOk build seen cache) (ht : cache.lookup key = some t) :
    CacheOk build (seen ++ [(key, c)]) cache := by
  refine ⟨fun key' t' ht' => ?_, fun key' hn => ?_⟩
  · obtain ⟨c', hc', hb⟩ := h.built key' t' ht'
    exact ⟨c', under_append_of_some hc' _, hb⟩
  · rw [under_append, h.absent key' hn, under_singleton, if_neg]
    · rfl
    · rintro rfl
      rw [ht] at hn
      cases hn

lemma CacheOk.miss (h : CacheOk build seen cache) (hn : cache.lookup key = none)
    (hb : build c = .ok t) : CacheOk build (seen ++ [(key, c)]) (cache.insert key t) := by
  refine ⟨fun key' t' ht' => ?_, fun key' hn' => ?_⟩
  · rcases lookup_insert_eq_some.1 ht' with ⟨rfl, rfl⟩ | ⟨-, hold⟩
    · refine ⟨c, ?_, hb⟩
      rw [under_append, h.absent key' hn, under_singleton, if_pos rfl]
      rfl
    · obtain ⟨c', hc', hb'⟩ := h.built key' t' hold
      exact ⟨c', under_append_of_some hc' _, hb'⟩
  · have hne : key' ≠ key := by
      rintro rfl
      rw [AList.lookup_insert] at hn'
      cases hn'
    rw [AList.lookup_insert_ne hne] at hn'
    rw [under_append, h.absent key' hn', under_singleton, if_neg hne.symm]
    rfl

lemma transportsOf_spec :
    ∀ {seen : List (String × ConnCoords)} {cache cache' : Map String T} {ts : List T},
      CacheOk build seen cache → transportsOf build entry cache cs = .ok (ts, cache') →
      CacheOk build (seen ++ cs.map fun c => (cacheKey entry c, c)) cache' ∧
        List.Forall₂ (fun c t => ∃ c', under (seen ++ cs.map fun c => (cacheKey entry c, c))
          (cacheKey entry c) = some c' ∧ build c' = .ok t) cs ts := by
  induction cs with
  | nil =>
    intro seen cache cache' ts hc h
    obtain ⟨rfl, rfl⟩ := Prod.mk.inj (Except.ok.inj h)
    exact ⟨by simpa using hc, .nil⟩
  | cons c cs ih =>
    intro seen cache cache' ts hc h
    -- what is left is done with the key of `c` listed
    have hr : ∀ {cache1 : Map String T} {t : T},
        CacheOk build (seen ++ [(cacheKey entry c, c)]) cache1 →
        cache1.lookup (cacheKey entry c) = some t →
        ((transportsOf build entry cache1 cs).map fun r => (t :: r.1, r.2)) = .ok (ts, cache') →
        CacheOk build (seen ++ (c :: cs).map fun c => (cacheKey entry c, c)) cache' ∧
          List.Forall₂ (fun d t => ∃ c', under (seen ++ (c :: cs).map fun c =>
            (cacheKey entry c, c)) (cacheKey entry d) = some c' ∧ build c' = .ok t)
            (c :: cs) ts := by
      intro cache1 t hc1 ht hm
      cases hcs : transportsOf build entry cache1 cs with
      | error err =>
        rw [hcs] at hm
        cases hm
      | ok r =>
        rw [hcs] at hm
        obtain ⟨rfl, rfl⟩ := Prod.mk.inj (Except.ok.inj hm)
        obtain ⟨hcc', ha⟩ := ih hc1 hcs
        obtain ⟨c', hc', hb⟩ := hc1.built _ t ht
        rw [append_assoc] at hcc' ha
        refine ⟨hcc', .cons ⟨c', ?_, hb⟩ ha⟩
        rw [map_cons, ← singleton_append, ← append_assoc]
        exact under_append_of_some hc' _
    unfold transportsOf at h
    split at h
    next t ht => exact hr (hc.hit ht) ht h
    next hn =>
      split at h
      next => cases h
      next t hb => exact hr (hc.miss hn hb) (AList.lookup_insert _) h

variable (build)

/-- The transports `ts` are those of the entry, through the first coordinates listed. -/
def SlotThrough (p : Planes) (seen : List (String × ConnCoords)) (entry : AclEntry)
    (ts : List T) : Prop :=
  List.Forall₂ (fun c t => ∃ c', under seen (cacheKey entry c) = some c' ∧ build c' = .ok t)
    (resolveEntryCoords p entry) ts

variable {build}

lemma SlotThrough.append (h : SlotThrough build p seen entry ts)
    (rest : List (String × ConnCoords)) : SlotThrough build p (seen ++ rest) entry ts :=
  h.imp fun _ _ ⟨c', hc', hb⟩ => ⟨c', under_append_of_some hc' rest, hb⟩

variable (build)

def FilledWith (p : Planes) (qs : List (Ipv4Addr × AclEntry)) (seen : List (String × ConnCoords))
    (out : TransportMap T) : Prop :=
  ∀ k, match lastAt k qs with
    | none => out.lookup k = none
    | some q => ∃ ts, SlotThrough build p seen q.2 ts ∧ out.lookup k = some (toSlot ts)

variable {build}

lemma lastAt_concat (k : ResourceKey) (qs : List (Ipv4Addr × AclEntry)) (q : Ipv4Addr × AclEntry) :
    lastAt k (qs ++ [q]) = if keyOf q = k then some q else lastAt k qs := by
  by_cases h : keyOf q = k <;> simp [lastAt, h]

lemma FilledWith.insert {q} (h : FilledWith build p qs seen out)
    (rest : List (String × ConnCoords)) (hts : SlotThrough build p (seen ++ rest) q.2 ts) :
    FilledWith build p (qs ++ [q]) (seen ++ rest) (out.insert (keyOf q) (toSlot ts)) := by
  intro k
  rw [lastAt_concat]
  by_cases hk : keyOf q = k
  · rw [if_pos hk]
    exact ⟨ts, hts, by rw [← hk]; exact AList.lookup_insert _⟩
  · rw [if_neg hk, AList.lookup_insert_ne (Ne.symm hk)]
    have hold := h k
    cases hls : lastAt k qs with
    | none =>
      rw [hls] at hold
      exact hold
    | some q' =>
      rw [hls] at hold
      obtain ⟨ts', hts', hl⟩ := hold
      exact ⟨ts', hts'.append rest, hl⟩

lemma fill_spec {rest} :
    ∀ {qs : List (Ipv4Addr × AclEntry)} {out out' : TransportMap T} {cache : Map String T},
      CacheOk build (listed p qs) cache → FilledWith build p qs (listed p qs) out →
      fill build p out cache rest = .ok out' →
      FilledWith build p (qs ++ rest) (listed p (qs ++ rest)) out' := by
  induction rest with
  | nil =>
    intro qs out out' cache _ ho h
    cases h
    simpa using ho
  | cons q rest ih =>
    intro qs out out' cache hc ho h
    unfold fill at h
    split at h
    next => cases h
    next ts cache' hts =>
      obtain ⟨hc', hs⟩ := transportsOf_spec hc hts
      have hl : listed p (qs ++ [q]) =
          listed p qs ++ (resolveEntryCoords p q.2).map fun c => (cacheKey q.2 c, c) := by
        simp [listed]
      have hf := ho.insert _ hs
      rw [← hl] at hc' hf
      have hd := ih hc' hf h
      rwa [append_assoc] at hd

lemma cacheOk_empty : CacheOk build [] (∅ : Map String T) where
  built := by simp
  absent := fun _ _ => rfl

/-- **What a built map has at its keys**: the last entry there, through the first coordinates
listed. -/
lemma filledWith_of_build {nm nm' es rns rev tr}
    (h : buildTransportsByResourceWithCrl build nm es rns rev tr = (nm', .ok out)) :
    FilledWith build (planes rns rev tr) (located nm es)
      (listed (planes rns rev tr) (located nm es)) out := by
  have hf := buildFrom_snd build (planes rns rev tr) es nm ∅ ∅
  rw [← buildTransportsByResourceWithCrl, h] at hf
  have hc : CacheOk build (listed (planes rns rev tr) []) (∅ : Map String T) := cacheOk_empty
  have he : FilledWith build (planes rns rev tr) [] (listed (planes rns rev tr) []) ∅ := fun k => by
    rw [show lastAt k [] = none from rfl]
    rfl
  exact fill_spec hc he hf.symm

/-! ### The right network -/

variable (build)

/-- At every captured key stand the connectors of a captured entry of that key. -/
def RightSlots (p : Planes) (captured : List (ResourceKey × AclEntry)) (out : TransportMap T) :
    Prop :=
  ∀ k, (∃ e, (k, e) ∈ captured) → ∃ e, (k, e) ∈ captured ∧
    ∃ ts, (resolveEntryCoords p e).map build = ts.map .ok ∧ out.lookup k = some (toSlot ts)

/-- The last entry at a captured key, whatever its protocol, has the connectors of a captured
entry of that key, its own connectors read as the first coordinates listed under their names. -/
def LastAgrees (p : Planes) (captured : List (ResourceKey × AclEntry))
    (qs : List (Ipv4Addr × AclEntry)) : Prop :=
  ∀ k, (∃ e, (k, e) ∈ captured) → ∃ e, (k, e) ∈ captured ∧ ∃ q, lastAt k qs = some q ∧
    (resolveEntryCoords p q.2).map (fun c => build (builtFrom (listed p qs) q.2 c)) =
      (resolveEntryCoords p e).map build

variable {build}

lemma map_eq_of_forall₂ {f : ConnCoords → ConnCoords}
    (h : List.Forall₂ (fun c t => build (f c) = .ok t) cs ts) :
    cs.map (fun c => build (f c)) = ts.map .ok := by
  induction h with
  | nil => rfl
  | cons hb _ ih => rw [map_cons, map_cons, hb, ih]

lemma SlotThrough.map_eq (h : SlotThrough build p seen entry ts) :
    (resolveEntryCoords p entry).map (fun c => build (builtFrom seen entry c)) = ts.map .ok := by
  refine map_eq_of_forall₂ (h.imp ?_)
  rintro c t ⟨c', hc', hb⟩
  rw [builtFrom, hc']
  exact hb

lemma toSlot_inj {ts'} (h : toSlot ts = toSlot ts') : ts = ts' := by
  cases ts <;> cases ts' <;> simp_all [toSlot]

/-- The slots of the captured keys are right exactly if the last entries there agree. -/
theorem rightSlots_iff_lastAgrees {nm nm₁ nm₂ : NameMap} {acl : AclSnapshot}
    {transport : Option TransportSnapshot} {spiffeId : String} {out : TransportMap T}
    (h : buildTransportsByResourceWithCrl build nm₁ (allowedEntriesFor acl spiffeId)
      acl.remoteNetworks (revokedConnectorIds acl) transport = (nm₂, .ok out)) :
    RightSlots build (planes acl.remoteNetworks (revokedConnectorIds acl) transport)
        (capturedFrom nm (allowedEntriesFor acl spiffeId)) out ↔
      LastAgrees build (planes acl.remoteNetworks (revokedConnectorIds acl) transport)
        (capturedFrom nm (allowedEntriesFor acl spiffeId))
        (located nm₁ (allowedEntriesFor acl spiffeId)) := by
  have hf := filledWith_of_build h
  constructor
  · intro hr k hk
    obtain ⟨e, he, ts, hts, hl⟩ := hr k hk
    have hat := hf k
    cases hls : lastAt k (located nm₁ (allowedEntriesFor acl spiffeId)) with
    | none =>
      rw [hls, hl] at hat
      cases hat
    | some q =>
      rw [hls] at hat
      obtain ⟨ts', hts', hl'⟩ := hat
      obtain rfl : ts' = ts := toSlot_inj (Option.some.inj (hl'.symm.trans hl))
      exact ⟨e, he, q, rfl, hts'.map_eq.trans hts.symm⟩
  · intro hls k hk
    obtain ⟨e, he, q, hq, ha⟩ := hls k hk
    have hat := hf k
    rw [hq] at hat
    obtain ⟨ts, hts, hl⟩ := hat
    exact ⟨e, he, ts, ha.symm.trans hts.map_eq, hl⟩

end Build

/-- A TCP resource in one network, and at the same address and port an entry of another protocol
in another network. -/
def snapshotWith (protocol : String) : AclSnapshot where
  version := 1
  workspaceId := "w"
  generatedAt := 0
  entries :=
    [⟨"r1", "10.0.0.5", 443, "tcp", ["d"], "web", "connector", "", "n1", ""⟩,
      ⟨"r2", "10.0.0.5", 443, protocol, ["d"], "quic", "connector", "", "n2", ""⟩]
  relayAddr := ""
  relaySpiffeId := ""
  remoteNetworks :=
    [⟨"n1", "one", [⟨"c1", "192.0.2.1:9092", "s1", "", ""⟩]⟩,
      ⟨"n2", "two", [⟨"c2", "192.0.2.2:9092", "s2", "", ""⟩]⟩]
  revokedConnectors := []

/-- The transports are the coordinates they are built from. -/
def buildFor (acl : AclSnapshot) : NameMap × Except String (TransportMap ConnCoords) :=
  buildTransportsByResourceWithCrl .ok .default (allowedEntriesFor acl "d") acl.remoteNetworks
    (revokedConnectorIds acl) none

def webKey : ResourceKey := (⟨10, 0, 0, 5⟩, 443)

def coordsTwo : ConnCoords := ⟨"c2", "192.0.2.2:9092", "s2", "", ""⟩

lemma slot_of_snapshotWith {acl}
    (h : ((buildFor acl).2.toOption.bind (·.lookup webKey)) = some (some [coordsTwo])) :
    ∃ out, buildFor acl = ((buildFor acl).1, .ok out) ∧
      out.lookup webKey = some (some [coordsTwo]) := by
  rcases hb : buildFor acl with ⟨nm, _ | out⟩
  · rw [hb] at h
    cases h
  · rw [hb] at h
    exact ⟨out, rfl, h⟩

/-- The two entries of the snapshot as they are captured. -/
def webEntry : ResourceKey × AclEntry :=
  (webKey, ⟨"r1", "10.0.0.5", 443, "tcp", ["d"], "web", "connector", "", "n1", ""⟩)

def quicEntry (protocol : String) : ResourceKey × AclEntry :=
  (webKey, ⟨"r2", "10.0.0.5", 443, protocol, ["d"], "quic", "connector", "", "n2", ""⟩)

def planesOf (acl : AclSnapshot) : Planes :=
  planes acl.remoteNetworks (revokedConnectorIds acl) none

theorem rightSlots_tcpTwice :
    ∃ out, buildFor (snapshotWith "tcp") = ((buildFor (snapshotWith "tcp")).1, .ok out) ∧
      out.lookup webKey = some (some [coordsTwo]) ∧
      RightSlots (T := ConnCoords) (ε := String) .ok (planesOf (snapshotWith "tcp"))
        (capturedFrom .default (allowedEntriesFor (snapshotWith "tcp") "d")) out := by
  have hs : ((buildFor (snapshotWith "tcp")).2.toOption.bind (·.lookup webKey)) =
      some (some [coordsTwo]) := by decide +kernel
  obtain ⟨out, hb, hs⟩ := slot_of_snapshotWith hs
  refine ⟨out, hb, hs, (rightSlots_iff_lastAgrees hb).2 fun k hk => ?_⟩
  have hc : capturedFrom .default (allowedEntriesFor (snapshotWith "tcp") "d") =
      [webEntry, quicEntry "tcp"] := by decide +kernel
  have hl : lastAt webKey (located .default (allowedEntriesFor (snapshotWith "tcp") "d")) =
      some (⟨10, 0, 0, 5⟩, (quicEntry "tcp").2) := by decide +kernel
  obtain ⟨e, he⟩ := hk
  obtain rfl : k = webKey := by
    rw [hc] at he
    rcases mem_pair.1 he with h | h <;> exact (Prod.mk.inj h).1
  refine ⟨(quicEntry "tcp").2, ?_, _, hl, ?_⟩
  · rw [hc]
    exact mem_pair.2 (.inr rfl)
  · have hcr : resolveEntryCoords (planesOf (snapshotWith "tcp")) (quicEntry "tcp").2 =
        [coordsTwo] := by decide +kernel
    have hbl : builtFrom (listed (planesOf (snapshotWith "tcp"))
        (located .default (allowedEntriesFor (snapshotWith "tcp") "d"))) (quicEntry "tcp").2
        coordsTwo = coordsTwo := by decide +kernel
    rw [planesOf] at hcr hbl
    rw [hcr, map_singleton, map_singleton, hbl]

theorem udp_entry_takes_tcp_slot :
    ∃ out, buildFor (snapshotWith "udp") = ((buildFor (snapshotWith "udp")).1, .ok out) ∧
      capturedFrom .default (allowedEntriesFor (snapshotWith "udp") "d") = [webEntry] ∧
      out.lookup webKey = some (some [coordsTwo]) ∧
      ¬ RightSlots (T := ConnCoords) (ε := String) .ok (planesOf (snapshotWith "udp"))
        (capturedFrom .default (allowedEntriesFor (snapshotWith "udp") "d")) out := by
  have hs : ((buildFor (snapshotWith "udp")).2.toOption.bind (·.lookup webKey)) =
      some (some [coordsTwo]) := by decide +kernel
  obtain ⟨out, hb, hs⟩ := slot_of_snapshotWith hs
  have hc : capturedFrom .default (allowedEntriesFor (snapshotWith "udp") "d") =
      [webEntry] := by decide +kernel
  refine ⟨out, hb, hc, hs, fun h => ?_⟩
  obtain ⟨e, he, ts, hts, hl⟩ := h webKey ⟨webEntry.2, mem_singleton.2 rfl⟩
  obtain rfl : e = webEntry.2 := (Prod.mk.inj (mem_singleton.1 he)).2
  have hne : resolveEntryCoords (planesOf (snapshotWith "udp")) webEntry.2 ≠ [coordsTwo] := by
    decide +kernel
  have hsm : toSlot ts = toSlot [coordsTwo] := Option.some.inj (hl.symm.trans hs)
  obtain rfl := toSlot_inj hsm
  refine hne ?_
  have hok : Function.Injective (Except.ok : ConnCoords → Except String ConnCoords) :=
    fun _ _ h => Except.ok.inj h
  exact hok.list_map hts

end Zecurity.TransportMaps
