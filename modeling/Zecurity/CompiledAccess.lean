import Zecurity.FiniteMap
import Zecurity.Isolation

/-!
Whom a compiled list admits: the devices of the groups that the rules name, as far as they pass
the posture that the resource requires.
-/

namespace Zecurity.CompiledAccess

open Acl AList Checks Compiler FiniteMap Isolation List Posture Sessions

/-- The compiler makes an entry of the rule, under this key. -/
def Live (rule : CompilerResourceRow) (key : EntryKey) : Prop :=
  shieldUnavailable rule = false ∧ rule.key = key

/-- Each entry has the groups of all live rules of its key. -/
def Collects (rules : List CompilerResourceRow) (c : Collected) : Prop :=
  ∀ key gid, (∃ info, c.entries.lookup key = some info ∧ gid ∈ info.groups) ↔
    ∃ rule ∈ rules, Live rule key ∧ rule.groupId = gid

variable {rules : List CompilerResourceRow} {rule : CompilerResourceRow} {c c' : Collected}

lemma mem_groups_entryForRule {info} (h : entryForRule c rule = .ok info) (gid : String) :
    gid ∈ info.groups ↔
      (∃ old, c.entries.lookup rule.key = some old ∧ gid ∈ old.groups) ∨ rule.groupId = gid := by
  unfold entryForRule at h
  grind

lemma Collects.concat (h : Collects rules c) (hc : collectRule c rule = .ok c') :
    Collects (rules ++ [rule]) c' := by
  intro key gid
  have hr : (∃ r ∈ rules ++ [rule], Live r key ∧ r.groupId = gid) ↔
      (∃ r ∈ rules, Live r key ∧ r.groupId = gid) ∨ Live rule key ∧ rule.groupId = gid := by
    simp [or_and_right, exists_or]
  rw [hr, ← h key gid]
  unfold collectRule at hc
  split at hc
  · next hu =>
    cases hc
    simp [Live, hu]
  · next hu =>
    obtain ⟨info, hi, hc⟩ := bind_eq_ok.1 hc
    cases hc
    by_cases hk : key = rule.key
    · subst hk
      simp [mem_groups_entryForRule hi, Live, hu]
    · simp [lookup_insert_ne hk, Live, Ne.symm hk]

lemma collects_of_collectRules (h : collectRules rules = .ok c) : Collects rules c := by
  induction rules using List.reverseRecOn generalizing c with
  | nil =>
    cases h
    exact fun key gid => by simp
  | append_singleton rules rule ih =>
    rw [collectRules, foldlM_append] at h
    obtain ⟨c', hc', h⟩ := bind_eq_ok.1 h
    obtain ⟨c'', hc, h⟩ := bind_eq_ok.1 h
    cases h
    exact (ih hc').concat hc

/-! ### The devices of an entry -/

/-- No device has two SPIFFE ids. -/
def OneSpiffe (groupSpiffes : AList fun _ : String => List DeviceIdentity) : Prop :=
  ∀ g, ∀ d ∈ (groupSpiffes.lookup g).getD [], ∀ g', ∀ d' ∈ (groupSpiffes.lookup g').getD [],
    d.deviceId = d'.deviceId → d = d'

lemma lookup_foldl_insert {l : List DeviceIdentity} {d : DeviceIdentity} :
    (((l.foldl (fun m d => m.insert d.deviceId d.spiffeId) ∅ :
      AList fun _ : Uuid => String).lookup d.deviceId = some d.spiffeId) → d ∈ l) ∧
    ((∀ d' ∈ l, d.deviceId = d'.deviceId → d = d') → d ∈ l →
      (l.foldl (fun m d => m.insert d.deviceId d.spiffeId) ∅ :
        AList fun _ : Uuid => String).lookup d.deviceId = some d.spiffeId) := by
  induction l using List.reverseRecOn with
  | nil => exact ⟨nofun, nofun⟩
  | append_singleton l d' ih =>
    simp only [foldl_append, foldl_cons, foldl_nil, lookup_insert_eq_some, mem_append,
      mem_singleton]
    refine ⟨?_, fun hone hd => ?_⟩
    · rintro (⟨hid, hs⟩ | ⟨-, hl⟩)
      · exact .inr (by cases d; cases d'; simp_all)
      · exact .inl (ih.1 hl)
    · grind

lemma mem_devicePairs {devices : AList fun _ : Uuid => String} {id : Uuid} {spiffe : String} :
    (id, spiffe) ∈ devicePairs devices ↔ devices.lookup id = some spiffe := by
  rw [← Option.mem_def, mem_lookup_iff, devicePairs, mem_map]
  constructor
  · rintro ⟨⟨_, _⟩, hm, ⟨⟩⟩
    exact hm
  · exact fun hm => ⟨_, hm, rfl⟩

lemma mem_applyPosture {now : Time} {ds : List (Uuid × String)} {req : List Profile}
    {evs : Uuid → List Evaluation} {sp : String} :
    sp ∈ (applyPosture now ds req evs).1 ↔
      ∃ id, (id, sp) ∈ ds ∧ (req = [] ∨ ∃ x, CountsUntil now req (evs id) x) := by
  by_cases hr : req = []
  · simp [applyPosture, hr]
  · simp [applyPosture_gated hr, authorized_iff, hr]

/-! ### Grants -/

/-- A live rule of this key, and a device of its group that has this SPIFFE id and passes the
posture of the resource. -/
def Granted (rules : List CompilerResourceRow) (r : Reads) (now : Time) (key : EntryKey)
    (spiffe : String) : Prop :=
  let required := requiredProfiles r.profiles r.resourceProfiles key.resourceId
  ∃ rule ∈ rules, Live rule key ∧
    ∃ d ∈ (r.groupSpiffes.lookup rule.groupId).getD [], d.spiffeId = spiffe ∧
      (required = [] ∨ ∃ x, CountsUntil now required (r.evaluations d.deviceId) x)

variable {store : Store} {postureStore : PostureStore} {r : Reads} {version : UInt64}
  {workspaceId : String} {now : Time} {e : AclEntry} {spiffe : String}

lemma granted_of_listed (hc : Collects rules r.collected)
    (he : e ∈ (assemble r version workspaceId now).snapshot.entries)
    (hs : spiffe ∈ e.allowedSpiffeIds) : Granted rules r now (keyOf e) spiffe := by
  rw [assemble_entries] at he
  obtain ⟨x, hx, rfl⟩ := mem_map.1 he
  obtain ⟨id, hid, hp⟩ := mem_applyPosture.1 (mem_sortStrings.1 hs)
  obtain ⟨gid, hg, hd⟩ := mem_flatMap.1
    ((lookup_foldl_insert (d := ⟨id, spiffe⟩)).1 (mem_devicePairs.1 hid))
  obtain ⟨rule, hr, hlv, rfl⟩ := (hc x.1 gid).1 ⟨x.2, mem_lookup_iff.2 (mem_sortedEntries.1 hx), hg⟩
  exact ⟨rule, hr, hlv, _, hd, rfl, hp⟩

lemma listed_of_granted (hc : Collects rules r.collected) (ho : OneSpiffe r.groupSpiffes)
    {key : EntryKey} (h : Granted rules r now key sp) :
    ∃ e ∈ (assemble r version workspaceId now).snapshot.entries,
      keyOf e = key ∧ sp ∈ e.allowedSpiffeIds := by
  obtain ⟨rule, hr, hlv, d, hd, rfl, hp⟩ := h
  obtain ⟨info, hl, hg⟩ := (hc key rule.groupId).2 ⟨rule, hr, hlv, rfl⟩
  have hx := mem_sortedEntries.2 (mem_lookup_iff.1 hl)
  have hm : (d.deviceId, d.spiffeId) ∈ devicePairs (entryDevices r.groupSpiffes info.groups) := by
    refine mem_devicePairs.2 (lookup_foldl_insert.2 (fun d' hd' => ?_) (mem_flatMap.2 ⟨_, hg, hd⟩))
    obtain ⟨g', -, hd'⟩ := mem_flatMap.1 hd'
    exact ho _ d hd g' d' hd'
  rw [assemble_entries]
  exact ⟨_, mem_map_of_mem hx, rfl, mem_sortStrings.2 (mem_applyPosture.2 ⟨_, hm, hp⟩)⟩

/-- **A compiled list is what the rules grant.** It lists only whom a live rule grants, and all of
them if no device has two SPIFFE ids; and a connector with the list admits a client only on an
entry with the request's tuple whose rules grant it. -/
theorem listed_iff_granted (hr : reads store postureStore = .ok r) :
    let snapshot := (assemble r version workspaceId now).snapshot
    ∃ rules, store.listEnabledRulesWithResources = .ok rules ∧
      (∀ e ∈ snapshot.entries, ∀ spiffe ∈ e.allowedSpiffeIds,
        Granted rules r now (keyOf e) spiffe) ∧
      (OneSpiffe r.groupSpiffes → ∀ key spiffe, Granted rules r now key spiffe →
        ∃ e ∈ snapshot.entries, keyOf e = key ∧ spiffe ∈ e.allowedSpiffeIds) ∧
      ∀ client req e, AdmitsWith snapshot client req e →
        e.tuple = (req.destination, req.port.toUInt32, toAsciiLowercase req.protocol) ∧
        Granted rules r now (keyOf e) client := by
  obtain ⟨rules, -, hrl, hc, -⟩ := reads_ok hr
  have hc := collects_of_collectRules hc
  refine ⟨rules, hrl, fun e he spiffe => granted_of_listed hc he,
    fun ho key spiffe => listed_of_granted hc ho, fun client req e ha => ?_⟩
  obtain ⟨hf, hd⟩ := ha
  have ht := find?_some hf
  obtain ⟨hl, hm⟩ := Option.filter_eq_some_iff.1 hd
  exact ⟨matchesTuple_iff.1 ht, granted_of_listed hc (mem_of_find?_eq_some hf) (by simpa using hm)⟩

theorem listed_iff_granted_overlapping : ∃ r rules e, reads overlappingStore noProfiles = .ok r ∧
    AdmitsWith (assemble r 1 "ws" 0).snapshot "spiffe://ws/client/dev-b"
      ⟨"10.0.0.5", 5432, "tcp"⟩ e ∧ Granted rules r 0 (keyOf e) "spiffe://ws/client/dev-b" := by
  have hr : reads overlappingStore noProfiles = .ok _ := rfl
  obtain ⟨rules, -, -, -, ha⟩ := @listed_iff_granted overlappingStore noProfiles _ 1 "ws" 0 hr
  exact ⟨_, rules, _, hr, ⟨rfl, rfl⟩, (ha _ ⟨"10.0.0.5", 5432, "tcp"⟩ _ ⟨rfl, rfl⟩).2⟩

end Zecurity.CompiledAccess
