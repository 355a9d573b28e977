import Zecurity.PostureEvaluation
import Zecurity.PostureFreshness
import Zecurity.Runs

/-!
Reports, evaluations, policy changes and compiles of one workspace in sequence: whether a
device whose report satisfies a profile is listed by the next `GetOrCompile`
(`controller/internal/posture/evaluate.go`, `controller/internal/policy/cache.go`).

Each action runs alone, so the epoch comparison of `SetIfEpoch` always succeeds. There is one
clock, which the database shares. A policy change is any change of the rules, groups, devices,
profiles or resource policies that notifies. The time of a cached snapshot's compile is a ghost.
-/

namespace Zecurity.PostureRegrant

open Posture PostureEvaluation Checks Compiler PostureFreshness Runs Acl List

/-- What a compile and an evaluation read, apart from the tables of devices. -/
structure Policy where
  store : Store
  profiles : List Profile
  requirements : Uuid → List Requirement
  resourceProfiles : Uuid → List Uuid
  /-- the id is the primary key -/
  unique : (profiles.map Profile.id).Nodup

def postureStore (policy : Policy) (t : Tables) : PostureStore where
  listProfiles := .ok policy.profiles
  resourceProfilesForWorkspace := .ok policy.resourceProfiles
  evaluationsForDevices := fun ids => .ok (evaluationsForDevices t ids)

structure Cached where
  acl : CompiledAcl
  /-- when it was compiled (ghost) -/
  compiledAt : Time

structure State where
  workspaceId : String
  now : Time
  policy : Policy
  tables : Tables
  version : UInt64
  slot : Option Cached

/-! ### The cache -/

def notifyPolicyChange (s : State) : State := { s with version := s.version + 1, slot := none }

/-- `Get`: an expired snapshot is deleted, which notifies a policy change. -/
def get (s : State) : State × Option AclSnapshot :=
  match s.slot with
  | none => (s, none)
  | some entry =>
    if usableAt entry.acl.validUntil s.now then (s, some entry.acl.snapshot)
    else (notifyPolicyChange { s with slot := none }, none)

def setLocked (s : State) (c : CompiledAcl) : State :=
  match s.slot with
  | some existing =>
    if c.snapshot.version < existing.acl.snapshot.version then s
    else { s with slot := some ⟨c, s.now⟩ }
  | none => { s with slot := some ⟨c, s.now⟩ }

/-- The compile, or the failure of the database in it. -/
def compile (s : State) (fault : Option String) : Except String CompiledAcl :=
  match fault with
  | some err => .error err
  | none => compileAclSnapshot s.policy.store (postureStore s.policy s.tables) s.version
      s.workspaceId s.now

def getOrCompile (s : State) (fault : Option String) : State × Except String AclSnapshot :=
  match (get s).2 with
  | some snapshot => ((get s).1, .ok snapshot)
  | none =>
    match compile (get s).1 fault with
    | .error err => ((get s).1, .error err)
    | .ok c => (setLocked (get s).1 c, .ok c.snapshot)

/-! ### The actions -/

inductive Action
  | advance (d : ℕ)
  | insertReport (id deviceId : Uuid) (observations : List Observation)
  | deleteExpiredReports (cutoff : Time)
  | setApproved (deviceId : Uuid) (approved : Bool)
  | recordNetworkObservation (deviceId : Uuid) (country : String)
  | evaluateDevice (deviceId : Uuid) (fault : Option Fault)
  | reevaluateWorkspace (fault : Uuid → Option Fault)
  | changePolicy (policy : Policy)
  | getOrCompile (fault : Option String)

def notifyIf (changed : Bool) (s : State) : State := if changed then notifyPolicyChange s else s

def step (s : State) : Action → Option State
  | .advance d => some { s with now := s.now + d }
  | .insertReport id deviceId observations =>
    some { s with tables := insertReport s.tables ⟨id, deviceId, s.now, observations⟩ }
  | .deleteExpiredReports cutoff =>
    some { s with tables := deleteExpiredReports s.tables cutoff }
  | .setApproved deviceId approved =>
    some { s with tables.approved := Function.update s.tables.approved deviceId approved }
  | .recordNetworkObservation deviceId country =>
    some { s with
      tables.network := Function.update s.tables.network deviceId (some ⟨country, s.now⟩) }
  | .evaluateDevice deviceId fault =>
    let r := evaluateDevice s.tables s.policy.profiles s.policy.requirements s.now deviceId fault
    some (notifyIf (policyChanged r.2) { s with tables := r.1 })
  | .reevaluateWorkspace fault =>
    let r := reevaluateDevices s.policy.profiles s.policy.requirements s.now fault
      (deviceIdsWithReports s.tables) s.tables
    some (notifyIf r.2 { s with tables := r.1 })
  | .changePolicy policy =>
    some (notifyPolicyChange { s with
      policy := policy
      tables := deleteOtherProfiles s.tables (policy.profiles.map Profile.id) })
  | .getOrCompile fault => some (getOrCompile s fault).1

/-! ### The property -/

/-- The device is in a group that a rule grants the entry's resource to. -/
def Entitled (s : State) (x : Entry) (device : Uuid × String) : Prop :=
  ∃ r, reads s.policy.store (postureStore s.policy s.tables) = .ok r ∧
    x ∈ sortedEntries r.collected ∧ device ∈ devices (r.postureInputs s.now) x

def Lists (snapshot : AclSnapshot) (x : Entry) (device : Uuid × String) : Prop :=
  ∃ e ∈ snapshot.entries, e.resourceId = x.1.resourceId ∧ e.address = x.1.address ∧
    e.port = x.1.port ∧ e.protocol = x.1.protocol ∧ device.2 ∈ e.allowedSpiffeIds

/-- A `GetOrCompile` in `s` lists every entitled device with an unexpired satisfied evaluation
of a required profile, and fails only where the database does. -/
def Regrants (s : State) (a : Action) (_ : State) : Prop :=
  ∀ fault, a = .getOrCompile fault → ∀ x device profile, Entitled s x device →
    profile ∈ requiredProfiles s.policy.profiles s.policy.resourceProfiles x.1.resourceId →
    Counts s.tables s.now device.1 profile →
    (fault = none → ∃ snapshot, (getOrCompile s fault).2 = .ok snapshot) ∧
    ∀ snapshot, (getOrCompile s fault).2 = .ok snapshot → Lists snapshot x device

/-- Where a snapshot is cached that `Get` still returns, a device is evaluated only if the
reports of its satisfied evaluations had not expired when that snapshot was compiled. -/
def EvaluatesCompiledIn (s : State) : Action → Prop
  | .evaluateDevice deviceId fault =>
    ∀ entry, s.slot = some entry → usableAt entry.acl.validUntil s.now = true →
      CountedAt s.tables entry.compiledAt s.policy.profiles deviceId fault
  | .reevaluateWorkspace fault =>
    ∀ entry, s.slot = some entry → usableAt entry.acl.validUntil s.now = true →
      ∀ deviceId ∈ deviceIdsWithReports s.tables,
        CountedAt s.tables entry.compiledAt s.policy.profiles deviceId (fault deviceId)
  | _ => True

/-! ### What a compile lists -/

variable {t : Tables} {s s' : State} {a : Action} {x : Entry} {pol : Policy} {r : Reads}

lemma reads_evaluations (h : reads pol.store (postureStore pol t) = .ok r) (t0 : Tables) :
    reads pol.store (postureStore pol t0) =
      .ok { r with evaluations := evaluationsForDevices t0 (deviceIds r.groupSpiffes) } := by
  simp only [reads, bind_eq_ok, wrapErr_eq_ok] at h ⊢
  obtain ⟨_, hpr, rules, hrls, collected, hc, groups, hg, rows, hrw, networks,
    hn, profiles, hp, resourceProfiles, hrs, evaluations, -, relay, hrl, revoked, hrv, hr⟩ := h
  cases hr
  exact ⟨_, hpr, rules, hrls, collected, hc, groups, hg, rows, hrw, networks,
    hn, profiles, hp, resourceProfiles, hrs, _, rfl, relay, hrl, revoked, hrv, rfl⟩

lemma mem_keys_foldl_insert {l : List DeviceIdentity} {acc : AList fun _ : Uuid => String}
    {id : Uuid} (h : id ∈ l.foldl (fun m d => m.insert d.deviceId d.spiffeId) acc) :
    id ∈ acc ∨ ∃ d ∈ l, d.deviceId = id := by
  induction l generalizing acc with
  | nil => exact .inl h
  | cons d rest ih =>
    rcases ih h with ha | ⟨d', hd', rfl⟩
    · rcases (AList.mem_insert _).1 ha with rfl | ha
      · exact .inr ⟨d, mem_cons_self, rfl⟩
      · exact .inl ha
    · exact .inr ⟨d', mem_cons_of_mem d hd', rfl⟩

lemma mem_deviceIds {p : PostureInputs} {dev : Uuid × String} (h : dev ∈ devices p x) :
    dev.1 ∈ deviceIds p.groupSpiffes := by
  obtain ⟨pair, hp, rfl⟩ := mem_map.1 h
  have hk : pair.1 ∈ entryDevices p.groupSpiffes x.2.groups := AList.mem_keys.2 (mem_map_of_mem hp)
  rcases mem_keys_foldl_insert hk with he | ⟨d, hd, hid⟩
  · exact absurd he (AList.notMem_empty _)
  · obtain ⟨group, -, hd⟩ := mem_flatMap.1 hd
    rcases hl : p.groupSpiffes.lookup group with _ | members
    · simp [hl] at hd
    · rw [hl, Option.getD_some] at hd
      refine mem_dedup.2 (mem_flatMap.2 ⟨⟨group, members⟩, ?_, ?_⟩)
      · exact AList.mem_lookup_iff.1 hl
      · exact hid ▸ mem_map_of_mem hd

lemma lists_of_counts {t0 ver wid now time c device prof}
    (hr : reads pol.store (postureStore pol t) = .ok r)
    (hc : compileAclSnapshot pol.store (postureStore pol t0) ver wid time = .ok c)
    (hx : x ∈ sortedEntries r.collected) (hd : device ∈ devices (r.postureInputs now) x)
    (hp : prof ∈ requiredProfiles pol.profiles pol.resourceProfiles x.1.resourceId)
    (hcn : Counts t0 time device.1 prof) : Lists c.snapshot x device := by
  rw [compileAclSnapshot, reads_evaluations hr t0] at hc
  cases hc
  obtain ⟨-, -, -, -, -, -, -, hpr, hrs, -⟩ := reads_ok hr
  rw [Except.ok.inj hpr, Except.ok.inj hrs] at hp
  let p : PostureInputs := Reads.postureInputs
    { r with evaluations := evaluationsForDevices t0 (deviceIds r.groupSpiffes) } time
  refine ⟨aclEntry p x, ?_, rfl, rfl, rfl, rfl, mem_sortStrings.2 ?_⟩
  · rw [assemble_entries]
    exact mem_map_of_mem hx
  · have hg : p.required x.1.resourceId ≠ [] := ne_nil_of_mem hp
    unfold entryPosture
    rw [applyPosture_gated hg]
    refine mem_map_of_mem (mem_filter.2 ⟨hd, decide_eq_true ?_⟩)
    exact authorized_of_counts hcn (mem_deviceIds hd) hp

/-! ### The invariant -/

/-- A cached snapshot that `Get` returns was compiled under the policy of now, from tables in
which everything counted that would count at that time in the tables of now. -/
def Inv (s : State) : Prop :=
  ∀ entry, s.slot = some entry → usableAt entry.acl.validUntil s.now = true →
    entry.compiledAt ≤ s.now ∧ ∃ t₀ version,
      compileAclSnapshot s.policy.store (postureStore s.policy t₀) version s.workspaceId
        entry.compiledAt = .ok entry.acl ∧
      ∀ deviceId, ∀ profile ∈ s.policy.profiles,
        Counts s.tables entry.compiledAt deviceId profile →
          Counts t₀ entry.compiledAt deviceId profile

lemma inv_of_slot_none (h : s.slot = none) : Inv s := by
  intro entry he
  rw [h] at he
  cases he

lemma Inv.of_tables (hi : Inv s)
    (h : ∀ entry, s.slot = some entry → usableAt entry.acl.validUntil s.now = true →
      ∀ did, ∀ prof ∈ s.policy.profiles, Counts t entry.compiledAt did prof →
        Counts s.tables entry.compiledAt did prof) : Inv { s with tables := t } := by
  intro entry he hu
  obtain ⟨hle, t0, version, hc, ha⟩ := hi entry he hu
  exact ⟨hle, t0, version, hc, fun d p hp hcn =>
    ha d p hp (h entry he hu d p hp hcn)⟩

lemma usableAt_earlier {validUntil t t'} (h : usableAt validUntil t' = true) (hle : t ≤ t') :
    usableAt validUntil t = true := by
  simp only [usableAt, Bool.or_eq_true, beq_iff_eq, decide_eq_true_eq] at h ⊢
  exact h.imp_right (lt_of_le_of_lt hle)

lemma inv_notifyIf {changed} (h : changed = false → Inv s) : Inv (notifyIf changed s) := by
  cases changed with
  | false => exact h rfl
  | true => exact inv_of_slot_none rfl

/-! ### `GetOrCompile` -/

lemma get_cases (s : State) :
    (∃ entry, s.slot = some entry ∧ usableAt entry.acl.validUntil s.now = true ∧
      get s = (s, some entry.acl.snapshot)) ∨
    ∃ s1, get s = (s1, none) ∧ s1.slot = none ∧ s1.now = s.now ∧ s1.policy = s.policy ∧
      s1.tables = s.tables ∧ s1.workspaceId = s.workspaceId := by
  rcases hs : s.slot with _ | entry
  · exact .inr ⟨s, by simp [get, hs], hs, rfl, rfl, rfl, rfl⟩
  · by_cases hu : usableAt entry.acl.validUntil s.now = true
    · exact .inl ⟨entry, rfl, hu, by simp [get, hs, hu]⟩
    · refine .inr ⟨notifyPolicyChange { s with slot := none }, ?_, rfl, rfl, rfl, rfl, rfl⟩
      simp [get, hs, hu]

lemma setLocked_of_none (h : s.slot = none) (c : CompiledAcl) :
    setLocked s c = { s with slot := some ⟨c, s.now⟩ } := by
  simp [setLocked, h]

lemma inv_getOrCompile (hi : Inv s) (fault : Option String) : Inv (getOrCompile s fault).1 := by
  rcases get_cases s with ⟨entry, -, -, hg⟩ | ⟨s1, hg, hs, hn, hp, ht, -⟩
  · simpa [getOrCompile, hg] using hi
  · rcases hc : compile s1 fault with err | c
    · simpa [getOrCompile, hg, hc] using inv_of_slot_none hs
    · simp only [getOrCompile, hg, hc, setLocked_of_none hs]
      intro entry he hu
      cases he
      cases fault with
      | some err => cases hc
      | none => exact ⟨le_rfl, s1.tables, s1.version, hc, fun _ _ _ h => h⟩

lemma inv_step (hi : Inv s) (hok : EvaluatesCompiledIn s a) (hs : step s a = some s') : Inv s' := by
  cases a with
  | advance d =>
    cases hs
    intro entry he hu
    have hl : s.now ≤ s.now + d := Nat.le_add_right s.now d
    obtain ⟨hle, hcm⟩ := hi entry he (usableAt_earlier hu hl)
    exact ⟨hle.trans hl, hcm⟩
  | insertReport id did obs =>
    cases hs
    exact hi.of_tables fun _ _ _ _ _ _ => counts_insertReport.1
  | deleteExpiredReports cutoff =>
    cases hs
    exact hi.of_tables fun _ _ _ _ _ _ => counts_of_deleteExpiredReports
  | setApproved | recordNetworkObservation =>
    cases hs
    exact hi.of_tables fun _ _ _ _ _ _ => (counts_congr rfl).1
  | evaluateDevice did fault =>
    cases hs
    refine inv_notifyIf fun hc => hi.of_tables fun entry he hu d p hp hcn => ?_
    exact counts_of_evaluateDevice s.policy.unique hc (hok entry he hu) hp hcn
  | reevaluateWorkspace fault =>
    cases hs
    refine inv_notifyIf fun hc => hi.of_tables fun entry he hu d p hp hcn => ?_
    exact counts_of_reevaluateDevices s.policy.unique hp (nodup_dedup _) hc (hok entry he hu) hcn
  | changePolicy pol => obtain rfl := Option.some.inj hs; exact inv_of_slot_none rfl
  | getOrCompile fault => obtain rfl := Option.some.inj hs; exact inv_getOrCompile hi fault

lemma regrants_of_inv (hi : Inv s) : Regrants s a s' := by
  rintro fault - x dev prof ⟨r, hr, hx, hd⟩ hp hcn
  have hm : prof ∈ s.policy.profiles := by
    obtain ⟨id, -, hf⟩ := mem_filterMap.1 hp
    exact mem_reverse.1 (mem_of_find?_eq_some hf)
  rcases get_cases s with ⟨entry, hsl, hu, hg⟩ |
    ⟨s1, hg, -, hn, hpl, ht, hw⟩
  · -- a hit: the device counted when the snapshot was compiled
    obtain ⟨hle, t0, version, hc, ha⟩ := hi entry hsl hu
    refine ⟨fun _ => ⟨entry.acl.snapshot, by simp [getOrCompile, hg]⟩, fun snapshot hs => ?_⟩
    obtain rfl : entry.acl.snapshot = snapshot := by simpa [getOrCompile, hg] using hs
    exact lists_of_counts hr hc hx hd hp (ha _ _ hm (hcn.earlier hle))
  · -- a miss: the compile reads the tables of now
    have hcm : compile s1 none =
        compileAclSnapshot s.policy.store (postureStore s.policy s.tables) s1.version s.workspaceId
          s.now := by
      rw [compile, hn, hpl, ht, hw]
    have hok : compile s1 none = .ok (assemble r s1.version s.workspaceId s.now) := by
      rw [hcm, compileAclSnapshot, hr]
      rfl
    cases fault with
    | some err =>
      have he : (getOrCompile s (some err)).2 = .error err := by simp [getOrCompile, hg, compile]
      rw [he]
      exact ⟨by simp, by simp⟩
    | none =>
      have hrt : (getOrCompile s none).2 =
          .ok (assemble r s1.version s.workspaceId s.now).snapshot := by
        simp only [getOrCompile, hg, hok]
      rw [hrt]
      refine ⟨fun _ => ⟨_, rfl⟩, fun snapshot hs => ?_⟩
      cases hs
      exact lists_of_counts hr (hcm.symm.trans hok) hx hd hp hcn

/-- **Every run, from an empty cache.** If no device is evaluated past a snapshot that was
compiled after a satisfied evaluation of it expired, every `GetOrCompile` lists every entitled
device with an unexpired satisfied evaluation. -/
theorem regrants_of_evaluatesCompiledIn {s : State} (hempty : s.slot = none) {acts : List Action}
    (hok : Meets step EvaluatesCompiledIn s acts) : Always step Regrants s acts :=
  always_of_meets (fun _ _ _ hi hs => inv_step hi hs)
    (fun _ _ _ hi _ _ => regrants_of_inv hi) (inv_of_slot_none hempty) hok

/-! ### A device that reports again after its report expired -/

/-- `res-1` requires the profile `p1`, which requires disk encryption. -/
def gatedPolicy : Policy where
  store := gatedStore [⟨"dev-a", "spiffe://ws/client/dev-a"⟩]
  profiles := [⟨"p1", "managed", 3⟩]
  requirements := fun _ => [⟨"disk", false, none⟩]
  resourceProfiles := fun id => if id = "res-1" then ["p1"] else []
  unique := List.nodup_singleton _

/-- A controller that has just started, 1000 ns after the zero time. -/
def started : State := ⟨"ws", 1000, gatedPolicy, ⟨[], [], fun _ => false, fun _ => none⟩, 0, none⟩

/-- `dev-a` reports that its disk is encrypted, and is evaluated. -/
def reports (id : Uuid) : List Action :=
  [Action.insertReport id "dev-a" [⟨"disk", .pass, none⟩], .evaluateDevice "dev-a" none]

/-- It reports, is compiled in, and reports again while its first report has not expired. -/
def reportsInTime : List Action :=
  reports "r1" ++ [Action.getOrCompile none, .advance 1000] ++ reports "r2" ++
    [Action.getOrCompile none]

/-- Its first report expires, a compile leaves it out, and it reports again. -/
def reportsLate : List Action :=
  reports "r1" ++ [Action.getOrCompile none, .advance 600000000000, .getOrCompile none] ++
    reports "r2" ++ [Action.getOrCompile none]

theorem regrants_reportsInTime :
    started.slot = none ∧ Meets step EvaluatesCompiledIn started reportsInTime ∧
      Always step Regrants started reportsInTime := by
  have hm : Meets step EvaluatesCompiledIn started reportsInTime := by
    refine .cons rfl trivial (.cons rfl (by rintro _ ⟨⟩) ?_)
    refine .cons rfl trivial (.cons rfl trivial (.cons rfl trivial (.cons rfl ?_
      (.cons rfl trivial trivial))))
    -- the snapshot was compiled at 1000, when the report of 1000 had not expired
    intro entry he _ prof hp _
    cases he
    obtain rfl := mem_singleton.1 hp
    exact ⟨_, rfl, rfl, rfl, 1000, rfl, by decide⟩
  exact ⟨rfl, hm, regrants_of_evaluatesCompiledIn rfl hm⟩

/-- The last call returns the snapshot that was compiled between the two reports, which has no
`ValidUntil` and lists no device. -/
theorem late_report_not_listed : ¬ Always step Regrants started reportsLate := by
  intro h
  have hc := h reportsLate.dropLast (.getOrCompile none) [] _ _ rfl rfl rfl none rfl gatedEntry
    ("dev-a", "spiffe://ws/client/dev-a") ⟨"p1", "managed", 3⟩
    ⟨_, rfl, mem_singleton.2 rfl, by decide⟩ (by decide)
    ⟨_, rfl, rfl, rfl, 600000001000, rfl, by decide⟩
  obtain ⟨e, he, -, -, -, -, hl⟩ := hc.2 _ rfl
  obtain rfl := mem_singleton.1 he
  revert hl
  decide

end Zecurity.PostureRegrant
