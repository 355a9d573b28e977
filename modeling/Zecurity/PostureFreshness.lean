import Zecurity.Compiler

/-!
How long a cached snapshot stands for the posture it was compiled from.

Each device of a gated entry is authorized until its own evaluations expire. The snapshot's
`ValidUntil` is the earliest of its gated entries' times, an entry's time the latest of its
devices'.
-/

namespace Zecurity.PostureFreshness

open Posture Compiler List

variable (p : PostureInputs)

/-- A key with its data, as the loop of the compiler takes it. -/
abbrev Entry := Sigma fun _ : EntryKey => EntryInfo

def devices (x : Entry) : List (Uuid × String) :=
  devicePairs (entryDevices p.groupSpiffes x.2.groups)

def Gated (x : Entry) : Prop := p.required x.1.resourceId ≠ []

def AuthorizedAt (t : Time) (x : Entry) (d : Uuid × String) : Prop :=
  Authorized t (p.required x.1.resourceId) (p.evaluations d.1)

instance (x : Entry) : Decidable (Gated p x) := inferInstanceAs (Decidable (_ ≠ _))

instance (t : Time) (x : Entry) (d : Uuid × String) : Decidable (AuthorizedAt p t x d) :=
  inferInstanceAs (Decidable (Authorized _ _ _))

/-- The entry is gated and lists a device. -/
def GatedListed (x : Entry) : Prop :=
  Gated p x ∧ ∃ d ∈ devices p x, AuthorizedAt p p.now x d

variable {p} {x : Entry}

lemma entryPosture_ne_nil (hg : Gated p x) :
    (entryPosture p x).1 ≠ [] ↔ ∃ d ∈ devices p x, AuthorizedAt p p.now x d := by
  rw [entryPosture, applyPosture_gated hg, ne_eq, map_eq_nil_iff, filter_eq_nil_iff]
  simp [devices, AuthorizedAt]

lemma gatedListed_iff :
    GatedListed p x ↔ (entryPosture p x).2.2 = true ∧ (entryPosture p x).1 ≠ [] := by
  rw [GatedListed, entryPosture, applyPosture_isGated]
  exact and_congr_right fun hg => (entryPosture_ne_nil hg).symm

/-- What the loop knows after the entries `done`. -/
structure LoopInv (p : PostureInputs) (done : List Entry) (loop : EntryLoop) : Prop where
  has : loop.hasPostureGatedEntry = true ↔ ∃ x ∈ done, GatedListed p x
  zero : loop.hasPostureGatedEntry = false → loop.snapshotValidUntil = 0
  attained : loop.hasPostureGatedEntry = true →
    ∃ x ∈ done, GatedListed p x ∧ loop.snapshotValidUntil = (entryPosture p x).2.1
  least : ∀ x ∈ done, GatedListed p x → loop.snapshotValidUntil ≤ (entryPosture p x).2.1

lemma loopInv_step {done loop} (h : LoopInv p done loop) (x : Entry) :
    LoopInv p (done ++ [x]) (entryStep p loop x) := by
  by_cases hx : GatedListed p x
  · have hc := gatedListed_iff.1 hx
    rcases hh : loop.hasPostureGatedEntry with _ | _
    · -- the first gated entry that lists a device
      have hs : entryStep p loop x = ⟨loop.entries ++ [aclEntry p x], (entryPosture p x).2.1,
          true⟩ := by simp [entryStep, hc, hh]
      have hn : ¬ ∃ y ∈ done, GatedListed p y := by simp [← h.has, hh]
      rw [hs]
      refine ⟨by simp [hx], by simp, fun _ => ⟨x, by simp, hx, rfl⟩, fun y hy hyl => ?_⟩
      rcases mem_append.1 hy with hy | hy
      · exact absurd ⟨y, hy, hyl⟩ hn
      · rw [mem_singleton.1 hy]
    · obtain ⟨y0, hy0, hl0, heq⟩ := h.attained hh
      by_cases hlt : (entryPosture p x).2.1 < loop.snapshotValidUntil
      · have hs : entryStep p loop x = ⟨loop.entries ++ [aclEntry p x],
            (entryPosture p x).2.1, true⟩ := by simp [entryStep, hc, hh, hlt]
        rw [hs]
        refine ⟨by simp [hx], by simp, fun _ => ⟨x, by simp, hx, rfl⟩, fun y hy hyl => ?_⟩
        rcases mem_append.1 hy with hy | hy
        · exact hlt.le.trans (h.least y hy hyl)
        · rw [mem_singleton.1 hy]
      · have hs : entryStep p loop x = ⟨loop.entries ++ [aclEntry p x],
            loop.snapshotValidUntil, true⟩ := by simp [entryStep, hc, hh, hlt]
        rw [hs]
        refine ⟨by simp [hx], by simp, fun _ => ⟨y0, by simp [hy0], hl0, heq⟩, fun y hy hyl => ?_⟩
        rcases mem_append.1 hy with hy | hy
        · exact h.least y hy hyl
        · rw [mem_singleton.1 hy]; exact Nat.le_of_not_lt hlt
  · -- nothing to aggregate
    have hs : entryStep p loop x = { loop with entries := loop.entries ++ [aclEntry p x] } := by
      have hc := mt gatedListed_iff.2 hx
      simp [entryStep, hc]
    rw [hs]
    refine ⟨by simp [hx, h.has], h.zero, fun hh => ?_, fun y hy hyl => ?_⟩
    · obtain ⟨y, hy, hyl, heq⟩ := h.attained hh
      exact ⟨y, by simp [hy], hyl, heq⟩
    · rcases mem_append.1 hy with hy | hy
      · exact h.least y hy hyl
      · rw [mem_singleton.1 hy] at hyl; exact absurd hyl hx

lemma loopInv_entryLoop (p : PostureInputs) (xs : List Entry) : LoopInv p xs (entryLoop p xs) := by
  induction xs using List.reverseRecOn with
  | nil => exact ⟨by simp [entryLoop], fun _ => rfl, by simp [entryLoop], by simp⟩
  | append_singleton xs x ih =>
    rw [entryLoop, foldl_append]
    exact loopInv_step ih x

lemma now_lt_validUntil (h : GatedListed p x) : p.now < (entryPosture p x).2.1 := by
  obtain ⟨hg, d, hd, ha⟩ := h
  have hlt := (authorized_later_iff (le_refl p.now)).1 ha
  exact lt_of_lt_of_le hlt ((applyPosture_validUntil_le hg).1 le_rfl d hd ha)

/-! ### The snapshot -/

/-- **Posture freshness of a cached snapshot.** At every later time at which the cache still
returns it, every device that a gated entry lists would be authorized again. -/
def StaysAuthorized (r : Reads) (now : Time) (validUntil : Time) : Prop :=
  ∀ t ≥ now, usableAt validUntil t = true → ∀ x ∈ sortedEntries r.collected,
    Gated (r.postureInputs now) x → ∀ d ∈ devices (r.postureInputs now) x,
      AuthorizedAt (r.postureInputs now) now x d → AuthorizedAt (r.postureInputs now) t x d

/-- No gated entry lists a device; or some gated entry lists one, and whatever evaluation
counts for a device it lists expires no later than one that counts for each device that any
gated entry lists. -/
def OneEntryExpiresFirst (r : Reads) (now : Time) : Prop :=
  let p := r.postureInputs now
  (∀ x ∈ sortedEntries r.collected, ¬ GatedListed p x) ∨
  ∃ x₀ ∈ sortedEntries r.collected, GatedListed p x₀ ∧
    ∀ d₀ ∈ devices p x₀, AuthorizedAt p now x₀ d₀ →
    ∀ x ∈ sortedEntries r.collected, Gated p x → ∀ d ∈ devices p x, AuthorizedAt p now x d →
    ∀ y, CountsUntil now (p.required x₀.1.resourceId) (p.evaluations d₀.1) y →
      ∃ z, CountsUntil now (p.required x.1.resourceId) (p.evaluations d.1) z ∧ y ≤ z

/-- **A cached snapshot stays fresh exactly if one gated entry expires first.** -/
theorem staysAuthorized_iff {store : Store} {postureStore : PostureStore} {version : UInt64}
    {workspaceId : String} {now : Time} {c : CompiledAcl} {r : Reads}
    (hr : reads store postureStore = .ok r)
    (hc : compileAclSnapshot store postureStore version workspaceId now = .ok c) :
    StaysAuthorized r now c.validUntil ↔ OneEntryExpiresFirst r now := by
  obtain rfl : assemble r version workspaceId now = c := by
    simpa [compileAclSnapshot, hr, Except.map] using hc
  have hi := loopInv_entryLoop (r.postureInputs now) (sortedEntries r.collected)
  set V := (assemble r version workspaceId now).validUntil with hV
  have hp : ∀ x ∈ sortedEntries r.collected, GatedListed (r.postureInputs now) x →
      now < V := fun x hx hl => by
    obtain ⟨x1, -, hx1, heq⟩ := hi.attained (hi.has.2 ⟨x, hx, hl⟩)
    exact lt_of_lt_of_eq (now_lt_validUntil hx1) heq.symm
  constructor
  · intro hs
    by_cases hany : ∃ x ∈ sortedEntries r.collected, GatedListed (r.postureInputs now) x
    · obtain ⟨x0, hx0, hl, heq⟩ := hi.attained (hi.has.2 hany)
      have hnow : now < V := hp x0 hx0 hl
      refine .inr ⟨x0, hx0, hl, fun d0 hd0 ha0 x hx hg d hd ha y hy => ?_⟩
      -- just before `ValidUntil` the device is still authorized
      have hu : usableAt V (V - 1) = true := by simp [usableAt]; lia
      have hlat := hs (V - 1) (by lia) hu x hx hg d hd ha
      obtain ⟨z, hz⟩ := authorized_iff.1 hlat
      obtain ⟨hz, hlt⟩ := (countsUntil_later (by lia : now ≤ V - 1)).1 hz
      refine ⟨z, hz, ?_⟩
      have hle : y ≤ V := by
        rw [hV, show (assemble r version workspaceId now).validUntil = _ from heq]
        exact (deviceValidity_le_iff.1 le_rfl y hy).trans
          ((applyPosture_validUntil_le hl.1).1 le_rfl d0 hd0 ha0)
      lia
    · exact .inl fun x hx hl => hany ⟨x, hx, hl⟩
  · rintro (hn | ⟨x0, hx0, hl, hf⟩) t ht hu x hx hg d hd ha
    · exact absurd ⟨hg, d, hd, ha⟩ (hn x hx)
    · have hnow := hp x0 hx0 hl
      have htV : t < V := by
        simp only [usableAt, Bool.or_eq_true, beq_iff_eq, decide_eq_true_eq] at hu
        lia
      -- the first entry's latest device expires no later than `d`
      have hle : (entryPosture (r.postureInputs now) x0).2.1 ≤
          (deviceValidity now ((r.postureInputs now).required x.1.resourceId)
            ((r.postureInputs now).evaluations d.1)).2 := by
        refine (applyPosture_validUntil_le hl.1).2 fun d0 hd0 ha0 => ?_
        refine deviceValidity_le_iff.2 fun y hy => ?_
        obtain ⟨z, hz, hyz⟩ := hf d0 hd0 ha0 x hx hg d hd ha y hy
        exact hyz.trans (deviceValidity_le_iff.1 le_rfl z hz)
      exact (authorized_later_iff ht).2 (lt_of_lt_of_le htV ((hi.least x0 hx0 hl).trans hle))

/-! ### One entry, with one device and with two -/

/-- A resource granted to one group of the given devices. -/
def gatedStore (devices : List DeviceIdentity) : Store where
  parseWorkspace := .ok ()
  listEnabledRulesWithResources := .ok [⟨"res-1", "db", "10.0.0.5", 5432, "tcp", "group-1", "", "",
    "unprotected", "rn-1", "lab", false⟩]
  listActiveDeviceSPIFFEsForGroups := fun _ => .ok
    ((∅ : AList fun _ : String => List DeviceIdentity).insert "group-1" devices)
  getConnectorsForRemoteNetworks := fun _ => .ok []
  getActiveRelay := .ok none
  getRevokedConnectors := .ok []

/-- The resource requires the profile `p1`; `dev-a` reported at 100 ns and `dev-b` at 900 ns. -/
def gatedPosture : PostureStore where
  listProfiles := .ok [⟨"p1", "managed", 3⟩]
  resourceProfilesForWorkspace := .ok fun id => if id = "res-1" then ["p1"] else []
  evaluationsForDevices := fun _ => .ok fun id =>
    if id = "dev-a" then [⟨"p1", true, 3, some 100⟩]
    else if id = "dev-b" then [⟨"p1", true, 3, some 900⟩]
    else []

def gatedEntry : Entry :=
  ⟨⟨"res-1", "10.0.0.5", 5432, "tcp"⟩, ⟨"db", "", "", "connector", "rn-1", ["group-1"]⟩⟩

/-- With `dev-a` alone the snapshot is dropped when its report expires. -/
theorem staysAuthorized_one_device :
    ∃ r c, reads (gatedStore [⟨"dev-a", "spiffe://ws/client/dev-a"⟩]) gatedPosture = .ok r ∧
      compileAclSnapshot (gatedStore [⟨"dev-a", "spiffe://ws/client/dev-a"⟩]) gatedPosture 1 "ws"
        1000 = .ok c ∧
      c.validUntil = 600000000100 ∧ StaysAuthorized r 1000 c.validUntil := by
  have hr : reads (gatedStore [⟨"dev-a", "spiffe://ws/client/dev-a"⟩]) gatedPosture = .ok _ := rfl
  refine ⟨_, _, hr, rfl, by decide, (staysAuthorized_iff hr rfl).2 (.inr ?_)⟩
  refine ⟨gatedEntry, mem_singleton.2 rfl, ⟨by decide, ("dev-a", "spiffe://ws/client/dev-a"),
    mem_singleton.2 rfl, by decide⟩, ?_⟩
  intro d0 hd0 _ x hx _ d hd _ y hy
  obtain rfl : x = gatedEntry := mem_singleton.1 hx
  obtain rfl : d0 = ("dev-a", "spiffe://ws/client/dev-a") := mem_singleton.1 hd0
  obtain rfl : d = ("dev-a", "spiffe://ws/client/dev-a") := mem_singleton.1 hd
  exact ⟨y, hy, le_rfl⟩

/-- With both, the cache returns the snapshot until the later report expires, and 400 ns
before that `dev-a`, listed in it, is no longer authorized. -/
theorem listed_after_expiry :
    ∃ r c, reads (gatedStore [⟨"dev-a", "spiffe://ws/client/dev-a"⟩,
        ⟨"dev-b", "spiffe://ws/client/dev-b"⟩]) gatedPosture = .ok r ∧
      compileAclSnapshot (gatedStore [⟨"dev-a", "spiffe://ws/client/dev-a"⟩,
        ⟨"dev-b", "spiffe://ws/client/dev-b"⟩]) gatedPosture 1 "ws" 1000 = .ok c ∧
      c.snapshot.entries.map Acl.AclEntry.allowedSpiffeIds =
        [["spiffe://ws/client/dev-a", "spiffe://ws/client/dev-b"]] ∧
      usableAt c.validUntil 600000000500 = true ∧ ¬ StaysAuthorized r 1000 c.validUntil := by
  refine ⟨_, _, rfl, rfl, by decide, by decide, fun hs => ?_⟩
  have hl := hs 600000000500 (by decide) (by decide) gatedEntry (mem_singleton.2 rfl)
    (by decide) ("dev-a", "spiffe://ws/client/dev-a") (by decide) (by decide)
  revert hl
  decide

end Zecurity.PostureFreshness
