import Zecurity.Runs
import Zecurity.StateFile

/-!
The order in which a shield applies resource sets, across crashes
(`apply_signed_resource_set` in `shield/src/control_stream.rs`).

A verified set is admitted against the generation of this process and the floor, which is saved
in `state.json` after the set was applied. A crash loses the generation in memory. Admission,
application and save are steps of their own; a save may fail and keep the file or tear it. Peer
lists, renewals and failovers save the state as well. The generations applied are recorded in a
ghost, whatever the outcome of their nftables transaction.
-/

namespace Zecurity.GenerationFloor

open ShieldResources StateFile Runs

inductive Phase
  | idle
  | admitted (payload : ResourceSetPayload)
  | applied (payload : ResourceSetPayload)

structure Process where
  mem : ShieldState
  res : SharedResourceState
  phase : Phase

structure State where
  disk : Disk
  proc : Option Process
  /-- the generations applied, in order (ghost) -/
  applied : List ℕ
  /-- no save of the floor has succeeded since the last application (ghost) -/
  unsaved : Bool

/-- No process runs yet. -/
def start (disk : Disk) : State := ⟨disk, none, [], false⟩

inductive Action
  | deliver (signed : Signed ResourceSetPayload)
  | nftables (lanIp : Option String)
  | saveFloor (w : Write)
  | peerList (signed : Signed PeerListPayload) (w : Write)
  | renew (selectedIdx : Option ℕ) (certNotAfter : Int) (w : Write)
  | failover (selectedIdx : ℕ) (w : Write)
  | crash
  | restart

def Process.step (s : State) (p : Process) : Action → Option State
  | .deliver signed =>
    match p.phase, verifyResourceSet signed p.mem.trustDomain p.mem.shieldId with
    | .idle, .ok payload =>
      let admission := admitResourceSet p.res payload.generation p.mem.resourceGenerationFloor
      match admission.2 with
      | .apply => some { s with
          proc := some { p with res := admission.1, phase := .admitted payload } }
      | _ => some s
    | .idle, .error _ => some s
    | _, _ => none
  | .nftables lanIp =>
    match p.phase with
    | .admitted payload => some { s with
        proc := some { p with res := replaceActive p.res lanIp payload, phase := .applied payload }
        applied := s.applied ++ [payload.generation]
        unsaved := true }
    | _ => none
  | .saveFloor w =>
    match p.phase with
    | .applied payload =>
      let r := raiseFloor p.mem s.disk payload.generation w
      some { s with
        disk := r.2
        proc := some { p with mem := r.1, phase := .idle }
        unsaved := s.unsaved && w != .done }
    | _ => none
  | .peerList signed w =>
    match p.phase with
    | .idle =>
      let r := applySignedPeerList p.mem s.disk signed w
      some { s with disk := r.2.1, proc := some { p with mem := r.1 } }
    | _ => none
  | .renew selectedIdx certNotAfter w =>
    match p.phase with
    | .idle =>
      let r := renewCert p.mem s.disk selectedIdx certNotAfter w
      match r.2 with
      | .ok mem => some { s with disk := r.1, proc := some { p with mem := mem } }
      | .error _ => some { s with disk := r.1 }
    | _ => none
  | .failover selectedIdx w =>
    match p.phase with
    | .idle =>
      let r := adoptFailoverHead p.mem s.disk selectedIdx w
      some { s with disk := r.2, proc := some { p with mem := r.1 } }
    | _ => none
  | .crash => some { s with proc := none }
  | .restart => none

def step (s : State) (a : Action) : Option State :=
  match s.proc with
  | some p => p.step s a
  | none =>
    match a with
    | .restart =>
      match load s.disk with
      | .ok mem => some { s with proc := some ⟨mem, .new, .idle⟩ }
      | .error _ => some s
    | _ => none

/-- The process crashes only when a save of the floor has succeeded since the last application. -/
def CrashesSaved (s : State) : Action → Prop
  | .crash => s.unsaved = false
  | _ => True

instance (s : State) (a : Action) : Decidable (CrashesSaved s a) := by
  cases a <;> unfold CrashesSaved <;> infer_instance

/-! ### The invariant -/

def Process.floor (p : Process) : ℕ := p.mem.resourceGenerationFloor

/-- Between two sets the floor in memory is not below what was applied, and the file has it too,
unless it is the last generation and its save failed. From its admission on, a set is above that
floor, or the file has the floor. -/
inductive Process.Covers (s : State) (p : Process) : Prop
  | idle (hp : p.phase = .idle) (hc : ∀ g ∈ s.applied, g ≤ p.floor)
      (hs : s.unsaved = false → KeepsFloor s.disk p.floor)
      (hu : s.unsaved = true → ∃ l, p.res.lastGeneration = some l ∧ p.floor ≤ l)
  | admitted (payload : ResourceSetPayload) (hp : p.phase = .admitted payload)
      (hc : ∀ g ∈ s.applied, g ≤ p.floor) (hs : s.unsaved = false → KeepsFloor s.disk p.floor)
      (hl : p.res.lastGeneration = some payload.generation) (hf : p.floor ≤ payload.generation)
      (hd : p.floor < payload.generation ∨ KeepsFloor s.disk p.floor)
  | applied (payload : ResourceSetPayload) (hp : p.phase = .applied payload)
      (hc : ∀ g ∈ s.applied, g ≤ payload.generation) (hu : s.unsaved = true)
      (hl : p.res.lastGeneration = some payload.generation) (hf : p.floor ≤ payload.generation)
      (hd : p.floor < payload.generation ∨ KeepsFloor s.disk p.floor)

structure Inv (s : State) : Prop where
  ordered : s.applied.Pairwise (· ≤ ·)
  down : s.proc = none → s.unsaved = false ∧ ∀ g ∈ s.applied, KeepsFloor s.disk g
  running : ∀ p, s.proc = some p → p.Covers s

variable {s s' : State} {p : Process}

lemma inv_start (disk : Disk) : Inv (start disk) where
  ordered := List.Pairwise.nil
  down := fun _ => ⟨rfl, nofun⟩
  running := nofun

/-! ### The steps -/

lemma Inv.of_running (h : s.applied.Pairwise (· ≤ ·)) (hp : s.proc = some p) (hc : p.Covers s) :
    Inv s where
  ordered := h
  down := fun hn => by rw [hp] at hn; cases hn
  running := fun q hq => by
    cases hp.symm.trans hq
    exact hc

lemma Process.Covers.of_idle (h : p.Covers s) (hidl : p.phase = .idle) :
    (∀ g ∈ s.applied, g ≤ p.floor) ∧ (s.unsaved = false → KeepsFloor s.disk p.floor) ∧
      (s.unsaved = true → ∃ l, p.res.lastGeneration = some l ∧ p.floor ≤ l) := by
  cases h with
  | idle hp hc hs hu => exact ⟨hc, hs, hu⟩
  | admitted pl hp => cases hidl.symm.trans hp
  | applied pl hp => cases hidl.symm.trans hp

lemma Inv.idle (hi : Inv s) (hp : s.proc = some p) (hidl : p.phase = .idle) {disk mem}
    (hf : mem.resourceGenerationFloor = p.floor)
    (hd : KeepsFloor s.disk p.floor → KeepsFloor disk p.floor) :
    Inv { s with disk := disk, proc := some { p with mem := mem } } := by
  obtain ⟨hc, hs, hu⟩ := (hi.running p hp).of_idle hidl
  refine .of_running hi.ordered rfl (.idle hidl ?_ ?_ ?_) <;> simp only [Process.floor, hf]
  · exact hc
  · exact fun h => hd (hs h)
  · exact hu

lemma inv_deliver (hi : Inv s) (hp : s.proc = some p) {sg} (hs : p.step s (.deliver sg) = some s') :
    Inv s' := by
  unfold Process.step at hs
  simp only at hs
  split at hs
  · next pl hidl hv =>
    split at hs
    · next ha =>
      cases hs
      obtain ⟨hls, hf, hlt⟩ := admitResourceSet_apply ha
      obtain ⟨hc, hsv, hu⟩ := (hi.running p hp).of_idle hidl
      refine .of_running hi.ordered rfl (.admitted pl rfl hc hsv hls hf ?_)
      cases hun : s.unsaved with
      | false => exact .inr (hsv hun)
      | true =>
        obtain ⟨l, hl, hle⟩ := hu hun
        exact .inl (hle.trans_lt (hlt l hl))
    · cases hs
      exact hi
  · cases hs
    exact hi
  · cases hs

lemma inv_nftables (hi : Inv s) (hp : s.proc = some p) {lanIp}
    (hs : p.step s (.nftables lanIp) = some s') : Inv s' := by
  simp only [Process.step] at hs
  split at hs <;> cases hs
  next pl hph =>
    cases hi.running p hp with
    | idle hp' => cases hph.symm.trans hp'
    | applied pl' hp' => cases hph.symm.trans hp'
    | admitted pl' hp' hc hsv hl hf hd =>
      cases hph.symm.trans hp'
      have hb : ∀ g ∈ s.applied, g ≤ pl.generation := fun g hg => (hc g hg).trans hf
      refine .of_running ?_ rfl (.applied pl rfl (fun g hg => ?_) rfl hl hf hd)
      · refine List.pairwise_append.2 ⟨hi.ordered, List.pairwise_singleton _ _, ?_⟩
        intro g hg g' hg'
        rw [List.mem_singleton.1 hg']
        exact hb g hg
      · rcases List.mem_append.1 hg with hg | hg
        · exact hb g hg
        · exact (List.mem_singleton.1 hg).le

lemma inv_saveFloor (hi : Inv s) (hp : s.proc = some p) {w}
    (hs : p.step s (.saveFloor w) = some s') : Inv s' := by
  simp only [Process.step] at hs
  split at hs <;> cases hs
  next pl hph =>
    cases hi.running p hp with
    | idle hp' => cases hph.symm.trans hp'
    | admitted pl' hp' => cases hph.symm.trans hp'
    | applied pl' hp' hc hun hl hf hd =>
      cases hph.symm.trans hp'
      -- the floor in memory is raised to the generation, however the write ends
      have hfl : (raiseFloor p.mem s.disk pl.generation w).1.resourceGenerationFloor =
          pl.generation := by
        rw [raiseFloor_floor]
        exact max_eq_right hf
      refine .of_running hi.ordered rfl (.idle rfl ?_ (fun hsv => ?_) fun _ => ?_) <;>
        simp only [Process.floor, hfl]
      · exact hc
      · obtain rfl : w = .done := by simpa [hun] using hsv
        exact keepsFloor_raiseFloor hd
      · exact ⟨pl.generation, hl, le_rfl⟩

lemma inv_running {a} (hi : Inv s) (hp : s.proc = some p) (hok : CrashesSaved s a)
    (hs : p.step s a = some s') : Inv s' := by
  cases a with
  | deliver sg => exact inv_deliver hi hp hs
  | nftables lanIp => exact inv_nftables hi hp hs
  | saveFloor w => exact inv_saveFloor hi hp hs
  | peerList sg w =>
    simp only [Process.step] at hs
    split at hs <;> cases hs
    next hidl =>
      exact hi.idle hp hidl (applySignedPeerList_floor ..) fun hd =>
        keepsFloor_applySignedPeerList hd le_rfl sg w
  | renew idx exp w =>
    simp only [Process.step] at hs
    split at hs
    · next hidl =>
      have hd : KeepsFloor s.disk p.floor →
          KeepsFloor (renewCert p.mem s.disk idx exp w).1 p.floor :=
        fun hd => keepsFloor_renewCert hd le_rfl idx exp w
      split at hs
      · next mem hm =>
        cases hs
        exact hi.idle hp hidl (renewCert_floor hm) hd
      · cases hs
        have h := hi.idle hp hidl rfl hd
        rwa [← hp] at h
    · cases hs
  | failover idx w =>
    simp only [Process.step] at hs
    split at hs <;> cases hs
    next hidl =>
      exact hi.idle hp hidl (adoptFailoverHead_floor ..) fun hd =>
        keepsFloor_adoptFailoverHead hd le_rfl idx w
  | crash =>
    cases hs
    refine ⟨hi.ordered, fun _ => ⟨hok, fun g hg => ?_⟩, nofun⟩
    cases hi.running p hp with
    | idle _ hc hsv => exact (hsv hok).mono (hc g hg)
    | admitted _ _ hc hsv => exact (hsv hok).mono (hc g hg)
    | applied _ _ _ hu => cases hok.symm.trans hu
  | restart => cases hs

lemma inv_step {a} (hi : Inv s) (hok : CrashesSaved s a) (hs : step s a = some s') : Inv s' := by
  unfold step at hs
  rcases hp : s.proc with _ | p
  · rw [hp] at hs
    cases a with
    | restart =>
      simp only at hs
      split at hs
      · next mem hl =>
        cases hs
        obtain ⟨hun, hd⟩ := hi.down hp
        refine .of_running hi.ordered rfl (.idle rfl (fun g hg => hd g hg mem hl) ?_ ?_)
        · intro _ state hl'
          cases hl.symm.trans hl'
          exact le_rfl
        · intro h
          cases hun.symm.trans h
      · cases hs
        exact hi
    | _ => cases hs
  · rw [hp] at hs
    exact inv_running hi hp hok hs

/-- **Every run.** If the process never crashes between the application of a set and a save of the
floor that succeeds, the sets are applied in the order of their generations. -/
theorem applied_ordered_of_crashesSaved (disk : Disk) {acts : List Action} {s : State}
    (hok : Meets step CrashesSaved (start disk) acts)
    (hexec : exec step (start disk) acts = some s) : s.applied.Pairwise (· ≤ ·) :=
  (exec_inv_of_meets (fun _ _ _ hi hst hs => inv_step hi hst hs) (inv_start disk) hok
    hexec).ordered

/-! ### A crash after the save, and one before it -/

def enrolled : ShieldState :=
  ⟨"sh-1", "ws.example", [⟨"conn-a", "10.0.0.2:9091"⟩], "100.64.0.5", "2026-07-01T00:00:00Z", 0, 0,
    0⟩

def signedSet (generation : ℕ) : Signed ResourceSetPayload :=
  ⟨true, some ⟨"ws.example", "sh-1", generation, [], []⟩⟩

/-- The save of set 4 fails, set 5 is applied and its floor saved; after a crash, set 3 is refused
and set 6 applied. -/
def crashAfterSave : List Action :=
  [.restart, .deliver (signedSet 4), .nftables none, .saveFloor .kept, .deliver (signedSet 5),
    .nftables none, .saveFloor .done, .crash, .restart, .deliver (signedSet 3),
    .deliver (signedSet 6), .nftables none]

/-- The process crashes right after it has applied set 5; then set 3 arrives. -/
def crashBeforeSave : List Action :=
  [.restart, .deliver (signedSet 5), .nftables none, .crash, .restart, .deliver (signedSet 3),
    .nftables none]

theorem applied_ordered_crashAfterSave :
    ∃ s, Meets step CrashesSaved (start (some (toFile enrolled))) crashAfterSave ∧
      exec step (start (some (toFile enrolled))) crashAfterSave = some s ∧ s.applied = [4, 5, 6] ∧
      s.applied.Pairwise (· ≤ ·) := by
  have hm : Meets step CrashesSaved (start (some (toFile enrolled))) crashAfterSave := by decide
  exact ⟨_, hm, rfl, rfl, applied_ordered_of_crashesSaved _ hm rfl⟩

/-- Set 3 is applied after set 5. -/
theorem rolled_back_by_crash :
    ∃ s, exec step (start (some (toFile enrolled))) crashBeforeSave = some s ∧
      s.applied = [5, 3] ∧ ¬ s.applied.Pairwise (· ≤ ·) :=
  ⟨_, rfl, rfl, by decide⟩

end Zecurity.GenerationFloor
