import Zecurity.Runs
import Zecurity.StateFile

/-!
Whether a shield's `state.json` still loads (`handle_connector_msg`,
`apply_signed_peer_list` and `apply_signed_resource_set` in `shield/src/control_stream.rs`,
`renew_cert` in `shield/src/renewal.rs`).

An empty peer list empties the connectors in memory and leaves those in the file. A resource set of
a new generation saves the whole state in memory, connectors included. Each message is handled as
one step, and every write succeeds. A shield without connectors dials none, so a failover or a
renewal goes to a connector of the list.
-/

namespace Zecurity.ShieldRestart

open ShieldResources StateFile Runs

structure State where
  mem : ShieldState
  disk : Disk
  res : SharedResourceState

/-- A `ResourceSnapshot`, with what the shield finds when it handles it. -/
structure Snapshot where
  /-- `workspace_ca.crt` has a key -/
  caKey : Bool
  peers : Option (Signed PeerListPayload)
  /-- the revocation list lets the connector act -/
  mayAct : Bool
  resourceSet : Option (Signed ResourceSetPayload)
  lanIp : Option String

def applyPeers (s : State) (peers : Option (Signed PeerListPayload)) : State :=
  match peers with
  | none => s
  | some signed =>
    let r := applySignedPeerList s.mem s.disk signed .done
    { s with mem := r.1, disk := r.2.1 }

def applySignedResourceSet (s : State) (resourceSet : Option (Signed ResourceSetPayload))
    (lanIp : Option String) : State :=
  match resourceSet with
  | none => s
  | some signed =>
    match verifyResourceSet signed s.mem.trustDomain s.mem.shieldId with
    | .error _ => s
    | .ok payload =>
      let admission := admitResourceSet s.res payload.generation s.mem.resourceGenerationFloor
      match admission.2 with
      | .apply =>
        let r := raiseFloor s.mem s.disk payload.generation .done
        { mem := r.1, disk := r.2, res := replaceActive admission.1 lanIp payload }
      | _ => s

def handleSnapshot (s : State) (snap : Snapshot) : State :=
  if !snap.caKey then s
  else
    let s := applyPeers s snap.peers
    if !snap.mayAct then s else applySignedResourceSet s snap.resourceSet snap.lanIp

inductive Action
  | snapshot (snap : Snapshot)
  | renew (selectedIdx : Option ℕ) (certNotAfter : Int)
  | failover (selectedIdx : ℕ)
  /-- the head refused for good: it goes to the tail, in memory only -/
  | demoteHead
  | restart

def step (s : State) : Action → Option State
  | .snapshot snap => some (handleSnapshot s snap)
  | .renew selectedIdx certNotAfter =>
    let r := renewCert s.mem s.disk selectedIdx certNotAfter .done
    match r.2 with
    | .ok mem => some { s with mem := mem, disk := r.1 }
    | .error _ => some { s with disk := r.1 }
  | .failover selectedIdx =>
    if selectedIdx < s.mem.connectors.length then
      let r := adoptFailoverHead s.mem s.disk selectedIdx .done
      some { s with mem := r.1, disk := r.2 }
    else none
  | .demoteHead =>
    if 1 < s.mem.connectors.length then
      some { s with mem.connectors := s.mem.connectors.rotate 1 }
    else some s
  | .restart =>
    match load s.disk with
    | .ok mem => some { s with mem := mem, res := .new }
    | .error _ => none

def start (mem : ShieldState) (disk : Disk) : State := ⟨mem, disk, .new⟩

/-- A new process would find its state. -/
def Loads (s : State) : Prop := ∃ mem, load s.disk = .ok mem

/-! ### The condition -/

def TakesPeers (s : State) (snap : Snapshot) (payload : PeerListPayload) : Prop :=
  ∃ signed, snap.peers = some signed ∧ Newer s.mem signed payload

/-- The snapshot carries a resource set of a generation above the floor and the last one. -/
def RaisesFloor (s : State) (snap : Snapshot) : Prop :=
  snap.mayAct = true ∧ ∃ signed payload, snap.resourceSet = some signed ∧
    verifyResourceSet signed s.mem.trustDomain s.mem.shieldId = .ok payload ∧
    s.mem.resourceGenerationFloor < payload.generation ∧
    ∀ l, s.res.lastGeneration = some l → l < payload.generation

/-- A set that raises the floor comes when the connectors are not empty: those of the peer list
that comes with it, if the shield takes one, and else those in memory. -/
def KeepsConnector (s : State) : Action → Prop
  | .snapshot snap => snap.caKey = true → RaisesFloor s snap →
      (∀ payload, TakesPeers s snap payload → payload.peers ≠ []) ∧
      ((∀ payload, ¬ TakesPeers s snap payload) → s.mem.connectors ≠ [])
  | _ => True

/-! ### The peer list -/

lemma loads_save {mem} (h : mem.connectors ≠ []) (disk : Disk) :
    ∃ mem', load (save mem .done disk) = .ok mem' := ⟨mem, load_save h disk⟩

variable {s : State}

lemma loads_accepted {sg pl} (hnew : Newer s.mem sg pl) (hl : Loads s) :
    Loads (applyPeers s (some sg)) := by
  unfold Loads applyPeers
  simp only [applySignedPeerList_of_newer hnew]
  by_cases hn : pl.peers = []
  · obtain ⟨onDisk, hod⟩ := hl
    obtain ⟨-, -, -, hne⟩ := load_ok hod
    simp only [if_pos hn, persistIssuedAt, hod]
    have hne' : ({ onDisk with peerListIssuedAtMs := pl.issuedAtUnixMs } :
        ShieldState).connectors ≠ [] := hne
    exact loads_save hne' s.disk
  · rw [if_neg hn]
    exact loads_save (fun h => hn (keepHead_eq_nil.1 h)) _

lemma applyPeers_cases (s : State) (snap : Snapshot) :
    ((∀ payload, ¬ TakesPeers s snap payload) ∧ applyPeers s snap.peers = s) ∨
      ∃ payload, TakesPeers s snap payload ∧
        (applyPeers s snap.peers).mem = accepted s.mem payload ∧
        (applyPeers s snap.peers).res = s.res ∧ (Loads s → Loads (applyPeers s snap.peers)) := by
  rcases hp : snap.peers with _ | signed
  · left
    refine ⟨?_, rfl⟩
    rintro payload ⟨signed, hs, -⟩
    cases hp.symm.trans hs
  · by_cases hn : ∃ payload, Newer s.mem signed payload
    · obtain ⟨payload, hn⟩ := hn
      right
      refine ⟨payload, ⟨signed, hp, hn⟩, ?_, rfl, loads_accepted hn⟩
      simp only [applyPeers, applySignedPeerList_of_newer hn]
    · left
      have hnn : ∀ payload, ¬ Newer s.mem signed payload := fun payload h => hn ⟨payload, h⟩
      refine ⟨?_, by simp only [applyPeers, applySignedPeerList_of_not_newer hnn]⟩
      rintro payload ⟨sg', hs, h⟩
      cases hp.symm.trans hs
      exact hnn payload h

/-! ### The resource set -/

def SetRaisesFloor (s : State) (resourceSet : Option (Signed ResourceSetPayload)) : Prop :=
  ∃ signed payload, resourceSet = some signed ∧
    verifyResourceSet signed s.mem.trustDomain s.mem.shieldId = .ok payload ∧
    s.mem.resourceGenerationFloor < payload.generation ∧
    ∀ l, s.res.lastGeneration = some l → l < payload.generation

lemma admitResourceSet_above {res gen floor} (hf : floor < gen)
    (hls : ∀ l, res.lastGeneration = some l → l < gen) :
    (admitResourceSet res gen floor).2 = .apply := by
  unfold admitResourceSet
  grind

lemma applySignedResourceSet_disk (s : State) (rset : Option (Signed ResourceSetPayload))
    (lanIp : Option String) :
    (SetRaisesFloor s rset ∧ ∃ mem, mem.connectors = s.mem.connectors ∧
        (applySignedResourceSet s rset lanIp).disk = save mem .done s.disk) ∨
      (¬ SetRaisesFloor s rset ∧ (applySignedResourceSet s rset lanIp).disk = s.disk) := by
  rcases rset with _ | signed
  · right
    refine ⟨?_, rfl⟩
    rintro ⟨signed, payload, h, -⟩
    cases h
  · rcases hv : verifyResourceSet signed s.mem.trustDomain s.mem.shieldId with err | payload
    · right
      refine ⟨?_, by simp only [applySignedResourceSet, hv]⟩
      rintro ⟨sg', payload, hs, hok, -⟩
      cases hs
      cases hv.symm.trans hok
    · by_cases hr : s.mem.resourceGenerationFloor < payload.generation ∧
          ∀ l, s.res.lastGeneration = some l → l < payload.generation
      · left
        refine ⟨⟨signed, payload, rfl, hv, hr⟩,
          { s.mem with resourceGenerationFloor := payload.generation }, rfl, ?_⟩
        simp only [applySignedResourceSet, hv, admitResourceSet_above hr.1 hr.2,
          raiseFloor, if_pos hr.1]
      · right
        refine ⟨?_, ?_⟩
        · rintro ⟨sg', payload', hs, hok, h⟩
          cases hs
          cases hv.symm.trans hok
          exact hr h
        · simp only [applySignedResourceSet, hv]
          split
          · next ha =>
            obtain ⟨-, -, hl⟩ := admitResourceSet_apply ha
            have hf : ¬ s.mem.resourceGenerationFloor < payload.generation := fun hf => hr ⟨hf, hl⟩
            simp only [raiseFloor, if_neg hf]
          · rfl

/-! ### One step -/

lemma setRaisesFloor_applyPeers {snap} (ha : snap.mayAct = true) :
    SetRaisesFloor (applyPeers s snap.peers) snap.resourceSet ↔ RaisesFloor s snap := by
  rcases applyPeers_cases s snap with ⟨-, hs⟩ | ⟨payload, -, hm, hr, -⟩
  · rw [hs]
    exact ⟨fun h => ⟨ha, h⟩, fun h => h.2⟩
  · unfold SetRaisesFloor
    rw [hm, hr]
    exact ⟨fun h => ⟨ha, h⟩, fun h => h.2⟩

lemma connectors_applyPeers (s : State) (snap : Snapshot) :
    (applyPeers s snap.peers).mem.connectors ≠ [] ↔
      (∀ payload, TakesPeers s snap payload → payload.peers ≠ []) ∧
        ((∀ payload, ¬ TakesPeers s snap payload) → s.mem.connectors ≠ []) := by
  rcases applyPeers_cases s snap with ⟨hn, hs⟩ | ⟨payload, ht, hm, -, -⟩
  · rw [hs]
    exact ⟨fun h => ⟨fun p hp => absurd hp (hn p), fun _ => h⟩, fun h => h.2 hn⟩
  · have hu : ∀ p, TakesPeers s snap p → p = payload := by
      rintro p ⟨sg, hsm, hnew⟩
      obtain ⟨sg', hs', hn'⟩ := ht
      cases hsm.symm.trans hs'
      exact Except.ok.inj (hnew.1.symm.trans hn'.1)
    rw [hm, accepted, ne_eq, keepHead_eq_nil]
    refine ⟨fun h => ⟨fun p hp => hu p hp ▸ h, fun hn => absurd ht (hn payload)⟩,
      fun h => h.1 payload ht⟩

lemma loads_handleSnapshot (hl : Loads s) (snap : Snapshot) :
    Loads (handleSnapshot s snap) ↔ KeepsConnector s (.snapshot snap) := by
  unfold KeepsConnector handleSnapshot
  rcases hk : snap.caKey with _ | _
  · simp [hk, hl]
  have hp : Loads (applyPeers s snap.peers) := by
    rcases applyPeers_cases s snap with ⟨-, hs⟩ | ⟨_, -, -, -, h⟩
    · rwa [hs]
    · exact h hl
  rcases ha : snap.mayAct with _ | _
  · simp [hp, RaisesFloor, ha]
  simp only [hk, Bool.not_true, Bool.false_eq_true, if_false, true_implies]
  rw [← connectors_applyPeers, ← setRaisesFloor_applyPeers ha]
  unfold Loads
  rcases applySignedResourceSet_disk (applyPeers s snap.peers) snap.resourceSet snap.lanIp with
    ⟨hr, mem, hm, hd⟩ | ⟨hnot, hd⟩
  · rw [hd]
    constructor
    · rintro ⟨mem', hld⟩ - hn
      obtain ⟨err, he⟩ := load_save_nil (hm.trans hn) (applyPeers s snap.peers).disk
      cases he.symm.trans hld
    · intro h
      exact loads_save (hm ▸ h hr) _
  · rw [hd]
    exact ⟨fun _ h => absurd h hnot, fun _ => hp⟩

lemma rotate_ne_nil {cs : List ConnectorRef} {idx : ℕ} (h : idx < cs.length)
    {n : ℕ} : cs.rotate n ≠ [] := by
  intro hn
  rw [List.rotate_eq_nil_iff] at hn
  rw [hn] at h
  exact absurd h (Nat.not_lt_zero idx)

lemma loads_renewCert (hl : Loads s) {selectedIdx : Option ℕ} {exp : Int} :
    ∃ mem, load (renewCert s.mem s.disk selectedIdx exp .done).1 = .ok mem := by
  unfold renewCert
  split
  · exact hl
  · next idx hi =>
    obtain ⟨-, hlt⟩ := Option.filter_eq_some_iff.1 hi
    exact loads_save (rotate_ne_nil (of_decide_eq_true hlt)) s.disk

/-- **One step** leaves a file that loads exactly if it meets the condition. -/
lemma loads_step {s' : State} {a : Action} (hl : Loads s) (hs : step s a = some s') :
    Loads s' ↔ KeepsConnector s a := by
  cases a with
  | snapshot snap =>
    cases hs
    exact loads_handleSnapshot hl snap
  | renew idx exp =>
    refine iff_of_true ?_ trivial
    have hd : s'.disk = (renewCert s.mem s.disk idx exp .done).1 := by
      simp only [step] at hs
      split at hs <;> (obtain rfl := Option.some.inj hs; rfl)
    unfold Loads
    rw [hd]
    exact loads_renewCert hl
  | failover idx =>
    refine iff_of_true ?_ trivial
    simp only [step] at hs
    split at hs <;> cases hs
    next hlt =>
      unfold Loads adoptFailoverHead
      split
      · exact loads_save (rotate_ne_nil hlt) s.disk
      · exact hl
  | demoteHead =>
    refine iff_of_true ?_ trivial
    simp only [step] at hs
    split at hs
    · cases hs
      exact hl
    · cases hs
      exact hl
  | restart =>
    refine iff_of_true ?_ trivial
    simp only [step] at hs
    split at hs <;> cases hs
    exact hl

/-- **Every run**, from a file that loads: the file loads after each step exactly if each step
meets the condition. -/
theorem always_loads_iff_keepsConnector {mem : ShieldState} {disk : Disk}
    (hstart : load disk = .ok mem) (acts : List Action) :
    Always step (fun _ _ s' => Loads s') (start mem disk) acts ↔
      Meets step KeepsConnector (start mem disk) acts := by
  constructor
  · intro ha
    refine meets_iff.2 fun pre a post u heq hp => ?_
    have hl : Loads u := state_of_always ha ⟨mem, hstart⟩ heq hp
    cases a with
    | snapshot snap => exact (loads_step hl rfl).1 (ha pre _ post u _ heq hp rfl)
    | _ => trivial
  · intro hm
    exact always_of_meets (I := Loads)
      (fun s a s' hl hok hs => (loads_step hl hs).2 hok)
      (fun s a s' hl hok hs => (loads_step hl hs).2 hok) ⟨mem, hstart⟩ hm

/-! ### A shield whose remote network loses its last connector -/

def enrolled : ShieldState :=
  ⟨"sh-1", "ws.example", [⟨"conn-a", "10.0.0.2:9091"⟩], "100.64.0.5", "2026-07-01T00:00:00Z", 0, 0,
    0⟩

def withPeers (issuedAt : ℕ) (peers : List ConnectorRef) (generation : ℕ) : Action :=
  .snapshot ⟨true, some ⟨true, some ⟨"ws.example", "sh-1", issuedAt, peers⟩⟩, true,
    some ⟨true, some ⟨"ws.example", "sh-1", generation, [], []⟩⟩, none⟩

/-- A second connector joins, and a resource is added. -/
def connectorJoins : List Action :=
  [withPeers 1000 [⟨"conn-a", "10.0.0.2:9091"⟩, ⟨"conn-b", "10.0.0.3:9091"⟩] 1]

/-- The last connector is deleted, and with it the resources change. -/
def lastConnectorGone : List Action := [withPeers 1000 [] 1]

theorem always_loads_connectorJoins :
    ∃ mem, load (some (toFile enrolled)) = .ok mem ∧
      Meets step KeepsConnector (start mem (some (toFile enrolled))) connectorJoins ∧
      Always step (fun _ _ s' => Loads s') (start mem (some (toFile enrolled))) connectorJoins := by
  have hm : Meets step KeepsConnector (start enrolled (some (toFile enrolled))) connectorJoins := by
    refine .cons rfl (fun _ _ => ⟨?_, ?_⟩) trivial
    · rintro pl ⟨sg, hs, hv, -⟩
      cases hs
      cases hv
      simp
    · exact fun _ => List.cons_ne_nil _ _
  exact ⟨enrolled, rfl, hm, (always_loads_iff_keepsConnector rfl _).2 hm⟩

/-- The file has no connectors left, and the shield does not start again. -/
theorem saved_without_connectors :
    load (some (toFile enrolled)) = .ok enrolled ∧
      ¬ Always step (fun _ _ s' => Loads s') (start enrolled (some (toFile enrolled)))
        lastConnectorGone := by
  refine ⟨rfl, fun h => ?_⟩
  obtain ⟨mem, hm⟩ := h [] (withPeers 1000 [] 1) [] _ _ rfl rfl rfl
  cases hm

end Zecurity.ShieldRestart
