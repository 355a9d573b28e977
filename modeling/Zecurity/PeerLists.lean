import Zecurity.LatestRegister
import Zecurity.PeerListIssuer
import Zecurity.ShieldRestart

/-!
Signed peer lists on their way to a shield: in any order, more than once, with restarts and
everything else a shield does in between (`shield/src/control_stream.rs`,
`controller/internal/connector/peer_list.go`).

What the shield has of its peers is a register that takes the latest list; the empty list is the
blank one.
-/

namespace Zecurity.PeerLists

open ShieldResources StateFile ShieldRestart LatestRegister Runs List

abbrev Connectors := Multiset ConnectorRef

/-- The list that an action delivers, if it verifies for the shield. -/
def delivered (mem : ShieldState) : Action → Option PeerListPayload
  | .snapshot snap =>
    if snap.caKey then
      snap.peers.bind fun signed => (verify signed mem.trustDomain mem.shieldId).toOption
    else none
  | _ => none

def diskTime : Disk → ℕ
  | none => 0
  | some file => file.peerListIssuedAtMs

/-- The time goes back neither in memory nor in the file. -/
def NoRollback (s : State) (_ : Action) (s' : State) : Prop :=
  s.mem.peerListIssuedAtMs ≤ s'.mem.peerListIssuedAtMs ∧ diskTime s.disk ≤ diskTime s'.disk

/-! ### The register -/

def listEvent (payload : PeerListPayload) : Event ℕ Connectors :=
  .write payload.issuedAtUnixMs payload.peers

/-- What an action is for the register, if anything. -/
def event (mem : ShieldState) : Action → Option (Event ℕ Connectors)
  | .restart => some .reset
  | a => (delivered mem a).map listEvent

def events (mem : ShieldState) (acts : List Action) : List (Event ℕ Connectors) :=
  acts.filterMap (event mem)

def register (mem : ShieldState) : Register ℕ Connectors :=
  ⟨mem.peerListIssuedAtMs, mem.connectors, mem.connectors⟩

/-- The connectors of the last list before that was not empty, or else those that the shield
started with. -/
def keptBefore (mem : ShieldState) (pre : List Action) : Connectors :=
  ((register mem).run 0 (events mem pre)).saved

/-- The shield has the connectors of the delivered list with the greatest time, or, if that is
empty and it restarted since, those that the file kept. -/
def Converged (mem : ShieldState) (acts : List Action) (s : State) : Prop :=
  ∃ pre a post payload, acts = pre ++ a :: post ∧ delivered mem a = some payload ∧
    (∀ other ∈ acts.filterMap (delivered mem), other.issuedAtUnixMs ≤ payload.issuedAtUnixMs) ∧
    s.mem.peerListIssuedAtMs = payload.issuedAtUnixMs ∧
    (payload.peers = [] → Action.restart ∈ post →
      (s.mem.connectors : Connectors) = keptBefore mem pre) ∧
    (¬ (payload.peers = [] ∧ Action.restart ∈ post) →
      (s.mem.connectors : Connectors) = payload.peers)

/-! ### The shield shows the register -/

def SameShield (mem other : ShieldState) : Prop :=
  other.trustDomain = mem.trustDomain ∧ other.shieldId = mem.shieldId

structure Shows (mem : ShieldState) (r : Register ℕ Connectors) (s : State) : Prop where
  same : SameShield mem s.mem
  time : s.mem.peerListIssuedAtMs = r.time
  value : (s.mem.connectors : Connectors) = r.value
  coherent : Coherent 0 r
  /-- A file that does not load may be behind. -/
  behind : diskTime s.disk ≤ r.time
  file : ∀ f, load s.disk = .ok f →
    SameShield mem f ∧ f.peerListIssuedAtMs = r.time ∧ (f.connectors : Connectors) = r.saved

variable {disk : Disk} {mem : ShieldState} {r : Register ℕ Connectors} {s s' : State}
  {payload : PeerListPayload} {a : Action} {acts : List Action}

lemma diskTime_of_load {f} (h : load disk = .ok f) : diskTime disk = f.peerListIssuedAtMs := by
  obtain ⟨file, rfl, rfl, -⟩ := load_ok h
  rfl

lemma shows_start (h : load disk = .ok mem) : Shows mem (register mem) (start mem disk) where
  same := ⟨rfl, rfl⟩
  time := rfl
  value := rfl
  coherent := .inr rfl
  behind := (diskTime_of_load h).le
  file := by
    intro f hf
    cases h.symm.trans hf
    exact ⟨⟨rfl, rfl⟩, rfl, rfl⟩

/-- The state has the same peers, perhaps in another order. -/
structure Turned (old new : ShieldState) : Prop where
  same : SameShield old new
  time : new.peerListIssuedAtMs = old.peerListIssuedAtMs
  perm : new.connectors.Perm old.connectors

/-- A step that leaves the peers, and perhaps saves them. -/
def Keeps (s s' : State) : Prop :=
  Turned s.mem s'.mem ∧ (s'.disk = s.disk ∨ s'.disk = save s'.mem .done s.disk)

lemma SameShield.trans {a b c : ShieldState} (h : SameShield a b) (h' : SameShield b c) :
    SameShield a c := ⟨h'.1.trans h.1, h'.2.trans h.2⟩

lemma load_save_ok {state f : ShieldState} (disk : Disk)
    (h : load (save state .done disk) = .ok f) : f = state ∧ state.connectors ≠ [] := by
  by_cases hn : state.connectors = []
  · obtain ⟨err, he⟩ := load_save_nil hn disk
    cases he.symm.trans h
  · exact ⟨Except.ok.inj (h.symm.trans (load_save hn disk)), hn⟩

lemma coe_ne_zero {cs : List ConnectorRef} (h : cs ≠ []) :
    (cs : Connectors) ≠ 0 := fun h0 => h (Multiset.coe_eq_zero cs |>.1 h0)

lemma shows_of_keeps (hs : Shows mem r s) (hk : Keeps s s') :
    Shows mem r s' ∧ diskTime s.disk ≤ diskTime s'.disk := by
  obtain ⟨ht, hd⟩ := hk
  have hsm : SameShield mem s'.mem := hs.same.trans ht.same
  have htm : s'.mem.peerListIssuedAtMs = r.time := ht.time.trans hs.time
  have hv : (s'.mem.connectors : Connectors) = r.value :=
    (Multiset.coe_eq_coe.2 ht.perm).trans hs.value
  rcases hd with hd | hd
  · refine ⟨⟨hsm, htm, hv, hs.coherent, ?_, ?_⟩, by rw [hd]⟩
    · rw [hd]
      exact hs.behind
    · rw [hd]
      exact hs.file
  · have hn : diskTime s'.disk = r.time := by
      rw [hd]
      exact htm
    refine ⟨⟨hsm, htm, hv, hs.coherent, hn.le, ?_⟩, hn ▸ hs.behind⟩
    intro f hf
    rw [hd] at hf
    obtain ⟨rfl, hne⟩ := load_save_ok s.disk hf
    refine ⟨hsm, htm, ?_⟩
    -- a list that is not empty in memory is the one that was saved
    rcases hs.coherent with hb | hsv
    · exact absurd (hv.trans hb) (coe_ne_zero hne)
    · exact hv.trans hsv

/-! ### One step -/

lemma turned_refl (state : ShieldState) : Turned state state := ⟨⟨rfl, rfl⟩, rfl, .refl _⟩

lemma keeps_refl (s : State) : Keeps s s := ⟨turned_refl s.mem, .inl rfl⟩

lemma keeps_applySignedResourceSet (s : State) (rset : Option (Signed ResourceSetPayload))
    (lanIp : Option String) : Keeps s (applySignedResourceSet s rset lanIp) := by
  unfold applySignedResourceSet
  split
  · exact keeps_refl s
  · split
    · exact keeps_refl s
    · simp only
      split
      · unfold raiseFloor
        split
        · exact ⟨⟨⟨rfl, rfl⟩, rfl, .refl _⟩, .inr rfl⟩
        · exact ⟨turned_refl s.mem, .inl rfl⟩
      · exact keeps_refl s

lemma keeps_renew {selectedIdx certNotAfter}
    (hs : step s (.renew selectedIdx certNotAfter) = some s') : Keeps s s' := by
  simp only [step] at hs
  split at hs
  · next mem hok =>
    cases hs
    unfold renewCert at hok ⊢
    split at hok <;> cases hok
    next idx hi => exact ⟨⟨⟨rfl, rfl⟩, rfl, rotate_perm _ _⟩, .inr rfl⟩
  · next err he =>
    cases hs
    unfold renewCert at he ⊢
    split at he
    · next hi =>
      exact ⟨turned_refl s.mem, .inl rfl⟩
    · cases he

lemma keeps_failover {idx} (hs : step s (.failover idx) = some s') : Keeps s s' := by
  simp only [step] at hs
  split at hs <;> cases hs
  unfold adoptFailoverHead
  split
  · exact ⟨⟨⟨rfl, rfl⟩, rfl, rotate_perm _ _⟩, .inr rfl⟩
  · exact ⟨turned_refl s.mem, .inl rfl⟩

lemma keeps_demoteHead (hs : step s .demoteHead = some s') : Keeps s s' := by
  simp only [step] at hs
  split at hs
  · cases hs
    exact ⟨⟨⟨rfl, rfl⟩, rfl, rotate_perm _ _⟩, .inl rfl⟩
  · cases hs
    exact keeps_refl s

lemma shows_accepted (hs : Shows mem r s) {signed : Signed PeerListPayload}
    (hnew : Newer s.mem signed payload) :
    Shows mem (r.after 0 (listEvent payload)) (applyPeers s (some signed)) ∧
      diskTime s.disk ≤ diskTime (applyPeers s (some signed)).disk := by
  have hlt : r.time < payload.issuedAtUnixMs := hs.time ▸ hnew.2
  have hsm : SameShield mem (accepted s.mem payload) := hs.same
  have hc := coherent_after hs.coherent (listEvent payload)
  have hv : ((accepted s.mem payload).connectors : Connectors) = payload.peers :=
    Multiset.coe_eq_coe.2 (keepHead_perm s.mem.connectors payload.peers)
  simp only [applyPeers, applySignedPeerList_of_newer hnew]
  unfold listEvent at hc ⊢
  rw [after_newer hlt] at hc ⊢
  by_cases hn : payload.peers = []
  · have hz : (payload.peers : Connectors) = 0 := by rw [hn, Multiset.coe_nil]
    rw [if_pos hz] at hc ⊢
    simp only [if_pos hn, persistIssuedAt]
    rcases hl : load s.disk with err | onDisk
    · -- the file does not load, and stays
      refine ⟨⟨hsm, rfl, hv, hc, hs.behind.trans hlt.le, ?_⟩, le_rfl⟩
      intro f hf
      cases hl.symm.trans hf
    · obtain ⟨hfs, -, hsv⟩ := hs.file onDisk hl
      refine ⟨⟨hsm, rfl, hv, hc, le_rfl, ?_⟩, hs.behind.trans hlt.le⟩
      intro f hf
      obtain ⟨rfl, -⟩ := load_save_ok s.disk hf
      exact ⟨hfs, rfl, hsv⟩
  · rw [if_neg (coe_ne_zero hn)] at hc ⊢
    simp only [if_neg hn]
    refine ⟨⟨hsm, rfl, hv, hc, le_rfl, ?_⟩, hs.behind.trans hlt.le⟩
    intro f hf
    obtain ⟨rfl, -⟩ := load_save_ok s.disk hf
    exact ⟨hsm, rfl, hv⟩

/-- The event of a snapshot's peer list. -/
def peersEvent (mem : ShieldState) (peers : Option (Signed PeerListPayload)) :
    List (Event ℕ Connectors) :=
  ((peers.bind fun signed => (verify signed mem.trustDomain mem.shieldId).toOption).map
    listEvent).toList

lemma shows_applyPeers (hs : Shows mem r s) (peers : Option (Signed PeerListPayload)) :
    Shows mem (r.run 0 (peersEvent mem peers)) (applyPeers s peers) ∧
      diskTime s.disk ≤ diskTime (applyPeers s peers).disk := by
  rcases peers with _ | signed
  · exact ⟨hs, le_rfl⟩
  · have hv : verify signed s.mem.trustDomain s.mem.shieldId =
        verify signed mem.trustDomain mem.shieldId := by rw [hs.same.1, hs.same.2]
    rcases hr : verify signed mem.trustDomain mem.shieldId with err | payload
    · have hn : ∀ payload, ¬ Newer s.mem signed payload := fun payload h =>
        (by cases (hv.trans hr).symm.trans h.1)
      simp only [applyPeers, applySignedPeerList_of_not_newer hn, peersEvent, hr,
        Option.bind_some, Except.toOption, Option.map_none, Option.toList_none, run_nil]
      exact ⟨hs, le_rfl⟩
    · have he : r.run 0 (peersEvent mem (some signed)) = r.after 0 (listEvent payload) := by
        simp [peersEvent, hr, Except.toOption]
      rw [he]
      by_cases hlt : s.mem.peerListIssuedAtMs < payload.issuedAtUnixMs
      · exact shows_accepted hs ⟨hv.trans hr, hlt⟩
      · have hn : ∀ payload, ¬ Newer s.mem signed payload := by
          rintro pl' ⟨hok, hlt'⟩
          cases (hv.trans hr).symm.trans hok
          exact hlt hlt'
        have hle : payload.issuedAtUnixMs ≤ r.time := hs.time ▸ Nat.le_of_not_lt hlt
        simp only [applyPeers, applySignedPeerList_of_not_newer hn]
        unfold listEvent
        rw [after_not_newer hle]
        exact ⟨hs, le_rfl⟩

/-- **One step** of the shield is one event of the register, or none. -/
lemma shows_step (hsh : Shows mem r s) (hs : step s a = some s') :
    Shows mem (r.run 0 (event mem a).toList) s' ∧ diskTime s.disk ≤ diskTime s'.disk := by
  cases a with
  | snapshot snap =>
    cases hs
    unfold handleSnapshot
    rcases hk : snap.caKey with _ | _
    · simp only [event, delivered, hk]
      exact ⟨hsh, le_rfl⟩
    · have he : (event mem (.snapshot snap)).toList = peersEvent mem snap.peers := by
        simp [event, delivered, hk, peersEvent]
      obtain ⟨hp, hd⟩ := shows_applyPeers hsh snap.peers
      rw [he]
      rcases snap.mayAct with _ | _
      · exact ⟨hp, hd⟩
      · obtain ⟨hset, hd'⟩ := shows_of_keeps hp
          (keeps_applySignedResourceSet _ snap.resourceSet snap.lanIp)
        exact ⟨hset, hd.trans hd'⟩
  | renew idx certNotAfter => exact shows_of_keeps hsh (keeps_renew hs)
  | failover idx => exact shows_of_keeps hsh (keeps_failover hs)
  | demoteHead => exact shows_of_keeps hsh (keeps_demoteHead hs)
  | restart =>
    simp only [step] at hs
    split at hs <;> cases hs
    next onDisk hl =>
      obtain ⟨hsm, ht, hsv⟩ := hsh.file onDisk hl
      exact ⟨⟨hsm, ht, hsv, .inr rfl, hsh.behind, hsh.file⟩, le_rfl⟩

/-! ### Runs -/

lemma events_cons (mem : ShieldState) (a : Action) (acts : List Action) :
    events mem (a :: acts) = (event mem a).toList ++ events mem acts := by
  unfold events
  rw [filterMap_cons]
  cases event mem a <;> rfl

/-- **Every run** of the shield is a run of the register. -/
lemma shows_exec (hs : Shows mem r s) (h : exec step s acts = some s') :
    Shows mem (r.run 0 (events mem acts)) s' := by
  induction acts generalizing r s with
  | nil =>
    cases h
    exact hs
  | cons a acts ih =>
    obtain ⟨m, hm, hr⟩ := exec_cons_some step h
    rw [events_cons, run_append]
    exact ih (shows_step hs hm).1 hr

lemma noRollback_always (hst : load disk = .ok mem) (acts : List Action) :
    Always step NoRollback (start mem disk) acts := by
  intro pre a post u u' _ hp hs
  have hu := shows_exec (shows_start hst) hp
  obtain ⟨hu', hd⟩ := shows_step hu hs
  refine ⟨?_, hd⟩
  rw [hu.time, hu'.time]
  exact time_le_run _ _

lemma event_eq_write {time value} (h : event mem a = some (.write time value)) :
    ∃ payload, delivered mem a = some payload ∧ payload.issuedAtUnixMs = time ∧
      (payload.peers : Connectors) = value := by
  cases a with
  | restart => cases h
  | snapshot snap =>
    obtain ⟨payload, hp, heq⟩ := Option.map_eq_some_iff.1 h
    obtain ⟨rfl, rfl⟩ := Event.write.inj heq
    exact ⟨payload, hp, rfl, rfl⟩
  | _ => cases h

lemma event_of_delivered (h : delivered mem a = some payload) :
    event mem a = some (listEvent payload) := by
  cases a with
  | snapshot snap => exact congrArg (Option.map listEvent) h
  | _ => cases h

lemma write_mem_events (h : payload ∈ acts.filterMap (delivered mem)) :
    listEvent payload ∈ events mem acts := by
  obtain ⟨a, ha, hp⟩ := mem_filterMap.1 h
  exact mem_filterMap.2 ⟨a, ha, event_of_delivered hp⟩

lemma reset_mem_events : .reset ∈ events mem acts ↔ Action.restart ∈ acts := by
  constructor
  · intro h
    obtain ⟨a, ha, he⟩ := mem_filterMap.1 h
    cases a with
    | restart => exact ha
    | snapshot snap =>
      obtain ⟨payload, -, heq⟩ := Option.map_eq_some_iff.1 he
      cases heq
    | _ => cases he
  · exact fun h => mem_filterMap.2 ⟨.restart, h, rfl⟩

lemma converged_of_newer (hst : load disk = .ok mem)
    (he : exec step (start mem disk) acts = some s)
    (hn : ∃ payload ∈ acts.filterMap (delivered mem),
      mem.peerListIssuedAtMs < payload.issuedAtUnixMs) : Converged mem acts s := by
  have hs := shows_exec (shows_start hst) he
  obtain ⟨newer, hmem, hlt⟩ := hn
  obtain ⟨left, time, value, right, heq, hm, ht, hv⟩ := run_latest 0 (r := register mem)
      ⟨newer.issuedAtUnixMs, newer.peers, write_mem_events hmem, hlt⟩
  -- a write of the register is a list that an action delivered
  obtain ⟨before, rest, rfl, hbf, hrst⟩ := filterMap_eq_append_iff.1 heq
  obtain ⟨silent, a, post, rfl, hsl, ha, rfl⟩ := filterMap_eq_cons_iff.1 hrst
  obtain ⟨payload, hp, rfl, rfl⟩ := event_eq_write ha
  obtain rfl : events mem (before ++ silent) = left := by
    have hnn : silent.filterMap (event mem) = [] := filterMap_eq_nil_iff.2 hsl
    rw [events, filterMap_append, hbf, hnn, append_nil]
  refine ⟨before ++ silent, a, post, payload, by simp, hp, ?_, hs.time.trans ht, ?_, ?_⟩
  · exact fun other ho => hm other.issuedAtUnixMs other.peers (write_mem_events ho)
  · intro hnil hr
    have hb : (payload.peers : Connectors) = 0 := by rw [hnil, Multiset.coe_nil]
    rw [hs.value, hv, if_pos ⟨hb, reset_mem_events.2 hr⟩, keptBefore]
  · intro hnot
    rw [hs.value, hv, if_neg]
    rintro ⟨hb, hrs⟩
    exact hnot ⟨(Multiset.coe_eq_zero _).1 hb, reset_mem_events.1 hrs⟩

/-- **Signed peer lists.** In every run of a shield from a file that loads, the time never goes
back, in memory or in the file. After a run that delivered a list newer than the file's, the
shield has the connectors of the delivered list with the greatest time, or, if that list is
empty and the shield restarted since, those of the list before it. And the controller issues
no two lists with one time, and reads a later one after it issued the earlier one. -/
theorem signed_lists_converge {mem : ShieldState} {disk : Disk} (hstart : load disk = .ok mem) :
    (∀ acts : List Action, Always step NoRollback (start mem disk) acts) ∧
      (∀ acts s, exec step (start mem disk) acts = some s →
        (∃ payload ∈ acts.filterMap (delivered mem),
          mem.peerListIssuedAtMs < payload.issuedAtUnixMs) → Converged mem acts s) ∧
      ∀ db acts s, exec PeerListIssuer.step (PeerListIssuer.start db) acts = some s →
        (PeerListIssuer.issued s).Pairwise PeerListIssuer.Apart :=
  ⟨noRollback_always hstart, fun _ _ he hn => converged_of_newer hstart he hn,
    fun _ _ _ h => PeerListIssuer.pairwise_apart h⟩

/-! ### A shield that loses its connectors and restarts -/

def delivers (issuedAt : ℕ) (peers : List ConnectorRef) : Action :=
  .snapshot ⟨true, some ⟨true, some ⟨"ws.example", "sh-1", issuedAt, peers⟩⟩, true, none, none⟩

/-- Two lists arrive in the wrong order, the first of them twice. -/
def outOfOrder : List Action :=
  [delivers 2000 [⟨"conn-b", "10.0.0.3:9091"⟩], delivers 1000 [], .restart,
    delivers 2000 [⟨"conn-b", "10.0.0.3:9091"⟩]]

/-- The last connector is deleted, and the shield restarts. -/
def emptiedThenRestarted : List Action := [delivers 1000 [], .restart]

theorem signed_lists_converge_outOfOrder :
    load (some (toFile enrolled)) = .ok enrolled ∧
      ∃ s, exec step (start enrolled (some (toFile enrolled))) outOfOrder = some s ∧
        Converged enrolled outOfOrder s := by
  have hs : load (some (toFile enrolled)) = .ok enrolled := rfl
  refine ⟨hs, _, rfl, (signed_lists_converge hs).2.1 _ _ rfl ?_⟩
  exact ⟨⟨"ws.example", "sh-1", 2000, [⟨"conn-b", "10.0.0.3:9091"⟩]⟩, by decide, by decide⟩

/-- The shield has the old connector again, though the list with the greatest time has none. -/
theorem connectors_back_after_restart :
    load (some (toFile enrolled)) = .ok enrolled ∧
      ∃ s, exec step (start enrolled (some (toFile enrolled))) emptiedThenRestarted = some s ∧
        ¬ ∃ payload ∈ emptiedThenRestarted.filterMap (delivered enrolled),
          (∀ other ∈ emptiedThenRestarted.filterMap (delivered enrolled),
            other.issuedAtUnixMs ≤ payload.issuedAtUnixMs) ∧
          s.mem.connectors.Perm payload.peers :=
  ⟨rfl, _, rfl, by decide⟩

end Zecurity.PeerLists
