import Zecurity.ShieldRegistry
import Zecurity.SignedResourceSets

/-!
Snapshots on their way from the controller to a connector's cache
(`controller/internal/connector/control_stream.go`, `PushSnapshotForShield` and its like;
`connector/src/control_stream.rs`, `run_session`; `connector/src/agent_server.rs`,
`push_snapshot`).

A push takes the client of a Control stream, builds the snapshot and puts it into the client's
queue; any number of pushes run at once. The connector reads one stream at a time, in order, and
moves on to a stream that was opened later without reading what is left on the old one.
-/

namespace Zecurity.SnapshotDelivery

open FiniteMap Function List Option Runs
open SignedResourceSets (BuildId Build)
open ShieldRegistry (ResourceInstruction ResourceSnapshot)
open ResourceStore (Db PendingRow ShieldId)

/-- A Control stream of the connector, numbered as it was opened. -/
abbrev ControlId := ℕ

/-- A `ResourceSnapshotBatch` with its one shield. -/
structure Message where
  shieldId : ShieldId
  snapshot : ResourceSnapshot

def buildSnapshotMsg (shieldId : ShieldId) (generation : ℕ) (rows : List PendingRow) : Message :=
  ⟨shieldId, ⟨generation, rows.map fun row => ⟨row.id.text, ""⟩⟩⟩

/-- The message of a build past its transaction, signed or not. -/
def messageOf : Build → Option Message
  | ⟨shieldId, .committed generation rows⟩ => some (buildSnapshotMsg shieldId generation rows)
  | ⟨shieldId, .signed payload⟩ =>
    some (buildSnapshotMsg shieldId payload.generation payload.resources)
  | _ => none

structure State where
  sets : SignedResourceSets.State
  pushes : Map BuildId ControlId
  opened : ℕ
  queues : ControlId → List Message
  current : Option ControlId
  connector : ShieldRegistry.State
  /-- history: all messages put into a queue -/
  enqueued : List (ControlId × Message)
  /-- history: the generations received for each shield -/
  received : ShieldId → List ℕ

inductive Action
  | openStream
  | switch (c : ControlId)
  | push (b : BuildId) (c : ControlId)
  | build (a : SignedResourceSets.Action)
  | send (b : BuildId)
  | giveUp (b : BuildId)
  | receive
  | registry (a : ShieldRegistry.Action)

def isPushSnapshot : ShieldRegistry.Action → Bool
  | .pushSnapshot .. => true
  | _ => false

/-- The client and the message of a push that is ready to send. -/
def State.ready (s : State) (b : BuildId) : Option (ControlId × Message) := do
  let c ← s.pushes.lookup b
  let build ← s.sets.builds.lookup b
  let m ← messageOf build
  some (c, m)

def step (s : State) : Action → Option State
  | .openStream => some { s with opened := s.opened + 1 }
  | .switch c =>
    if c < s.opened ∧ s.current.all (· < c) then some { s with current := some c } else none
  | .push b c =>
    if c < s.opened ∧ s.sets.builds.lookup b = none ∧ s.pushes.lookup b = none then
      some { s with pushes := s.pushes.insert b c }
    else none
  | .build a => (SignedResourceSets.step s.sets a).map fun sets => { s with sets := sets }
  | .send b =>
    (s.ready b).map fun (c, m) => { s with
      pushes := s.pushes.erase b
      queues := update s.queues c (s.queues c ++ [m])
      enqueued := (c, m) :: s.enqueued }
  | .giveUp b => some { s with pushes := s.pushes.erase b }
  | .receive =>
    match s.current with
    | none => none
    | some c =>
      match s.queues c with
      | [] => none
      | m :: rest =>
        (ShieldRegistry.step s.connector (.pushSnapshot m.shieldId m.snapshot)).map fun connector =>
          { s with
            queues := update s.queues c rest
            connector := connector
            received := update s.received m.shieldId
              (m.snapshot.generation :: s.received m.shieldId) }
  | .registry a =>
    if isPushSnapshot a then none
    else (ShieldRegistry.step s.connector a).map fun connector => { s with connector := connector }

def initial (db : Db) : State where
  sets := SignedResourceSets.initial db
  pushes := ∅
  opened := 0
  queues _ := []
  current := none
  connector := ShieldRegistry.init
  enqueued := []
  received _ := []

/-- **The property.** A cached snapshot is the newest of those received. -/
def CachedNewest (s : State) : Prop :=
  ∀ shieldId snapshot, s.connector.maps.resourceSnapshots shieldId = some snapshot →
    ∀ g ∈ s.received shieldId, g ≤ snapshot.generation

/-- **The condition.** A snapshot is sent in its place in the order in which the connector reads:
none of a later generation stands before it, on its stream or an older one, and none of an
earlier generation after it, on a newer stream. -/
def SentInOrder (s : State) : Action → Prop
  | .send b => ∀ cm ∈ s.ready b, ∀ e ∈ s.enqueued, e.2.shieldId = cm.2.shieldId →
      (e.1 ≤ cm.1 → e.2.snapshot.generation ≤ cm.2.snapshot.generation) ∧
      (cm.1 < e.1 → cm.2.snapshot.generation ≤ e.2.snapshot.generation)
  | _ => True

instance (s : State) (a : Action) : Decidable (SentInOrder s a) := by
  cases a <;> unfold SentInOrder <;> infer_instance

/-! ### The cache at the registry -/

variable {a : ShieldRegistry.Action}

section Registry

open ShieldRegistry

variable {s s' : ShieldRegistry.State}

/-- The cache and the revoked shields are as they were. -/
def SameCache (s s' : ShieldRegistry.State) : Prop :=
  s'.maps.resourceSnapshots = s.maps.resourceSnapshots ∧ s'.maps.revoked = s.maps.revoked

/-- A revoked shield has no snapshot. -/
def NoneCached (s : ShieldRegistry.State) : Prop :=
  ∀ id ∈ s.maps.revoked, s.maps.resourceSnapshots id = none

lemma pushInstructions_cache (m : ShieldMaps) (sid : ShieldId) (ins : List ResourceInstruction) :
    (m.pushInstructions sid ins).1.resourceSnapshots = m.resourceSnapshots := by
  unfold ShieldMaps.pushInstructions
  repeat' split
  all_goals rfl

lemma handle_cache (m : ShieldMaps) (sid : ShieldId) (msg : ShieldRegistry.Message) :
    (m.handle sid msg).resourceSnapshots = m.resourceSnapshots := by
  cases msg <;> rfl

lemma sameCache_step (hp : isPushSnapshot a = false) (hr : ∀ ids, a ≠ .applyRevocations ids)
    (hs : ShieldRegistry.step s a = some s') : SameCache s s' := by
  cases a <;> simp only [ShieldRegistry.step] at hs
  case pushSnapshot sh snapshot => cases hp
  case applyRevocations ids => exact absurd rfl (hr ids)
  case pushInstructions sh instructions =>
    cases hs
    exact ⟨pushInstructions_cache _ _ _, s.maps.revoked_pushInstructions _ _⟩
  case admitTask sid admits notServing =>
    split at hs
    · split at hs
      · next maps ha =>
        cases hs
        obtain ⟨-, rfl⟩ := ShieldMaps.admitStream_ok ha
        exact ⟨rfl, rfl⟩
      · cases hs
        exact ⟨rfl, rfl⟩
    · cases hs
  case handle sid =>
    split at hs
    · split at hs
      · obtain ⟨hub, -, rfl⟩ := map_eq_some_iff.1 hs
        exact ⟨handle_cache _ _ _, s.maps.revoked_handle _ _⟩
      · cases hs
        exact ⟨handle_cache _ _ _, s.maps.revoked_handle _ _⟩
    · cases hs
  case connect sh =>
    obtain ⟨hub, -, rfl⟩ := map_eq_some_iff.1 hs
    exact ⟨rfl, rfl⟩
  case register sid | endStream sid clean | revokeAtHub | session a =>
    split at hs
    · obtain ⟨hub, -, rfl⟩ := map_eq_some_iff.1 hs
      exact ⟨rfl, rfl⟩
    · cases hs
  case takeInstructions sid | stop sid | leave sid | cancelToken
    | returnRevocations =>
    split at hs <;> cases hs
    exact ⟨rfl, rfl⟩
  case receive sid message =>
    split at hs
    · split at hs <;> cases hs
      exact ⟨rfl, rfl⟩
    · cases hs
  case drainDiscoveryBatch | drainStateBatch | goodbye sh | requireRevocationResync =>
    cases hs
    exact ⟨rfl, rfl⟩

lemma forgetAll_cache (m : ShieldMaps) (ids : List ShieldId) (id : ShieldId) :
    (m.forgetAll ids).1.resourceSnapshots id =
      if id ∈ ids then none else m.resourceSnapshots id := by
  induction ids generalizing m with
  | nil => simp [ShieldMaps.forgetAll]
  | cons other ids ih =>
    have hr := ih (m.forget other)
    simp only [ShieldMaps.forgetAll]
    rw [hr]
    by_cases hid : id = other
    · simp [hid, ShieldMaps.forget]
    · simp [hid, ShieldMaps.forget]

/-- **The registry's own steps** put nothing into the cache. -/
lemma cache_step (hp : isPushSnapshot a = false) (h : NoneCached s)
    (hs : ShieldRegistry.step s a = some s') :
    NoneCached s' ∧ ∀ id snapshot, s'.maps.resourceSnapshots id = some snapshot →
      s.maps.resourceSnapshots id = some snapshot := by
  by_cases hr : ∃ ids, a = .applyRevocations ids
  · obtain ⟨ids, rfl⟩ := hr
    -- A revocation takes the snapshots of the newly revoked shields away.
    simp only [ShieldRegistry.step] at hs
    split at hs <;> cases hs
    simp only [NoneCached, ShieldMaps.applyRevocations, ShieldMaps.forgetAll_revoked,
      forgetAll_cache, ShieldMaps.mem_insertRevoked, ShieldMaps.mem_newly]
    refine ⟨fun id hid => ?_, fun id snapshot hc => ?_⟩
    · split
      · rfl
      · next hn =>
        by_cases hold : id ∈ s.maps.revoked
        · exact h id hold
        · exact absurd ⟨hid.resolve_left hold, hold⟩ hn
    · split at hc
      · cases hc
      · exact hc
  · obtain ⟨hcc, hrv⟩ := sameCache_step hp (fun ids heq => hr ⟨ids, heq⟩) hs
    refine ⟨fun id hid => ?_, fun id snapshot hc => ?_⟩
    · rw [hrv] at hid
      rw [hcc]
      exact h id hid
    · rw [hcc] at hc
      exact hc

lemma cache_pushSnapshot {shieldId snap} (h : NoneCached s)
    (hs : ShieldRegistry.step s (.pushSnapshot shieldId snap) = some s') :
    NoneCached s' ∧ ∀ id cached, s'.maps.resourceSnapshots id = some cached →
      id = shieldId ∧ cached = snap ∨
        id ≠ shieldId ∧ s.maps.resourceSnapshots id = some cached := by
  cases hs
  by_cases hr : shieldId ∈ s.maps.revoked
  · simp only [NoneCached, ShieldMaps.pushSnapshot, if_pos hr]
    refine ⟨h, fun id cached hc => Or.inr ⟨fun heq => ?_, hc⟩⟩
    rw [heq, h shieldId hr] at hc
    cases hc
  · simp only [NoneCached, ShieldMaps.pushSnapshot, if_neg hr]
    refine ⟨fun id hid => ?_, fun id cached hc => ?_⟩
    · have hne : id ≠ shieldId := fun heq => hr (heq ▸ hid)
      rw [update_of_ne hne]
      exact h id hid
    · exact (update_apply_eq_iff.1 hc).imp_left (And.imp_right some.inj)

end Registry

/-! ### The invariant -/

/-- Of two snapshots for one shield the first is not the newer one. -/
def InOrder (m m' : Message) : Prop :=
  m.shieldId = m'.shieldId → m.snapshot.generation ≤ m'.snapshot.generation

structure Inv (s : State) : Prop where
  noneCached : NoneCached s.connector
  queued : ∀ c, ∀ m ∈ s.queues c, (c, m) ∈ s.enqueued
  within : ∀ c, (s.queues c).Pairwise InOrder
  between : ∀ c c', c < c' → ∀ m ∈ s.queues c, ∀ m' ∈ s.queues c', InOrder m m'
  /-- what was received was sent on the current stream or an older one -/
  received : ∀ shieldId, ∀ g ∈ s.received shieldId, ∃ current, s.current = some current ∧
    ∃ e ∈ s.enqueued, e.1 ≤ current ∧ e.2.shieldId = shieldId ∧ e.2.snapshot.generation = g
  /-- what can still be read is not older than what was received -/
  ahead : ∀ current, s.current = some current → ∀ c, current ≤ c → ∀ m ∈ s.queues c,
    ∀ g ∈ s.received m.shieldId, g ≤ m.snapshot.generation
  cached : CachedNewest s

variable {s s' : State}

lemma mem_append_update {queues : ControlId → List Message} {c c' m m'}
    (h : m' ∈ update queues c (queues c ++ [m]) c') : m' ∈ queues c' ∨ c' = c ∧ m' = m :=
  mem_update (fun _ hz => by simpa using hz) h

lemma inv_send {b} (h : Inv s) (hok : SentInOrder s (.send b)) (hs : step s (.send b) = some s') :
    Inv s' := by
  simp only [step, map_eq_some_iff] at hs
  obtain ⟨⟨c, m⟩, hr, rfl⟩ := hs
  have hp := hok (c, m) hr
  refine { h with queued := fun c' m' hm' => ?_, within := fun c' => ?_,
                  between := fun c1 c2 hlt m1 hm1 m2 hm2 hsh => ?_, received := fun sid g hg => ?_,
                  ahead := fun cur hc c' hc' m' hm' g hg => ?_ }
  · rcases mem_append_update hm' with hold | ⟨rfl, rfl⟩
    · exact mem_cons_of_mem _ (h.queued c' m' hold)
    · exact mem_cons_self
  · refine (forall_update_iff s.queues fun _ queue => queue.Pairwise _).2
      ⟨pairwise_append.2 ⟨h.within c, pairwise_singleton _ _, ?_⟩, fun c' _ => h.within c'⟩
      c'
    intro m1 hm1 m2 hm2 hsh
    obtain rfl := mem_singleton.1 hm2
    exact (hp _ (h.queued c m1 hm1) hsh).1 le_rfl
  · rcases mem_append_update hm1 with hold1 | ⟨rfl, rfl⟩ <;>
      rcases mem_append_update hm2 with hold2 | ⟨rfl, rfl⟩
    · exact h.between c1 c2 hlt m1 hold1 m2 hold2 hsh
    · exact (hp _ (h.queued c1 m1 hold1) hsh).1 hlt.le
    · exact (hp _ (h.queued c2 m2 hold2) hsh.symm).2 hlt
    · exact absurd hlt (lt_irrefl _)
  · obtain ⟨cur, hc, e, he, hrs⟩ := h.received sid g hg
    exact ⟨cur, hc, e, mem_cons_of_mem _ he, hrs⟩
  · rcases mem_append_update hm' with hold | ⟨rfl, rfl⟩
    · exact h.ahead cur hc c' hc' m' hold g hg
    · obtain ⟨cur', hcr', e, he, hle, hsh, rfl⟩ := h.received m'.shieldId g hg
      cases hc.symm.trans hcr'
      exact (hp e he hsh).1 (hle.trans hc')

lemma mem_received_update {got : ShieldId → List ℕ} {sid id n g}
    (h : g ∈ update got sid (n :: got sid) id) :
    g ∈ got id ∨ id = sid ∧ g = n := mem_update (fun _ hz => (mem_cons.1 hz).symm) h

/-- The head of the current queue is the newest snapshot so far, and what stands behind it is not
older. -/
lemma inv_receive (h : Inv s) (hs : step s .receive = some s') : Inv s' := by
  dsimp only [step] at hs
  split at hs
  · cases hs
  · next c hc =>
    split at hs
    · cases hs
    · next m rest hq =>
      obtain ⟨con, hp, rfl⟩ := map_eq_some_iff.1 hs
      obtain ⟨hnn, hcch⟩ := cache_pushSnapshot h.noneCached hp
      have hh : m ∈ s.queues c := hq ▸ mem_cons_self
      have hr : ∀ c', (update s.queues c rest c').Sublist (s.queues c') :=
        (forall_update_iff s.queues fun c' queue => queue.Sublist (s.queues c')).2
          ⟨hq ▸ sublist_cons_self m rest, fun _ _ => .refl _⟩
      have hn := h.ahead c hc c le_rfl m hh
      refine { noneCached := hnn
               queued := fun c' m' hm' => h.queued c' m' ((hr c').subset hm')
               within := fun c' => (h.within c').sublist (hr c')
               between := fun c1 c2 hlt m1 hm1 m2 hm2 =>
                 h.between c1 c2 hlt m1 ((hr c1).subset hm1) m2 ((hr c2).subset hm2)
               received := fun sid g hg => ?_
               ahead := fun cur hcr' c' hc' m' hm' g hg => ?_
               cached := fun sid snap hcc g hg => ?_ }
      · rcases mem_received_update hg with hold | ⟨rfl, rfl⟩
        · exact h.received sid g hold
        · exact ⟨c, hc, (c, m), h.queued c m hh, le_rfl, rfl, rfl⟩
      · cases hc.symm.trans hcr'
        rcases mem_received_update hg with hold | ⟨hsh, rfl⟩
        · exact h.ahead c hc c' hc' m' ((hr c').subset hm') g hold
        · rcases hc'.eq_or_lt with rfl | hlt
          · simp only [update_self] at hm'
            have hb := (pairwise_cons.1 (hq ▸ h.within c)).1
            exact hb m' hm' hsh.symm
          · exact h.between c c' hlt m hh m' ((hr c').subset hm') hsh.symm
      · rcases hcch sid snap hcc with ⟨rfl, rfl⟩ | ⟨hne, hold⟩
        · rcases mem_received_update hg with hg | ⟨-, rfl⟩
          · exact hn g hg
          · exact le_rfl
        · rcases mem_received_update hg with hg | ⟨heq, -⟩
          · exact h.cached sid snap hold g hg
          · exact absurd heq hne

lemma inv_step (s : State) (a : Action) (s' : State) (h : Inv s) (hok : SentInOrder s a)
    (hs : step s a = some s') : Inv s' := by
  cases a with
  | openStream | giveUp =>
    cases hs
    exact { h with }
  | switch c =>
    obtain ⟨⟨-, hl⟩, rfl⟩ := ite_some_none_eq_some.1 hs
    have hle : ∀ cur, s.current = some cur → cur ≤ c := fun cur hc => by
      rw [hc] at hl
      exact (of_decide_eq_true hl).le
    refine { h with received := fun sid g hg => ?_, ahead := fun cur hc => ?_ }
    · obtain ⟨cur, hc, e, he, hle', hsh⟩ := h.received sid g hg
      exact ⟨c, rfl, e, he, hle'.trans (hle cur hc), hsh⟩
    · cases hc
      intro c' hc' m hm g hg
      obtain ⟨cur, hc, -⟩ := h.received m.shieldId g hg
      exact h.ahead cur hc c' ((hle cur hc).trans hc') m hm g hg
  | push b c =>
    obtain ⟨-, rfl⟩ := ite_some_none_eq_some.1 hs
    exact { h with }
  | build a =>
    obtain ⟨sets, -, rfl⟩ := map_eq_some_iff.1 hs
    exact { h with }
  | send b => exact inv_send h hok hs
  | receive => exact inv_receive h hs
  | registry a =>
    dsimp only [step] at hs
    split at hs
    · cases hs
    · next hp =>
      obtain ⟨con, hst, rfl⟩ := map_eq_some_iff.1 hs
      obtain ⟨hn, hcch⟩ := cache_step (eq_false_of_ne_true hp) h.noneCached hst
      exact { h with
        noneCached := hn
        cached := fun sid snap hcc =>
          h.cached sid snap (hcch sid snap hcc) }

lemma inv_initial (db : Db) : Inv (initial db) where
  noneCached id hid := by
    simp [initial, ShieldRegistry.init, ShieldRegistry.ShieldMaps.default] at hid
  queued c m hm := by cases hm
  within c := List.Pairwise.nil
  between c c' hlt m hm := by cases hm
  received sh g hg := by cases hg
  ahead current hc := by cases hc
  cached sh snapshot hcc := by cases hcc

end Zecurity.SnapshotDelivery
