import Zecurity.TunnelHub

/-!
The connector's registry of shields (`connector/src/agent_server.rs`, `ShieldRegistry`) under
revocation.

All maps of the registry stand behind one lock, the tunnel hub has its own. A revocation is one
critical section over the maps and then, for each newly revoked shield, one over the hub; a
Control stream passes the maps before it registers at the hub, and leaves the maps before the
hub. A message that a stream has taken is handled later, in a step of its own. Messages are kept as
they come, and the contents of reports are opaque. `apply_revocations` is called from one
sequential loop, so that one call is under way at a time.
-/

namespace Zecurity.ShieldRegistry

open Function Option Runs TunnelHub

structure ResourceInstruction where
  resourceId : String
  action : String

structure ResourceSnapshot where
  generation : ℕ
  resources : List ResourceInstruction

structure HealthReport where
  version : String
  lanIp : String

abbrev DiscoveryReport := String
abbrev ResourceStateReport := String

structure ShieldEntry where
  status : String
  version : String
  lastSeenUnix : ℤ
  lanIp : String

inductive Refusal
  | unavailable (text : String)
  | permissionDenied (text : String)

/-- A channel is named by the stream that it belongs to. -/
structure ShieldMaps where
  instructionTxs : ShieldId → Option StreamId
  resourceInstructions : ShieldId → Option (List ResourceInstruction)
  snapshotTxs : ShieldId → Option StreamId
  resourceSnapshots : ShieldId → Option ResourceSnapshot
  pendingState : ShieldId → Option ResourceStateReport
  health : ShieldId → Option ShieldEntry
  pendingDiscovery : ShieldId → Option DiscoveryReport
  revoked : Finset ShieldId
  streamCancels : ShieldId → Option (List StreamId)

namespace ShieldMaps

def default : ShieldMaps where
  instructionTxs _ := none
  resourceInstructions _ := none
  snapshotTxs _ := none
  resourceSnapshots _ := none
  pendingState _ := none
  health _ := none
  pendingDiscovery _ := none
  revoked := ∅
  streamCancels _ := none

/-- The removals that `apply_revocations` makes for one shield. -/
def forget (m : ShieldMaps) (id : ShieldId) : ShieldMaps where
  instructionTxs := update m.instructionTxs id none
  resourceInstructions := update m.resourceInstructions id none
  snapshotTxs := update m.snapshotTxs id none
  resourceSnapshots := update m.resourceSnapshots id none
  pendingState := update m.pendingState id none
  health := update m.health id none
  pendingDiscovery := update m.pendingDiscovery id none
  revoked := m.revoked
  streamCancels := update m.streamCancels id none

/-- The first loop of `apply_revocations`: the ids that were not in the set before. -/
def insertRevoked (revoked : Finset ShieldId) : List ShieldId → Finset ShieldId × List ShieldId
  | [] => (revoked, [])
  | id :: ids =>
    let (after, newly) := insertRevoked (insert id revoked) ids
    (after, if id ∈ revoked then newly else id :: newly)

/-- The second loop: with the streams whose tokens are to be cancelled. -/
def forgetAll (m : ShieldMaps) : List ShieldId → ShieldMaps × List StreamId
  | [] => (m, [])
  | id :: ids =>
    let (after, cancels) := forgetAll (m.forget id) ids
    (after, (m.streamCancels id).getD [] ++ cancels)

/-- The critical section of `apply_revocations`. -/
def applyRevocations (m : ShieldMaps) (ids : List ShieldId) :
    ShieldMaps × List ShieldId × List StreamId :=
  let (revoked, newly) := insertRevoked m.revoked ids
  let (after, cancels) := forgetAll { m with revoked := revoked } newly
  (after, newly, cancels)

/-- The critical section of `control`. -/
def admitStream (m : ShieldMaps) (synced admits : Bool) (notServing : Refusal)
    (shieldId : ShieldId) (streamId : StreamId) : Except Refusal ShieldMaps :=
  if synced = false then
    .error (.unavailable
      "connector has not yet applied the controller's shield revocation list")
  else if admits = false then .error notServing
  else if shieldId ∈ m.revoked then .error (.permissionDenied "shield is revoked")
  else
    .ok { m with
      instructionTxs := update m.instructionTxs shieldId (some streamId)
      snapshotTxs := update m.snapshotTxs shieldId (some streamId)
      streamCancels := update m.streamCancels shieldId
        (some ((m.streamCancels shieldId).getD [] ++ [streamId])) }

/-- With the stream whose channel the instructions go to. -/
def pushInstructions (m : ShieldMaps) (shieldId : ShieldId)
    (instructions : List ResourceInstruction) : ShieldMaps × Option StreamId :=
  if instructions = [] then (m, none)
  else if shieldId ∈ m.revoked then (m, none)
  else
    match m.instructionTxs shieldId with
    | some tx => (m, some tx)
    | none =>
      ({ m with
          resourceInstructions := update m.resourceInstructions shieldId
            (some ((m.resourceInstructions shieldId).getD [] ++ instructions)) }, none)

/-- With the stream whose channel the snapshot goes to. -/
def pushSnapshot (m : ShieldMaps) (shieldId : ShieldId) (snapshot : ResourceSnapshot) :
    ShieldMaps × Option StreamId :=
  if shieldId ∈ m.revoked then (m, none)
  else
    ({ m with resourceSnapshots := update m.resourceSnapshots shieldId (some snapshot) },
      m.snapshotTxs shieldId)

def takeInstructions (m : ShieldMaps) (shieldId : ShieldId) :
    ShieldMaps × List ResourceInstruction :=
  ({ m with resourceInstructions := update m.resourceInstructions shieldId none },
    (m.resourceInstructions shieldId).getD [])

def drainDiscoveryBatch (m : ShieldMaps) : ShieldMaps :=
  { m with pendingDiscovery := fun _ => none }

def drainStateBatch (m : ShieldMaps) : ShieldMaps := { m with pendingState := fun _ => none }

def goodbye (m : ShieldMaps) (shieldId : ShieldId) : ShieldMaps :=
  { m with health := update m.health shieldId none }

/-- The end of a stream: its channels go if they are still its own. -/
def leave (m : ShieldMaps) (shieldId : ShieldId) (streamId : StreamId) : ShieldMaps :=
  { m with
    instructionTxs := if m.instructionTxs shieldId = some streamId then
      update m.instructionTxs shieldId none else m.instructionTxs
    snapshotTxs := if m.snapshotTxs shieldId = some streamId then
      update m.snapshotTxs shieldId none else m.snapshotTxs
    streamCancels :=
      match m.streamCancels shieldId with
      | none => m.streamCancels
      | some tokens =>
        let rest := tokens.filter (· != streamId)
        update m.streamCancels shieldId (if rest = [] then none else some rest) }

end ShieldMaps

/-- The messages of a Control stream that reach the registry. An ack goes to the controller and
a pong nowhere; `TunnelOpened` goes to the hub. -/
inductive Message
  | healthReport (report : HealthReport) (now : ℤ)
  | discoveryReport (report : DiscoveryReport)
  | resourceState (report : ResourceStateReport)
  | resourceAck
  | tunnelOpened (connectionId : ConnectionId) (ok : Bool) (error : String)

/-- The handler's write to the maps. -/
def ShieldMaps.handle (m : ShieldMaps) (shieldId : ShieldId) : Message → ShieldMaps
  | .healthReport report now =>
    let entry : ShieldEntry := ⟨"active", report.version, now, report.lanIp⟩
    { m with health := update m.health shieldId (some entry) }
  | .discoveryReport report =>
    { m with pendingDiscovery := update m.pendingDiscovery shieldId (some report) }
  | .resourceState report =>
    { m with pendingState := update m.pendingState shieldId (some report) }
  | .resourceAck | .tunnelOpened .. => m

/-- The message is one of the reports that the maps keep. -/
def Message.kept : Message → Bool
  | .healthReport .. | .discoveryReport _ | .resourceState _ => true
  | .resourceAck | .tunnelOpened .. => false

/-- How far `control` has come with a stream. -/
inductive TaskPhase
  | begun
  | admitted
  | running (message : Option Message)
  | leaving
  | left
  | gone

def TaskPhase.message : TaskPhase → Option Message
  | .running message => message
  | _ => none

structure Task where
  shieldId : ShieldId
  phase : TaskPhase

/-- A call of `apply_revocations` past its critical section. -/
structure Revoking where
  ids : List ShieldId
  cancels : List StreamId
  /-- the shields that the hub is still to be told of -/
  newly : List ShieldId

structure State where
  maps : ShieldMaps
  synced : Bool
  hub : TunnelHub.State
  tasks : StreamId → Option Task
  cancelled : List StreamId
  revoking : Option Revoking
  /-- the ids in the lists of the calls that have returned -/
  returned : Finset ShieldId

def init : State where
  maps := .default
  synced := false
  hub := TunnelHub.init
  tasks _ := none
  cancelled := []
  revoking := none
  returned := ∅

def State.setTask (s : State) (streamId : StreamId) (task : Task) : State :=
  { s with tasks := update s.tasks streamId (some task) }

inductive Action
  | connect (shieldId : ShieldId)
  | admitTask (streamId : StreamId) (admits : Bool) (notServing : Refusal)
  | register (streamId : StreamId)
  | takeInstructions (streamId : StreamId)
  | receive (streamId : StreamId) (message : Message)
  | handle (streamId : StreamId)
  | stop (streamId : StreamId)
  | leave (streamId : StreamId)
  | endStream (streamId : StreamId) (clean : Bool)
  | pushInstructions (shieldId : ShieldId) (instructions : List ResourceInstruction)
  | pushSnapshot (shieldId : ShieldId) (snapshot : ResourceSnapshot)
  | drainDiscoveryBatch
  | drainStateBatch
  | goodbye (shieldId : ShieldId)
  | requireRevocationResync
  | applyRevocations (ids : List ShieldId)
  | cancelToken
  | revokeAtHub
  | returnRevocations
  | session (a : TunnelHub.Action)

/-- The hub's operations other than those of the Control streams and of a revocation. -/
def ofSessions : TunnelHub.Action → Bool
  | .connect _ | .registerShield _ | .endStream .. | .revokeShield _ => false
  | _ => true

def step (s : State) : Action → Option State
  | .connect shieldId =>
    (TunnelHub.step s.hub (.connect shieldId)).map fun hub =>
      { s.setTask s.hub.nextStreamId ⟨shieldId, .begun⟩ with hub := hub }
  | .admitTask streamId admits notServing =>
    match s.tasks streamId with
    | some ⟨shieldId, .begun⟩ =>
      match s.maps.admitStream s.synced admits notServing shieldId streamId with
      | .ok maps => some { s.setTask streamId ⟨shieldId, .admitted⟩ with maps := maps }
      | .error _ => some (s.setTask streamId ⟨shieldId, .gone⟩)
    | _ => none
  | .register streamId =>
    match s.tasks streamId with
    | some ⟨shieldId, .admitted⟩ =>
      let registered := (s.hub.hub.registerShield shieldId streamId).2
      (TunnelHub.step s.hub (.registerShield streamId)).map fun hub =>
        { s.setTask streamId ⟨shieldId, if registered then .running none else .gone⟩ with
          hub := hub }
    | _ => none
  | .takeInstructions streamId =>
    match s.tasks streamId with
    | some ⟨shieldId, .running _⟩ => some { s with maps := (s.maps.takeInstructions shieldId).1 }
    | _ => none
  | .receive streamId message =>
    match s.tasks streamId with
    | some ⟨shieldId, .running none⟩ =>
      if streamId ∈ s.cancelled then none
      else some (s.setTask streamId ⟨shieldId, .running (some message)⟩)
    | _ => none
  | .handle streamId =>
    match s.tasks streamId with
    | some ⟨shieldId, .running (some message)⟩ =>
      let s := { s.setTask streamId ⟨shieldId, .running none⟩ with
        maps := s.maps.handle shieldId message }
      match message with
      | .tunnelOpened connectionId ok error =>
        (TunnelHub.step s.hub (.dispatchOpened shieldId connectionId ok error)).map fun hub =>
          { s with hub := hub }
      | _ => some s
    | _ => none
  | .stop streamId =>
    match s.tasks streamId with
    | some ⟨shieldId, .running _⟩ => some (s.setTask streamId ⟨shieldId, .leaving⟩)
    | _ => none
  | .leave streamId =>
    match s.tasks streamId with
    | some ⟨shieldId, .leaving⟩ =>
      some { s.setTask streamId ⟨shieldId, .left⟩ with maps := s.maps.leave shieldId streamId }
    | _ => none
  | .endStream streamId clean =>
    match s.tasks streamId with
    | some ⟨shieldId, .left⟩ =>
      (TunnelHub.step s.hub (.endStream streamId clean)).map fun hub =>
        { s.setTask streamId ⟨shieldId, .gone⟩ with hub := hub }
    | _ => none
  | .pushInstructions shieldId instructions =>
    some { s with maps := (s.maps.pushInstructions shieldId instructions).1 }
  | .pushSnapshot shieldId snapshot =>
    some { s with maps := (s.maps.pushSnapshot shieldId snapshot).1 }
  | .drainDiscoveryBatch => some { s with maps := s.maps.drainDiscoveryBatch }
  | .drainStateBatch => some { s with maps := s.maps.drainStateBatch }
  | .goodbye shieldId => some { s with maps := s.maps.goodbye shieldId }
  | .requireRevocationResync => some { s with synced := false }
  | .applyRevocations ids =>
    match s.revoking with
    | some _ => none
    | none =>
      let (maps, newly, cancels) := s.maps.applyRevocations ids
      some { s with maps := maps, synced := true, revoking := some ⟨ids, cancels, newly⟩ }
  | .cancelToken =>
    match s.revoking with
    | some ⟨ids, streamId :: cancels, newly⟩ =>
      some { s with
        cancelled := streamId :: s.cancelled
        revoking := some ⟨ids, cancels, newly⟩ }
    | _ => none
  | .revokeAtHub =>
    match s.revoking with
    | some ⟨ids, [], id :: newly⟩ =>
      (TunnelHub.step s.hub (.revokeShield id)).map fun hub =>
        { s with hub := hub, revoking := some ⟨ids, [], newly⟩ }
    | _ => none
  | .returnRevocations =>
    match s.revoking with
    | some ⟨ids, [], []⟩ => some { s with revoking := none, returned := s.returned ∪ ids.toFinset }
    | _ => none
  | .session a =>
    if ofSessions a then (TunnelHub.step s.hub a).map fun hub => { s with hub := hub }
    else none

/-! ### What is to hold -/

/-- None of the maps has an entry for the shield. -/
structure ShieldMaps.Clean (m : ShieldMaps) (id : ShieldId) : Prop where
  instructionTxs : m.instructionTxs id = none
  resourceInstructions : m.resourceInstructions id = none
  snapshotTxs : m.snapshotTxs id = none
  resourceSnapshots : m.resourceSnapshots id = none
  pendingState : m.pendingState id = none
  health : m.health id = none
  pendingDiscovery : m.pendingDiscovery id = none
  streamCancels : m.streamCancels id = none

/-- Nothing is left of a shield whose revocation has returned. -/
def NothingLeft (s : State) : Prop :=
  ∀ id ∈ s.returned, s.maps.Clean id ∧ s.hub.hub.shieldTxs id = none ∧
    ∀ connectionId e, s.hub.session connectionId = some e → e.shieldId ≠ id

/-- A report is not written once the maps have the shield as revoked. -/
def WrittenInTime (s : State) : Action → Prop
  | .handle streamId => ∀ task ∈ s.tasks streamId, ∀ message ∈ task.phase.message,
      message.kept = true → task.shieldId ∉ s.maps.revoked
  | _ => True

instance (s : State) (a : Action) : Decidable (WrittenInTime s a) := by
  cases a <;> unfold WrittenInTime <;> infer_instance

/-! ### The maps -/

namespace ShieldMaps

variable {m : ShieldMaps} {id sh : ShieldId} {x : StreamId}

lemma update_eq_none {V : Type} {f : ShieldId → Option V} {v} (h : f id = none)
    (hv : id = sh → v = none) : update f sh v id = none := by
  by_cases hid : id = sh
  · subst hid
    rw [update_self, hv rfl]
  · rw [update_of_ne hid, h]

lemma Clean.forget (h : m.Clean id) (other : ShieldId) : (m.forget other).Clean id where
  instructionTxs := update_eq_none h.instructionTxs fun _ => rfl
  resourceInstructions := update_eq_none h.resourceInstructions fun _ => rfl
  snapshotTxs := update_eq_none h.snapshotTxs fun _ => rfl
  resourceSnapshots := update_eq_none h.resourceSnapshots fun _ => rfl
  pendingState := update_eq_none h.pendingState fun _ => rfl
  health := update_eq_none h.health fun _ => rfl
  pendingDiscovery := update_eq_none h.pendingDiscovery fun _ => rfl
  streamCancels := update_eq_none h.streamCancels fun _ => rfl

lemma clean_forget (m : ShieldMaps) (id : ShieldId) : (m.forget id).Clean id where
  instructionTxs := update_self _ _ _
  resourceInstructions := update_self _ _ _
  snapshotTxs := update_self _ _ _
  resourceSnapshots := update_self _ _ _
  pendingState := update_self _ _ _
  health := update_self _ _ _
  pendingDiscovery := update_self _ _ _
  streamCancels := update_self _ _ _

lemma forgetAll_revoked (m : ShieldMaps) (ids : List ShieldId) :
    (m.forgetAll ids).1.revoked = m.revoked := by
  induction ids generalizing m with
  | nil => rfl
  | cons other ids ih => exact ih (m.forget other)

lemma Clean.forgetAll (h : m.Clean id) (ids : List ShieldId) : (m.forgetAll ids).1.Clean id := by
  induction ids generalizing m with
  | nil => exact h
  | cons other ids ih => exact ih (h.forget other)

variable {admits synced : Bool} {notServing : Refusal} {m' : ShieldMaps} {ids : List ShieldId}

lemma clean_forgetAll (h : id ∈ ids) (m : ShieldMaps) : (m.forgetAll ids).1.Clean id := by
  induction ids generalizing m with
  | nil => cases h
  | cons other ids ih =>
    rcases List.mem_cons.1 h with rfl | h
    · exact (clean_forget m id).forgetAll ids
    · exact ih h (m.forget other)

lemma mem_insertRevoked {rev} : id ∈ (insertRevoked rev ids).1 ↔ id ∈ rev ∨ id ∈ ids := by
  induction ids generalizing rev with
  | nil => simp [insertRevoked]
  | cons other ids ih =>
    simp only [insertRevoked, ih, Finset.mem_insert, List.mem_cons]
    tauto

lemma mem_newly {revoked} : id ∈ (insertRevoked revoked ids).2 ↔ id ∈ ids ∧ id ∉ revoked := by
  induction ids generalizing revoked with
  | nil => simp [insertRevoked]
  | cons other ids ih =>
    simp only [insertRevoked]
    grind

lemma admitStream_ok (ha : m.admitStream synced admits notServing sh x = .ok m') :
    sh ∉ m.revoked ∧ m' = { m with
      instructionTxs := update m.instructionTxs sh (some x)
      snapshotTxs := update m.snapshotTxs sh (some x)
      streamCancels := update m.streamCancels sh
        (some ((m.streamCancels sh).getD [] ++ [x])) } := by
  unfold ShieldMaps.admitStream at ha
  grind

lemma Clean.admitStream (h : m.Clean id) (hid : id ∈ m.revoked)
    (ha : m.admitStream synced admits notServing sh x = .ok m') : m'.Clean id := by
  obtain ⟨hs, rfl⟩ := admitStream_ok ha
  have hne : id ≠ sh := fun heq => hs (heq ▸ hid)
  exact { h with
    instructionTxs := update_eq_none h.instructionTxs fun heq => absurd heq hne
    snapshotTxs := update_eq_none h.snapshotTxs fun heq => absurd heq hne
    streamCancels := update_eq_none h.streamCancels fun heq => absurd heq hne }

lemma Clean.pushInstructions (h : m.Clean id) (hid : id ∈ m.revoked) (sh : ShieldId)
    (ins : List ResourceInstruction) : (m.pushInstructions sh ins).1.Clean id := by
  unfold ShieldMaps.pushInstructions
  split
  · exact h
  · split
    · exact h
    · next hs =>
      split
      · exact h
      · exact { h with
          resourceInstructions := update_eq_none h.resourceInstructions
            fun heq => absurd (heq ▸ hid) hs }

lemma Clean.pushSnapshot (h : m.Clean id) (hid : id ∈ m.revoked) (sh : ShieldId)
    (snap : ResourceSnapshot) : (m.pushSnapshot sh snap).1.Clean id := by
  unfold ShieldMaps.pushSnapshot
  split
  · exact h
  · next hs =>
    exact { h with
      resourceSnapshots := update_eq_none h.resourceSnapshots
        fun heq => absurd (heq ▸ hid) hs }

lemma Clean.handle (h : m.Clean id) (hid : id ∈ m.revoked) {msg}
    (ht : msg.kept = true → sh ∉ m.revoked) : (m.handle sh msg).Clean id := by
  have hne : msg.kept = true → id ≠ sh := fun hk heq => ht hk (heq ▸ hid)
  cases msg with
  | healthReport rep now =>
    exact { h with health := update_eq_none h.health fun heq => absurd heq (hne rfl) }
  | discoveryReport rep =>
    exact { h with
      pendingDiscovery := update_eq_none h.pendingDiscovery fun heq => absurd heq (hne rfl) }
  | resourceState rep =>
    exact { h with pendingState := update_eq_none h.pendingState fun heq => absurd heq (hne rfl) }
  | resourceAck | tunnelOpened => exact h

lemma Clean.leave (h : m.Clean id) (sh : ShieldId) (x : StreamId) : (m.leave sh x).Clean id := by
  refine { h with instructionTxs := ?_, snapshotTxs := ?_, streamCancels := ?_ }
  · simp only [ShieldMaps.leave]
    split
    · exact update_eq_none h.instructionTxs fun _ => rfl
    · exact h.instructionTxs
  · simp only [ShieldMaps.leave]
    split
    · exact update_eq_none h.snapshotTxs fun _ => rfl
    · exact h.snapshotTxs
  · simp only [ShieldMaps.leave]
    cases ht : m.streamCancels sh with
    | none => exact h.streamCancels
    | some tokens =>
      -- a clean shield has no tokens to filter
      refine update_eq_none h.streamCancels fun heq => ?_
      rw [← heq, h.streamCancels] at ht
      cases ht

lemma revoked_pushInstructions (sh : ShieldId) (ins : List ResourceInstruction) :
    (m.pushInstructions sh ins).1.revoked = m.revoked := by
  unfold ShieldMaps.pushInstructions
  repeat' split
  all_goals rfl

lemma revoked_pushSnapshot (sh : ShieldId) (snap : ResourceSnapshot) :
    (m.pushSnapshot sh snap).1.revoked = m.revoked := by
  unfold ShieldMaps.pushSnapshot
  split <;> rfl

lemma revoked_handle (sh : ShieldId) (msg : Message) : (m.handle sh msg).revoked = m.revoked := by
  cases msg <;> rfl

end ShieldMaps

/-! ### The invariant -/

structure Inv (s : State) : Prop where
  hub : TunnelHub.Inv s.hub
  clean : ∀ id ∈ s.maps.revoked, s.maps.Clean id
  /-- the hub knows of a revoked shield, or is about to be told -/
  told : ∀ id ∈ s.maps.revoked, id ∈ s.hub.hub.revoked ∨
    ∃ r, s.revoking = some r ∧ id ∈ r.newly
  listed : ∀ r, s.revoking = some r → ∀ id ∈ r.ids, id ∈ s.maps.revoked
  returned : ∀ id ∈ s.returned, id ∈ s.maps.revoked ∧ id ∈ s.hub.hub.revoked

lemma inv_init : Inv init where
  hub := TunnelHub.inv_init
  clean _ h := by simp [init, ShieldMaps.default] at h
  told _ h := by simp [init, ShieldMaps.default] at h
  listed _ h := by cases h
  returned _ h := by simp [init] at h

variable {s s' : State}

/-- The hub takes a step of its own, or none. -/
def HubMoves (s s' : State) : Prop := s'.hub = s.hub ∨ ∃ a, TunnelHub.step s.hub a = some s'.hub

lemma HubMoves.inv (h : HubMoves s s') (hi : TunnelHub.Inv s.hub) : TunnelHub.Inv s'.hub := by
  rcases h with h | ⟨a, h⟩
  · rw [h]
    exact hi
  · exact TunnelHub.inv_step hi h

lemma HubMoves.revoked (h : HubMoves s s') : s.hub.hub.revoked ⊆ s'.hub.hub.revoked := by
  rcases h with h | ⟨a, h⟩
  · rw [h]
  · exact TunnelHub.revoked_subset h

section

variable (h : Inv s)
include h

lemma Inv.of_frame (hh : HubMoves s s') (hrv : s'.maps.revoked = s.maps.revoked)
    (hc : ∀ id ∈ s.maps.revoked, s.maps.Clean id → s'.maps.Clean id)
    (hrvk : s'.revoking = s.revoking) (hrt : s'.returned = s.returned) : Inv s' where
  hub := hh.inv h.hub
  clean id hid := by
    rw [hrv] at hid
    exact hc id hid (h.clean id hid)
  told id hid := by
    rw [hrv] at hid
    rw [hrvk]
    exact (h.told id hid).imp_left (hh.revoked ·)
  listed r hr id hid := by
    rw [hrvk] at hr
    rw [hrv]
    exact h.listed r hr id hid
  returned id hid := by
    rw [hrt] at hid
    rw [hrv]
    exact (h.returned id hid).imp_right (hh.revoked ·)

/-! ### The steps of the streams -/

lemma inv_receive {x msg} (hs : step s (.receive x msg) = some s') : Inv s' := by
  dsimp only [step] at hs
  split at hs
  · split at hs <;> cases hs
    exact h.of_frame (.inl rfl) rfl (fun _ _ => id) rfl rfl
  · cases hs

/-! ### The steps of a revocation -/

lemma inv_applyRevocations {ids} (hs : step s (.applyRevocations ids) = some s') : Inv s' := by
  dsimp only [step] at hs
  split at hs <;> cases hs
  next hi =>
    have hrv : ∀ id, id ∈ (s.maps.applyRevocations ids).1.revoked ↔
        id ∈ s.maps.revoked ∨ id ∈ ids := fun id => by
      simp only [ShieldMaps.applyRevocations, ShieldMaps.forgetAll_revoked]
      exact ShieldMaps.mem_insertRevoked
    refine { hub := h.hub, clean := fun id hid => ?_, told := fun id hid => ?_,
             listed := fun r hr id hid => ?_, returned := fun id hid => ?_ }
    · by_cases hold : id ∈ s.maps.revoked
      · have hm : ShieldMaps.Clean
            { s.maps with revoked := (ShieldMaps.insertRevoked s.maps.revoked ids).1 } id :=
          { h.clean id hold with }
        exact hm.forgetAll _
      · have hn := ((hrv id).1 hid).resolve_left hold
        exact ShieldMaps.clean_forgetAll (ShieldMaps.mem_newly.2 ⟨hn, hold⟩) _
    · by_cases hold : id ∈ s.maps.revoked
      · rcases h.told id hold with ht | ⟨r, hr, -⟩
        · exact .inl ht
        · cases hi.symm.trans hr
      · have hn := ((hrv id).1 hid).resolve_left hold
        exact .inr ⟨_, rfl, ShieldMaps.mem_newly.2 ⟨hn, hold⟩⟩
    · cases hr
      exact (hrv id).2 (.inr hid)
    · obtain ⟨hm, hh⟩ := h.returned id hid
      exact ⟨(hrv id).2 (.inl hm), hh⟩

lemma inv_revokeAtHub (hs : step s .revokeAtHub = some s') : Inv s' := by
  dsimp only [step] at hs
  split at hs
  · next ids id newly hr =>
    obtain ⟨hub, hst, rfl⟩ := map_eq_some_iff.1 hs
    have hsub := TunnelHub.revoked_subset hst
    refine { hub := TunnelHub.inv_step h.hub hst, clean := h.clean, told := fun i hi => ?_,
             listed := fun r hr' i hi => ?_, returned := fun i hi => ?_ }
    · rcases h.told i hi with ht | ⟨r, hr', hn⟩
      · exact .inl (hsub ht)
      · cases hr.symm.trans hr'
        rcases List.mem_cons.1 hn with rfl | hn
        · cases hst
          exact .inl (Finset.mem_insert_self _ _)
        · exact .inr ⟨_, rfl, hn⟩
    · cases hr'
      exact h.listed _ hr i hi
    · exact (h.returned i hi).imp_right (hsub ·)
  · cases hs

lemma inv_returnRevocations (hs : step s .returnRevocations = some s') : Inv s' := by
  dsimp only [step] at hs
  split at hs <;> cases hs
  next ids hr =>
    have ht : ∀ id ∈ s.maps.revoked, id ∈ s.hub.hub.revoked := by
      intro id hid
      rcases h.told id hid with ht | ⟨r, hr', hn⟩
      · exact ht
      · cases hr.symm.trans hr'
        cases hn
    refine { h with told := fun id hid => .inl (ht id hid), listed := fun r hr' => ?_,
                    returned := fun id hid => ?_ }
    · cases hr'
    · rcases Finset.mem_union.1 hid with hold | hn
      · exact h.returned id hold
      · have hm := h.listed _ hr id (List.mem_toFinset.1 hn)
        exact ⟨hm, ht id hm⟩

lemma inv_step {a} (hok : WrittenInTime s a) (hs : step s a = some s') : Inv s' := by
  cases a with
  | connect sh =>
    cases hs
    exact h.of_frame (.inr ⟨.connect sh, rfl⟩) rfl (fun _ _ => id) rfl rfl
  | admitTask x admits notServing =>
    dsimp only [step] at hs
    split at hs
    · split at hs
      · next maps ha =>
        cases hs
        have hrv : maps.revoked = s.maps.revoked := by rw [(ShieldMaps.admitStream_ok ha).2]
        exact h.of_frame (.inl rfl) hrv (fun _ hid hc => hc.admitStream hid ha) rfl rfl
      · cases hs
        exact h.of_frame (.inl rfl) rfl (fun _ _ => id) rfl rfl
    · cases hs
  | register | endStream | session =>
    dsimp only [step] at hs
    split at hs
    · obtain ⟨hub, hst, rfl⟩ := map_eq_some_iff.1 hs
      exact h.of_frame (.inr ⟨_, hst⟩) rfl (fun _ _ => id) rfl rfl
    · cases hs
  | takeInstructions x =>
    dsimp only [step] at hs
    split at hs <;> cases hs
    refine h.of_frame (.inl rfl) rfl (fun id _ hc => ?_) rfl rfl
    exact { hc with
      resourceInstructions := ShieldMaps.update_eq_none hc.resourceInstructions fun _ => rfl }
  | receive x msg => exact inv_receive h hs
  | handle x =>
    -- The one step that asks for the condition.
    dsimp only [step] at hs
    split at hs
    · next sh msg ht =>
      have hcl : ∀ id ∈ s.maps.revoked, s.maps.Clean id → (s.maps.handle sh msg).Clean id :=
        fun id hid hc => hc.handle hid (hok _ ht msg rfl)
      have hrv := s.maps.revoked_handle sh msg
      split at hs
      · obtain ⟨hub, hst, rfl⟩ := map_eq_some_iff.1 hs
        exact h.of_frame (.inr ⟨_, hst⟩) hrv hcl rfl rfl
      · cases hs
        exact h.of_frame (.inl rfl) hrv hcl rfl rfl
    · cases hs
  | stop x =>
    dsimp only [step] at hs
    split at hs <;> cases hs
    exact h.of_frame (.inl rfl) rfl (fun _ _ => id) rfl rfl
  | leave x =>
    dsimp only [step] at hs
    split at hs <;> cases hs
    next sh ht => exact h.of_frame (.inl rfl) rfl (fun id _ hc => hc.leave sh x) rfl rfl
  | pushInstructions sh ins =>
    cases hs
    exact h.of_frame (.inl rfl) (s.maps.revoked_pushInstructions sh ins)
      (fun id hid hc => hc.pushInstructions hid sh ins) rfl rfl
  | pushSnapshot sh snap =>
    cases hs
    exact h.of_frame (.inl rfl) (s.maps.revoked_pushSnapshot sh snap)
      (fun id hid hc => hc.pushSnapshot hid sh snap) rfl rfl
  | drainDiscoveryBatch =>
    cases hs
    exact h.of_frame (.inl rfl) rfl (fun id _ hc => { hc with pendingDiscovery := rfl }) rfl rfl
  | drainStateBatch =>
    cases hs
    exact h.of_frame (.inl rfl) rfl (fun id _ hc => { hc with pendingState := rfl }) rfl rfl
  | goodbye sh =>
    cases hs
    refine h.of_frame (.inl rfl) rfl (fun id _ hc => ?_) rfl rfl
    exact { hc with health := ShieldMaps.update_eq_none hc.health fun _ => rfl }
  | requireRevocationResync =>
    cases hs
    exact h.of_frame (.inl rfl) rfl (fun _ _ => id) rfl rfl
  | applyRevocations ids => exact inv_applyRevocations h hs
  | cancelToken =>
    dsimp only [step] at hs
    split at hs <;> cases hs
    next ids x cancels newly hr =>
      refine { h with told := fun id hid => ?_, listed := fun r hr' id hid => ?_ }
      · rcases h.told id hid with htl | ⟨r, hr', hn⟩
        · exact .inl htl
        · cases hr.symm.trans hr'
          exact .inr ⟨_, rfl, hn⟩
      · cases hr'
        exact h.listed _ hr id hid
  | revokeAtHub => exact inv_revokeAtHub h hs
  | returnRevocations => exact inv_returnRevocations h hs

end

/-- **Nothing is left of a revoked shield**, in every run in which no report is written after
the maps have its shield as revoked. -/
theorem nothingLeft_of_writtenInTime {acts : List Action} {s : State}
    (hok : Meets step WrittenInTime init acts) (hexec : exec step init acts = some s) :
    NothingLeft s := by
  have hi : Inv s := exec_inv_of_meets (fun _ _ _ h hok hs => inv_step h hok hs) inv_init hok hexec
  intro id hid
  obtain ⟨hm, hh⟩ := hi.returned id hid
  exact ⟨hi.clean id hm, hi.hub.revoked_unregistered id hh, hi.hub.revoked_without_session id hh⟩

/-- A shield with a buffered report, a cached snapshot and a session is revoked while it sends
another report, which is still written in time. -/
def revokedInTime : List Action :=
  [.applyRevocations [], .returnRevocations, .connect "shield",
    .admitTask 0 true (.unavailable "connector is not authorized to serve"), .register 0,
    .receive 0 (.resourceState "state"), .handle 0, .pushSnapshot "shield" ⟨1, []⟩,
    .session (.openSession "shield" "c" false), .receive 0 (.healthReport ⟨"1.0", "10.0.0.7"⟩ 100),
    .handle 0, .applyRevocations ["shield"], .cancelToken, .pushSnapshot "shield" ⟨2, []⟩,
    .revokeAtHub, .returnRevocations, .stop 0, .leave 0, .endStream 0 false]

theorem revokedInTime_nothingLeft : ∃ s, Meets step WrittenInTime init revokedInTime ∧
    exec step init revokedInTime = some s ∧ s.returned = {"shield"} ∧ NothingLeft s := by
  have hok : Meets step WrittenInTime init revokedInTime := by decide
  exact ⟨_, hok, rfl, rfl, nothingLeft_of_writtenInTime hok rfl⟩

/-- The report was received before the revocation and is written after it. -/
def writtenLate : List Action :=
  [.applyRevocations [], .returnRevocations, .connect "shield",
    .admitTask 0 true (.unavailable "connector is not authorized to serve"), .register 0,
    .receive 0 (.healthReport ⟨"1.0", "10.0.0.7"⟩ 100), .applyRevocations ["shield"],
    .cancelToken, .revokeAtHub, .returnRevocations, .handle 0]

/-- The revoked shield is back among the healthy ones. -/
theorem writtenLate_left : ∃ s, exec step init writtenLate = some s ∧ "shield" ∈ s.returned ∧
    s.maps.health "shield" = some ⟨"active", "1.0", 100, "10.0.0.7"⟩ ∧ ¬ NothingLeft s := by
  refine ⟨_, rfl, by decide, rfl, fun hn => ?_⟩
  have hc := (hn "shield" (by decide)).1
  cases hc.health

end Zecurity.ShieldRegistry
