import Zecurity.SnapshotCache

/-!
The two paths that enqueue ACL snapshots on the Control streams of a workspace
(`controller/internal/connector/control_stream.go`, `pushACLSnapshot`, and
`controller/internal/connector/acl_push.go`), over the snapshot cache.

Each path calls `GetOrCompile` and then enqueues what it got, as two steps. Health reports are
handled one at a time on each stream; the proactive push is one worker for the workspace, and
triggers that arrive while it runs are coalesced. Mailboxes are shared with other messages, so
whether there is room is up to the step.
-/

namespace Zecurity.AclPush

open Function List Option

open EpochCache (CallId)
open SnapshotCache (Snap Outcome gateSkips Extends)

abbrev StreamId := ℕ

/-- A call of `pushACLSnapshot` that has not sent yet. -/
structure Heartbeat where
  connectorVersion : UInt64
  call : CallId
  /-- how much the stream had been sent when the call began (ghost) -/
  mark : ℕ

/-- Where `pushOnce` stands. `marks` is the `mark` of every stream (ghost). -/
inductive PushPhase
  | started
  | calling (call : CallId) (marks : StreamId → ℕ)
  | failed
  | sending (snap : Snap) (clients : List StreamId) (marks : StreamId → ℕ)

/-- `wsPushState` and its `runPush`; the entry exists only while `running` holds. -/
structure WsPush where
  pending : Bool
  phase : PushPhase

structure State where
  cache : SnapshotCache.State
  heartbeats : StreamId → Option Heartbeat
  inflight : Option WsPush
  log : StreamId → List Snap

def init : State := ⟨SnapshotCache.init, fun _ => none, none, fun _ => []⟩

/-- What a call of `GetOrCompile` has returned. -/
def State.result (s : State) (call : CallId) : Option Outcome :=
  (s.cache.calls call).bind fun k =>
    match k.phase with
    | .returned o => some o
    | _ => none

/-- `send`: dropped where the mailbox is full. -/
def State.send (s : State) (x : StreamId) (snap : Snap) (room : Bool) : State :=
  if room then { s with log := update s.log x (s.log x ++ [snap]) } else s

inductive Action
  | cache (a : SnapshotCache.Action)
  /-- a health report with its ACL version: `pushACLSnapshot` up to its call -/
  | heartbeat (x : StreamId) (connectorVersion : UInt64) (call : CallId)
  | deliver (x : StreamId) (room : Bool)
  | pushWorkspace
  | pushOnce (call : CallId)
  /-- the call of `pushOnce` has returned, and it asks for the clients -/
  | clientsForWorkspace (clients : List StreamId)
  | send (room : Bool)
  | drain

def step (s : State) : Action → Option State
  | .cache a => (SnapshotCache.step s.cache a).map fun c => { s with cache := c }
  | .heartbeat x connectorVersion call =>
    if (s.heartbeats x).isNone then
      (SnapshotCache.step s.cache (.begin call)).map fun c =>
        { s with
          cache := c
          heartbeats := update s.heartbeats x
            (some ⟨connectorVersion, call, (s.log x).length⟩) }
    else none
  | .deliver x room =>
    (s.heartbeats x).bind fun h =>
      (s.result h.call).map fun o =>
        let ended := { s with heartbeats := update s.heartbeats x none }
        match o with
        | .failed => ended
        | .snapshot snap _ =>
          if gateSkips h.connectorVersion snap.version then ended else ended.send x snap room
  | .pushWorkspace =>
    match s.inflight with
    | some w => some { s with inflight := some { w with pending := true } }
    | none => some { s with inflight := some ⟨false, .started⟩ }
  | .pushOnce call =>
    match s.inflight with
    | some ⟨pending, .started⟩ =>
      (SnapshotCache.step s.cache (.begin call)).map fun c =>
        { s with
          cache := c
          inflight := some ⟨pending, .calling call fun x => (s.log x).length⟩ }
    | _ => none
  | .clientsForWorkspace clients =>
    match s.inflight with
    | some ⟨pending, .calling call marks⟩ =>
      (s.result call).map fun o =>
        match o with
        | .failed => { s with inflight := some ⟨pending, .failed⟩ }
        | .snapshot snap _ => { s with inflight := some ⟨pending, .sending snap clients marks⟩ }
    | _ => none
  | .send room =>
    match s.inflight with
    | some ⟨pending, .sending snap (x :: clients) marks⟩ =>
      some ({ s with inflight := some ⟨pending, .sending snap clients marks⟩ }.send x snap room)
    | _ => none
  | .drain =>
    match s.inflight with
    | some ⟨pending, .failed⟩ | some ⟨pending, .sending _ [] _⟩ =>
      some { s with inflight := if pending then some ⟨false, .started⟩ else none }
    | _ => none

/-! ### The connector's side -/

/-- The connector's cache after a delivery: every snapshot replaces the one before. -/
def held (content : Snap → Acl.AclSnapshot) (delivered : List Snap) : Acl.PolicyCache :=
  delivered.foldl (fun c x => (c.updateAndRevoked (content x)).1) .new

variable {x : StreamId} {call : CallId} {room : Bool}

lemma held_concat (cont : Snap → Acl.AclSnapshot) (del : List Snap) (x : Snap) :
    held cont (del ++ [x]) = ⟨some (cont x)⟩ := by
  simp only [held, foldl_append, foldl_cons, foldl_nil]
  exact Acl.PolicyCache.updateAndRevoked_fst _ _

/-- The versions on each stream do not decrease. -/
def Nondecreasing (s : State) : Prop :=
  ∀ x, (s.log x).Pairwise fun y z => y.version ≤ z.version

/-- Where a delivered snapshot `y` denies an access and the connector's cache allows it, the
cache holds a snapshot that is not older. -/
def NotRegranted (content : Snap → Acl.AclSnapshot) (s : State) : Prop :=
  ∀ x delivered, delivered <+: s.log x → ∀ y ∈ delivered, ∀ resourceId client,
    Acl.PolicyCache.isAllowed ⟨some (content y)⟩ resourceId client = false →
    (held content delivered).isAllowed resourceId client = true →
    ∃ z, delivered.getLast? = some z ∧ (held content delivered).snapshot = some (content z) ∧
      y.version ≤ z.version

lemma notRegranted_of_nondecreasing {cont : Snap → Acl.AclSnapshot} {s} (h : Nondecreasing s) :
    NotRegranted cont s := by
  intro x del hp y hy _ _ _ _
  rcases eq_nil_or_concat del with rfl | ⟨earlier, z, rfl⟩
  · cases hy
  rw [concat_eq_append] at hp hy ⊢
  have hs := (h x).sublist hp.sublist
  have hl := (pairwise_append.1 hs).2.2
  refine ⟨z, List.getLast?_concat, by rw [held_concat], ?_⟩
  grind

/-! ### Sends in order -/

/-- What was enqueued on the stream since the call began was compiled no later. -/
def Latest (s : State) (x : StreamId) (mark : ℕ) (snap : Snap) : Prop :=
  ∀ y ∈ (s.log x).drop mark, y.born ≤ snap.born

instance (s : State) (x : StreamId) (mark : ℕ) (snap : Snap) : Decidable (Latest s x mark snap) :=
  inferInstanceAs (Decidable (∀ y ∈ _, _))

def Outcome.Latest (s : State) (x : StreamId) (mark : ℕ) : Outcome → Prop
  | .snapshot snap _ => AclPush.Latest s x mark snap
  | .failed => True

/-- The same of the worker's next send. -/
def WsPush.Latest (s : State) : WsPush → Prop
  | ⟨_, .sending snap (x :: _) marks⟩ => AclPush.Latest s x (marks x) snap
  | _ => True

/-- The condition on a step: a snapshot is sent only while no later one has been enqueued on
the stream since the sender asked for it. -/
def SendsInOrder (s : State) : Action → Prop
  | .deliver x _ => ∀ h ∈ s.heartbeats x, ∀ o ∈ s.result h.call, Outcome.Latest s x h.mark o
  | .send _ => ∀ w ∈ s.inflight, w.Latest s
  | _ => True

/-- The call has begun, and the first `mark` snapshots of the stream had been returned when
it did. -/
def Begun (s : State) (x : StreamId) (mark : ℕ) (call : CallId) : Prop :=
  mark ≤ (s.log x).length ∧
  ∃ k, s.cache.calls call = some k ∧ ∀ y ∈ (s.log x).take mark, y.born + 1 ≤ k.floor

structure Inv (s : State) : Prop where
  cache : SnapshotCache.Inv s.cache
  logged : ∀ x, ∀ y ∈ s.log x, y ∈ s.cache.hist ∧ y.born + 1 ≤ s.cache.top
  ordered : ∀ x, (s.log x).Pairwise fun y z => y.born ≤ z.born
  heartbeat : ∀ x h, s.heartbeats x = some h → Begun s x h.mark h.call
  calling : ∀ pending call marks, s.inflight = some ⟨pending, .calling call marks⟩ →
    ∀ x, Begun s x (marks x) call
  sending : ∀ pending snap clients marks,
    s.inflight = some ⟨pending, .sending snap clients marks⟩ →
      snap ∈ s.cache.hist ∧ snap.born + 1 ≤ s.cache.top ∧
      ∀ x, marks x ≤ (s.log x).length ∧ ∀ y ∈ (s.log x).take (marks x), y.born ≤ snap.born

lemma inv_init : Inv init where
  cache := SnapshotCache.inv_init
  logged := nofun
  ordered := fun _ => List.Pairwise.nil
  heartbeat := nofun
  calling := nofun
  sending := nofun

variable {s s' : State} {a : Action} {snap : Snap} {c : SnapshotCache.State} {mark n : ℕ}
  {l : List Snap}

lemma take_of_le_length {l'} (h : l <+: l') (hn : n ≤ l.length) : l'.take n = l.take n := by
  obtain ⟨t, rfl⟩ := h
  exact take_append_of_le_length hn

lemma Begun.mono (h : Begun s x mark call) (he : Extends s.cache s'.cache)
    (hl : s.log x <+: s'.log x) : Begun s' x mark call := by
  obtain ⟨hm, k, hk, hf⟩ := h
  obtain ⟨k', hk', heq⟩ := he.calls call k hk
  refine ⟨hm.trans hl.length_le, k', hk', fun y hy => ?_⟩
  rw [take_of_le_length hl hm] at hy
  rw [heq]
  exact hf y hy

lemma Inv.extend (h : Inv s) (hroom : s.cache.core.Room) {a}
    (hs : SnapshotCache.step s.cache a = some c) : Inv { s with cache := c } := by
  have he := SnapshotCache.extends_step hs
  refine ⟨SnapshotCache.inv_step h.cache hroom hs, fun x y hy => ?_, h.ordered, fun x b hb => ?_,
    fun p call marks hw x => ?_, fun p snap cls marks hw => ?_⟩
  · obtain ⟨hmem, ht⟩ := h.logged x y hy
    exact ⟨he.hist y hmem, ht.trans he.top⟩
  · exact (h.heartbeat x b hb).mono he prefix_rfl
  · exact (h.calling p call marks hw x).mono he prefix_rfl
  · obtain ⟨hmem, ht, hm⟩ := h.sending p snap cls marks hw
    exact ⟨he.hist snap hmem, ht.trans he.top, hm⟩

lemma Inv.begun (h : Inv s) (hs : SnapshotCache.step s.cache (.begin call) = some c)
    (x : StreamId) : Begun { s with cache := c } x (s.log x).length call := by
  dsimp only [SnapshotCache.step] at hs
  split at hs <;> cases hs
  refine ⟨le_rfl, ⟨s.cache.core.epoch, s.cache.top, .getting .read⟩, update_self .., fun y hy => ?_⟩
  exact (h.logged x y (mem_of_mem_take hy)).2

lemma Inv.result_spec (h : Inv s) (hb : Begun s x mark call) {lost}
    (hr : s.result call = some (.snapshot snap lost)) :
    snap ∈ s.cache.hist ∧ snap.born + 1 ≤ s.cache.top ∧
    ∀ y ∈ (s.log x).take mark, y.born ≤ snap.born := by
  obtain ⟨-, ⟨begun, floor, phase⟩, hk, hf⟩ := hb
  have hp : phase = .returned (.snapshot snap lost) := by cases phase <;> simp_all [State.result]
  subst hp
  obtain ⟨hm, hge, ht⟩ := h.cache.returned call begun floor snap lost hk
  refine ⟨hm, ht, fun y hy => ?_⟩
  have hle := (hf y hy).trans hge
  omega

lemma prefix_send (log : StreamId → List Snap) (x : StreamId) (snap : Snap) (i : StreamId) :
    log i <+: update log x (log x ++ [snap]) i := (forall_update_iff log fun i l => log i <+: l).2
    ⟨prefix_append _ _, fun _ _ => prefix_refl _⟩ i

lemma Inv.send (h : Inv s) (hmem : snap ∈ s.cache.hist) (ht : snap.born + 1 ≤ s.cache.top)
    (hls : ∀ y ∈ s.log x, y.born ≤ snap.born) : Inv (s.send x snap room) := by
  unfold State.send
  split
  · have he := Extends.refl s.cache
    have hl := prefix_send s.log x snap
    refine ⟨h.cache, fun i y hy => ?_, fun i => ?_, fun i b hb => ?_, fun p call marks hw i => ?_,
      fun p y cls marks hw => ?_⟩
    · rcases Runs.mem_update (fun z hz => by simpa using hz) hy with hy | ⟨-, rfl⟩
      · exact h.logged i y hy
      · exact ⟨hmem, ht⟩
    · refine (forall_update_iff s.log fun _ l => l.Pairwise _).2 ⟨?_, fun i _ => h.ordered i⟩ i
      simp only [pairwise_append, mem_singleton]
      exact ⟨h.ordered x, pairwise_singleton _ _, fun y hy z hz => hz ▸ hls y hy⟩
    · exact (h.heartbeat i b hb).mono he (hl i)
    · exact (h.calling p call marks hw i).mono he (hl i)
    · obtain ⟨hy, hyt, hm⟩ := h.sending p y cls marks hw
      grind
  · exact h

lemma Inv.endHeartbeat (h : Inv s) (x : StreamId) :
    Inv { s with heartbeats := update s.heartbeats x none } := by
  refine { h with heartbeat := fun i b hb => ?_ }
  rcases Runs.update_apply_eq_iff.1 hb with ⟨-, ⟨⟩⟩ | ⟨-, hb⟩
  exact h.heartbeat i b hb

lemma Inv.setInflight (h : Inv s) {inflight : Option WsPush}
    (hc : ∀ pend call marks, inflight = some ⟨pend, .calling call marks⟩ →
      ∀ x, Begun s x (marks x) call)
    (hs : ∀ pend snap cls marks, inflight = some ⟨pend, .sending snap cls marks⟩ →
        snap ∈ s.cache.hist ∧ snap.born + 1 ≤ s.cache.top ∧
        ∀ x, marks x ≤ (s.log x).length ∧ ∀ y ∈ (s.log x).take (marks x), y.born ≤ snap.born) :
    Inv { s with inflight } := { h with calling := hc, sending := hs }

lemma forall_mem_of_take_of_drop {p : Snap → Prop} (ht : ∀ y ∈ l.take n, p y)
    (hd : ∀ y ∈ l.drop n, p y) : ∀ y ∈ l, p y := by
  intro y hy
  rw [← take_append_drop n l] at hy
  rcases mem_append.1 hy with hy | hy
  · exact ht y hy
  · exact hd y hy

lemma inv_step (h : Inv s) (hroom : s.cache.core.Room) (hok : SendsInOrder s a)
    (hs : step s a = some s') : Inv s' := by
  cases a with
  | cache a =>
    obtain ⟨c, hc, rfl⟩ := map_eq_some_iff.1 hs
    exact h.extend hroom hc
  | heartbeat x v call =>
    dsimp only [step] at hs
    split at hs
    · obtain ⟨c, hc, rfl⟩ := map_eq_some_iff.1 hs
      have hext := h.extend hroom hc
      refine { hext with heartbeat := fun i b hb => ?_ }
      rcases Runs.update_apply_eq_iff.1 hb with ⟨rfl, ⟨⟩⟩ | ⟨-, hb⟩
      · exact h.begun hc i
      · exact hext.heartbeat i b hb
    · cases hs
  | deliver x room =>
    obtain ⟨b, hb, hs⟩ := bind_eq_some_iff.1 hs
    obtain ⟨o, ho, rfl⟩ := map_eq_some_iff.1 hs
    have he := h.endHeartbeat x
    cases o with
    | failed => exact he
    | snapshot snap lost =>
      obtain ⟨hmem, ht, hbf⟩ := h.result_spec (h.heartbeat x b hb) ho
      have hsn : Latest s x b.mark snap := hok b hb _ ho
      have hl := forall_mem_of_take_of_drop hbf hsn
      dsimp only
      split
      · exact he
      · exact he.send hmem ht hl
  | pushWorkspace =>
    dsimp only [step] at hs
    split at hs
    · next w hw =>
      cases hs
      obtain ⟨pend, phase⟩ := w
      refine h.setInflight (fun p call marks heq => ?_) (fun p snap cls marks heq => ?_)
      · cases heq
        exact h.calling _ call marks hw
      · cases heq
        exact h.sending _ snap cls marks hw
    · cases hs
      exact h.setInflight (by simp) (by simp)
  | pushOnce call =>
    dsimp only [step] at hs
    split at hs
    · obtain ⟨c, hc, rfl⟩ := map_eq_some_iff.1 hs
      refine (h.extend hroom hc).setInflight (fun p call' marks heq => ?_) (by simp)
      cases heq
      exact h.begun hc
    · cases hs
  | clientsForWorkspace cls =>
    dsimp only [step] at hs
    split at hs
    · next pend call marks hw =>
      obtain ⟨o, ho, rfl⟩ := map_eq_some_iff.1 hs
      have hcl := h.calling pend call marks hw
      cases o with
      | failed => exact h.setInflight (by simp) (by simp)
      | snapshot snap lost =>
        refine h.setInflight (by simp) (fun p y cs ms heq => ?_)
        cases heq
        have hsp := fun x => h.result_spec (hcl x) ho
        exact ⟨(hsp 0).1, (hsp 0).2.1, fun x => ⟨(hcl x).1, (hsp x).2.2⟩⟩
    · cases hs
  | send room =>
    dsimp only [step] at hs
    split at hs <;> cases hs
    next pend snap x cls marks hw =>
      obtain ⟨hmem, ht, hm⟩ := h.sending pend snap (x :: cls) marks hw
      have hsn : Latest s x (marks x) snap := hok _ hw
      have hl := forall_mem_of_take_of_drop (hm x).2 hsn
      have hn : Inv { s with inflight := some ⟨pend, .sending snap cls marks⟩ } := by
        refine h.setInflight (by simp) (fun p y cs ms heq => ?_)
        cases heq
        exact ⟨hmem, ht, hm⟩
      exact hn.send hmem ht hl
  | drain =>
    have hd : ∀ pend : Bool,
        Inv { s with inflight := if pend then some ⟨false, .started⟩ else none } := by
      intro pend
      cases pend with
      | false | true => exact h.setInflight (by simp) (by simp)
    dsimp only [step] at hs
    split at hs
    · cases hs; exact hd _
    · cases hs; exact hd _
    · cases hs

lemma count_step (hs : step s a = some s') : s'.cache.core.count ≤ s.cache.core.count + 1 := by
  cases a with
  | cache a =>
    obtain ⟨c, hc, rfl⟩ := map_eq_some_iff.1 hs
    exact (SnapshotCache.extends_step hc).count
  | heartbeat x v call =>
    obtain ⟨-, c, hc, rfl⟩ := Runs.ite_map_eq_some.1 hs
    exact (SnapshotCache.extends_step hc).count
  | pushOnce call =>
    dsimp only [step] at hs
    split at hs
    · obtain ⟨c, hc, rfl⟩ := map_eq_some_iff.1 hs
      exact (SnapshotCache.extends_step hc).count
    · cases hs
  | deliver | pushWorkspace | clientsForWorkspace | send | drain =>
    have hsame : s'.cache = s.cache := by
      grind [step, State.send, Option.bind_eq_some_iff, map_eq_some_iff]
    rw [hsame]
    exact Nat.le_succ _

/-- **No regression**, for runs of fewer than `2 ^ 64` events that send in order. -/
theorem nondecreasing_of_sendsInOrder (content : Snap → Acl.AclSnapshot) (acts : List Action)
    (s : State) (hlen : acts.length < UInt64.size)
    (hmeets : Runs.Meets step SendsInOrder init acts)
    (hexec : Runs.exec step init acts = some s) : Nondecreasing s ∧ NotRegranted content s := by
  have hroom : Runs.Meets step (fun s _ => s.cache.core.Room) init acts := by
    refine Runs.meets_of_count (f := fun s : State => s.cache.core.count)
      (fun _ _ _ hs => count_step hs) ?_
    have hc : init.cache.core.count = 0 := rfl
    omega
  have hi : Inv s := Runs.exec_inv_of_meets (fun _ _ _ h hok hs => inv_step h hok.2 hok.1 hs)
    inv_init (hmeets.and hroom) hexec
  have hsr : Nondecreasing s := fun x =>
    (hi.ordered x).imp_of_mem fun hy hz hle =>
      hi.cache.version_le (hi.logged x _ hy).1 (hi.logged x _ hz).1 hle
  exact ⟨hsr, notRegranted_of_nondecreasing hsr⟩

instance (s : State) (x : StreamId) (mark : ℕ) : DecidablePred (Outcome.Latest s x mark)
  | .snapshot snap _ => inferInstanceAs (Decidable (Latest s x mark snap))
  | .failed => .isTrue trivial

instance (s : State) : DecidablePred (WsPush.Latest s)
  | ⟨_, .sending snap (x :: _) marks⟩ => inferInstanceAs (Decidable (Latest s x (marks x) snap))
  | ⟨_, .sending _ [] _⟩ | ⟨_, .started⟩ | ⟨_, .calling _ _⟩ | ⟨_, .failed⟩ => .isTrue trivial

instance (s : State) : DecidablePred (SendsInOrder s)
  | .deliver x _ => inferInstanceAs (Decidable (∀ h ∈ s.heartbeats x, ∀ o ∈ _, _))
  | .send _ => inferInstanceAs (Decidable (∀ w ∈ s.inflight, w.Latest s))
  | .cache _ | .heartbeat _ _ _ | .pushWorkspace | .pushOnce _ | .clientsForWorkspace _ | .drain =>
    .isTrue trivial

def compileFor (call : CallId) : List Action :=
  .cache (.get call 0) :: .cache (.enter call) ::
    (SnapshotCache.oneCompile.map Action.cache ++ [Action.cache .release])

def mutateAndPush (call : CallId) : List Action :=
  [Action.cache (.commit 0), .cache (.incr 0), .cache (.inval 0), .pushWorkspace, .pushOnce call] ++
    compileFor call ++ [Action.clientsForWorkspace [0], .send true, .drain]

/-- A snapshot that lets a client reach a resource until the mutation is seen. -/
def revokedBy (x : Snap) : Acl.AclSnapshot :=
  ⟨x.version, "ws", 0,
    [⟨"res-1", "10.0.0.1", 443, "tcp", if x.Reflects 0 then [] else ["client"], "", "",
      "", "", ""⟩],
    "", "", [], []⟩

/-- The heartbeat path sends before the mutation. -/
def heartbeatThenPush : List Action :=
  Action.heartbeat 0 0 0 :: compileFor 0 ++ [Action.deliver 0 true] ++ mutateAndPush 1

theorem nondecreasing_heartbeat_then_push :
    ∃ s, Runs.exec step init heartbeatThenPush = some s ∧
      (s.log 0).map (·.version) = [0, 1] ∧ Nondecreasing s ∧ NotRegranted revokedBy s := by
  obtain ⟨s, he, hl⟩ : ∃ s, Runs.exec step init heartbeatThenPush = some s ∧
      (s.log 0).map (·.version) = [0, 1] := by decide +kernel
  have hm : Runs.Meets step SendsInOrder init heartbeatThenPush := by decide +kernel
  exact ⟨s, he, hl, nondecreasing_of_sendsInOrder _ _ s (by decide) hm he⟩

/-- The heartbeat path has its snapshot when the mutation is made and pushed, and sends it
after. -/
def pushOvertakesHeartbeat : List Action :=
  Action.heartbeat 0 0 0 :: compileFor 0 ++ mutateAndPush 1 ++ [Action.deliver 0 true]

theorem push_overtakes_heartbeat :
    ∃ s, Runs.exec step init pushOvertakesHeartbeat = some s ∧
      s.log 0 = [⟨⟨List.replicate 8 [0], 1⟩, 0, 1, 1⟩, ⟨⟨List.replicate 8 [], 0⟩, 0, 0, 0⟩] ∧
      (held revokedBy ((s.log 0).take 1)).isAllowed "res-1" "client" = false ∧
      (held revokedBy (s.log 0)).isAllowed "res-1" "client" = true ∧
      ¬ Nondecreasing s ∧ ¬ NotRegranted revokedBy s := by
  obtain ⟨s, he, hl⟩ : ∃ s, Runs.exec step init pushOvertakesHeartbeat = some s ∧
      s.log 0 = [⟨⟨List.replicate 8 [0], 1⟩, 0, 1, 1⟩, ⟨⟨List.replicate 8 [], 0⟩, 0, 0, 0⟩] := by
    decide +kernel
  refine ⟨s, he, hl, by rw [hl]; decide, by rw [hl]; decide, fun h => ?_, fun h => ?_⟩
  · have hs := h 0
    rw [hl] at hs
    revert hs
    decide
  · obtain ⟨z, hls, -, hle⟩ := h 0 (s.log 0) prefix_rfl ⟨⟨List.replicate 8 [0], 1⟩, 0, 1, 1⟩
      (by rw [hl]; decide) "res-1" "client" (by decide) (by rw [hl]; decide)
    rw [hl] at hls
    obtain rfl : (⟨⟨List.replicate 8 [], 0⟩, 0, 0, 0⟩ : Snap) = z := some.inj hls
    revert hle
    decide

end Zecurity.AclPush
