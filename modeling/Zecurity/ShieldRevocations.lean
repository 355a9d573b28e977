import Mathlib.Data.List.Sort
import Zecurity.ConnectorRegistry

/-!
The propagation of shield revocations to the Control streams
(`controller/internal/connector/shield_revocations.go`, `controller/internal/shield/revocation.go`).

A revocation writes a tombstone and an outbox row in one transaction. The dispatcher reads the
outbox and, for one workspace after another, reads the tombstones, looks up the connected
clients, queues the list on each of them and deletes the rows that it read. A stream reads the
tombstones itself when it opens, after it has been registered. Each database call, lookup and send
is one step, and they interleave freely; a database call may fail, and a mailbox may be full.
-/

namespace Zecurity.ShieldRevocations

open ConnectorRow ConnectorRegistry List

abbrev TenantId := String
abbrev ShieldId := String

structure OutboxRow where
  id : ℕ
  tenantId : TenantId
  shieldId : ShieldId
  deriving DecidableEq

/-- Where the handler of an activated stream stands. -/
inductive Phase
  /-- registered; its opening sequence is still to read the tombstones -/
  | activated
  | read (revoked : List ShieldId)
  | opened
  /-- the list could not be read or queued: the handler returns -/
  | failed
  | retired
  deriving DecidableEq

structure Stream where
  connectorId : ConnectorId
  tenantId : TenantId
  phase : Phase
  lists : List (List ShieldId)

/-- The ids that a pass has read for one workspace. -/
structure Work where
  tenantId : TenantId
  ids : List ℕ

/-- Where `ProcessOnce` stands. -/
inductive Dispatcher
  | idle
  | delivering (todo : List Work)
  | listed (w : Work) (todo : List Work) (revoked : List ShieldId)
  | pushing (w : Work) (todo : List Work) (revoked : List ShieldId) (clients : List StreamId)
      (failed : Bool)
  | delivered (w : Work) (todo : List Work)

structure State where
  rows : ConnectorId → Db
  registry : Registry
  streams : StreamId → Option Stream
  /-- `shield_revocations` -/
  revocations : List (ShieldId × TenantId)
  outbox : List OutboxRow
  issued : List ℕ
  dispatcher : Dispatcher
  /-- the stream of each connector that was activated last (ghost) -/
  newest : ConnectorId → Option StreamId

def init (rows : ConnectorId → Db) : State :=
  ⟨rows, .new, fun _ => none, [], [], [], .idle, fun _ => none⟩

def State.setStream (s : State) (x : StreamId) (t : Stream) : State :=
  { s with streams := Function.update s.streams x (some t) }

def revokedShieldIds (revocations : List (ShieldId × TenantId)) (tenantId : TenantId) :
    List ShieldId :=
  ((revocations.filter fun r => r.2 = tenantId).map Prod.fst).insertionSort (· ≤ ·)

/-- `ClientsForWorkspace`, in some order. -/
def clientsForWorkspace (s : State) (tenantId : TenantId) : List StreamId :=
  (s.registry.clients.entries.map (·.2)).filter fun x =>
    (s.streams x).any fun t => t.tenantId == tenantId

/-- One row of the loop that groups the ids by workspace. -/
def addPending (work : List Work) (row : OutboxRow) : List Work :=
  if work.any fun w => w.tenantId == row.tenantId then
    work.map fun w => if w.tenantId = row.tenantId then { w with ids := w.ids ++ [row.id] } else w
  else work ++ [⟨row.tenantId, [row.id]⟩]

/-- The first query of `ProcessOnce` and the loop over its rows. -/
def readOutbox (outbox : List OutboxRow) : List Work :=
  ((outbox.insertionSort fun a b => a.id ≤ b.id).take 1000).foldl addPending []

inductive Action
  | revoke (shieldId : ShieldId) (tenantId : TenantId) (id : ℕ)
  | activate (x : StreamId) (connectorId : ConnectorId) (tenantId : TenantId) (call lookup : Call)
  | readList (x : StreamId) (ok : Bool)
  | sendList (x : StreamId) (room : Bool)
  | retire (x : StreamId) (call : Call)
  | readOutbox (ok : Bool)
  | listRevoked (ok : Bool)
  | lookUp (clients : List StreamId)
  | push (room : Bool)
  | endPush
  | delete (call : Call)

def step (s : State) : Action → Option State
  | .revoke shieldId tenantId id =>
    -- the status guard and the tombstone let a shield be revoked once
    if shieldId ∈ s.revocations.map Prod.fst ∨ id ∈ s.issued then none
    else
      some { s with
        revocations := (shieldId, tenantId) :: s.revocations
        outbox := ⟨id, tenantId, shieldId⟩ :: s.outbox
        issued := id :: s.issued }
  | .activate x connectorId tenantId call lookup =>
    match s.streams x with
    | some _ => none
    | none =>
      let r := activateStream (s.rows connectorId) s.registry connectorId x call lookup
      let s' := { s with
        rows := Function.update s.rows connectorId r.1
        registry := r.2.1 }
      some (if r.2.2.isOk then
        { s'.setStream x ⟨connectorId, tenantId, .activated, []⟩ with
          newest := Function.update s.newest connectorId (some x) }
      else s')
  | .readList x ok =>
    match s.streams x with
    | some ⟨connectorId, tenantId, .activated, lists⟩ =>
      some (s.setStream x ⟨connectorId, tenantId,
        if ok then .read (revokedShieldIds s.revocations tenantId) else .failed, lists⟩)
    | _ => none
  | .sendList x room =>
    match s.streams x with
    | some ⟨connectorId, tenantId, .read revoked, lists⟩ =>
      some (s.setStream x (if room then ⟨connectorId, tenantId, .opened, lists ++ [revoked]⟩
        else ⟨connectorId, tenantId, .failed, lists⟩))
    | _ => none
  | .retire x call =>
    match s.streams x with
    | some t =>
      if t.phase = .opened ∨ t.phase = .failed then
        let r := retireStream (s.rows t.connectorId) s.registry t.connectorId x call
        some { s.setStream x { t with phase := .retired } with
          rows := Function.update s.rows t.connectorId r.1
          registry := r.2.1 }
      else none
    | none => none
  | .readOutbox ok =>
    match s.dispatcher with
    | .idle =>
      some { s with dispatcher := if ok then .delivering (readOutbox s.outbox) else .idle }
    | _ => none
  | .listRevoked ok =>
    match s.dispatcher with
    | .delivering [] => some { s with dispatcher := .idle }
    | .delivering (w :: todo) =>
      some { s with
        dispatcher := if ok then .listed w todo (revokedShieldIds s.revocations w.tenantId)
          else .delivering todo }
    | _ => none
  | .lookUp clients =>
    match s.dispatcher with
    | .listed w todo revoked =>
      if clients.Perm (clientsForWorkspace s w.tenantId) then
        some { s with dispatcher := .pushing w todo revoked clients false }
      else none
    | _ => none
  | .push room =>
    match s.dispatcher with
    | .pushing w todo revoked (x :: clients) failed =>
      match s.streams x with
      | some t =>
        some (if room then
          { s.setStream x { t with lists := t.lists ++ [revoked] } with
            dispatcher := .pushing w todo revoked clients failed }
        else { s with dispatcher := .pushing w todo revoked clients true })
      | none => none
    | _ => none
  | .endPush =>
    match s.dispatcher with
    | .pushing w todo _ [] failed =>
      some { s with dispatcher := if failed then .delivering todo else .delivered w todo }
    | _ => none
  | .delete call =>
    match s.dispatcher with
    | .delivered w todo =>
      some { s with
        outbox := match call with
          | .failed false => s.outbox
          | _ => s.outbox.filter fun row => row.id ∉ w.ids
        dispatcher := .delivering todo }
    | _ => none

/-- The stream was sent a list with the shield, or has yet to finish its opening sequence, whose
list has the shield or is yet to be read. -/
def Stream.Reached (t : Stream) (shieldId : ShieldId) : Prop :=
  (∃ l ∈ t.lists, shieldId ∈ l) ∨ t.phase = .activated ∨
    ∃ revoked, t.phase = .read revoked ∧ shieldId ∈ revoked

/-- Where the step deletes the row of a shield, the shield has reached every activated stream of
its workspace that is not retired. -/
def DeletesReached (s : State) (_ : Action) (s' : State) : Prop :=
  ∀ row ∈ s.outbox, row ∉ s'.outbox → ∀ x t, s.streams x = some t → t.tenantId = row.tenantId →
    t.phase ≠ .retired → t.Reached row.shieldId

/-- The workspace for which the dispatcher is between the look-up and the deletion. -/
def Dispatcher.lookedUp : Dispatcher → Option TenantId
  | .pushing w .. | .delivered w _ => some w.tenantId
  | _ => none

/-- The condition on a step. At the lookup every unretired stream of the workspace that has begun to
read its list is the one of its connector that was activated last: none that was superseded is left.
Between the lookup and the deletion no opening sequence of the workspace fails. -/
def NoneSuperseded (s : State) : Action → Prop
  | .lookUp _ => ∀ w todo revoked, s.dispatcher = .listed w todo revoked →
      ∀ x t, s.streams x = some t → t.tenantId = w.tenantId → t.phase ≠ .retired →
        t.phase ≠ .activated → s.newest t.connectorId = some x
  | .readList x false | .sendList x false =>
    ∀ t, s.streams x = some t → s.dispatcher.lookedUp ≠ some t.tenantId
  | _ => True

/-! ### The invariant -/

/-- The shields of the work's rows have reached every unretired stream of the workspace, but for the
clients still to be pushed to. -/
def Covered (s : State) (w : Work) (clients : List StreamId) : Prop :=
  ∀ x t, s.streams x = some t → t.tenantId = w.tenantId → t.phase ≠ .retired →
    x ∈ clients ∨ ∀ row ∈ s.outbox, row.id ∈ w.ids → t.Reached row.shieldId

/-- The ids of the work were handed out, and its rows are of its workspace. -/
def WorkOk (s : State) (w : Work) : Prop :=
  (∀ i ∈ w.ids, i ∈ s.issued) ∧ ∀ row ∈ s.outbox, row.id ∈ w.ids → row.tenantId = w.tenantId

def Lists (s : State) (w : Work) (revoked : List ShieldId) : Prop :=
  ∀ row ∈ s.outbox, row.id ∈ w.ids → row.shieldId ∈ revoked

def DispatcherOk (s : State) : Dispatcher → Prop
  | .idle => True
  | .delivering todo => ∀ w ∈ todo, WorkOk s w
  | .listed w todo revoked => (∀ v ∈ w :: todo, WorkOk s v) ∧ Lists s w revoked
  | .pushing w todo revoked clients failed => (∀ v ∈ w :: todo, WorkOk s v) ∧ Lists s w revoked ∧
      (failed = false → Covered s w clients)
  | .delivered w todo => (∀ v ∈ w :: todo, WorkOk s v) ∧ Covered s w []

structure Inv (s : State) : Prop where
  ids : (s.outbox.map OutboxRow.id).Nodup
  issued : ∀ row ∈ s.outbox, row.id ∈ s.issued
  tombstones : ∀ row ∈ s.outbox, (row.shieldId, row.tenantId) ∈ s.revocations
  dispatcher : DispatcherOk s s.dispatcher
  /-- the newest stream of a connector is registered until it is retired -/
  newest : ∀ cid x, s.newest cid = some x → ∃ t, s.streams x = some t ∧ t.connectorId = cid ∧
    (t.phase ≠ .retired → s.registry.get cid = some x)

variable {tenantId : TenantId} {w : Work} {x : StreamId} {t : Stream} {call : Call} {ok : Bool}
  {a : Action}

lemma inv_init (rows : ConnectorId → Db) : Inv (init rows) :=
  ⟨nodup_nil, by simp [init], by simp [init], trivial, nofun⟩

variable {s s' : State} {d : Dispatcher} {row : OutboxRow} {sid : ShieldId}

lemma mem_revokedShieldIds {revocations} :
    sid ∈ revokedShieldIds revocations tenantId ↔ (sid, tenantId) ∈ revocations := by
  simp only [revokedShieldIds, mem_insertionSort, mem_map, mem_filter,
    decide_eq_true_eq, Prod.exists, exists_and_right, exists_eq_right]

/-- What the dispatcher knows carries over to a state whose outbox has, of the ids handed out
before, only rows that were there, and whose streams are covered alike. -/
lemma DispatcherOk.mono (h : DispatcherOk s d) (hiss : ∀ i ∈ s.issued, i ∈ s'.issued)
    (ho : ∀ row ∈ s'.outbox, row.id ∈ s.issued → row ∈ s.outbox)
    (hc : ∀ w cls, d.lookedUp = some w.tenantId → WorkOk s w → Covered s w cls → Covered s' w cls) :
    DispatcherOk s' d := by
  have hwr : ∀ w, WorkOk s w → WorkOk s' w := fun w hw =>
    ⟨fun i hi => hiss i (hw.1 i hi), fun row hr hid =>
      hw.2 row (ho row hr (hw.1 _ hid)) hid⟩
  have hls : ∀ w revoked, WorkOk s w → Lists s w revoked → Lists s' w revoked :=
    fun w revoked hw hl row hr hid => hl row (ho row hr (hw.1 _ hid)) hid
  cases d with
  | idle => trivial
  | delivering todo => exact fun w hw => hwr w (h w hw)
  | listed w todo revoked =>
    exact ⟨fun v hv => hwr v (h.1 v hv), hls w revoked (h.1 w mem_cons_self) h.2⟩
  | pushing w todo revoked cls failed =>
    have hw := h.1 w mem_cons_self
    exact ⟨fun v hv => hwr v (h.1 v hv), hls w revoked hw h.2.1,
      fun hf => hc w cls rfl hw (h.2.2 hf)⟩
  | delivered w todo => exact ⟨fun v hv => hwr v (h.1 v hv), hc w [] rfl (h.1 w mem_cons_self) h.2⟩

lemma Covered.setStream {clients : List StreamId} (h : Covered s w clients)
    (hx : t.tenantId = w.tenantId → t.phase ≠ .retired →
      x ∈ clients ∨ ∀ row ∈ s.outbox, row.id ∈ w.ids → t.Reached row.shieldId) :
    Covered (s.setStream x t) w clients := by
  intro i u hu ht hp
  rcases Runs.update_apply_eq_iff.1 hu with ⟨rfl, ⟨⟩⟩ | ⟨-, hu⟩
  · exact hx ht hp
  · exact h i u hu ht hp

section

variable (h : Inv s)
include h

lemma Inv.moveStream {t' : Stream} (hx : s.streams x = some t)
    (hcid : t'.connectorId = t.connectorId) (ht : t'.tenantId = t.tenantId)
    (hph : t'.phase ≠ .retired → t.phase ≠ .retired)
    (hs : s.dispatcher.lookedUp = some t.tenantId → t'.phase ≠ .retired →
      ∀ sid, (sid, t.tenantId) ∈ s.revocations → t.Reached sid → t'.Reached sid) :
    Inv (s.setStream x t') := by
  refine ⟨h.ids, h.issued, h.tombstones, h.dispatcher.mono (fun _ hi => hi) (fun _ hr _ => hr)
    fun w cls hd hw hc => hc.setStream fun hw' hp => ?_, fun cid y hy => ?_⟩
  · rw [ht] at hw'
    refine (hc x t hx hw' (hph hp)).imp_right fun ha row hr hid => ?_
    refine hs (hw' ▸ hd) hp row.shieldId ?_ (ha row hr hid)
    rw [hw', ← hw.2 row hr hid]
    exact h.tombstones row hr
  · obtain ⟨u, hu, hc, hg⟩ := h.newest cid y hy
    by_cases hxy : y = x
    · subst hxy
      cases hx.symm.trans hu
      exact ⟨t', Function.update_self .., hcid.trans hc, fun hp => hg (hph hp)⟩
    · exact ⟨u, (Function.update_of_ne hxy ..).trans hu, hc, hg⟩

lemma Inv.withDispatcher (hd : DispatcherOk s d) : Inv { s with dispatcher := d } :=
  ⟨h.ids, h.issued, h.tombstones, hd.mono (fun _ hi => hi) (fun _ hr _ => hr)
    fun _ _ _ _ hc => hc, h.newest⟩

lemma inv_activate {cid lookup} (hs : step s (.activate x cid tenantId call lookup) = some s') :
    Inv s' := by
  dsimp only [step] at hs
  split at hs
  · cases hs
  next hx =>
  cases hs
  have hreg := activateStream_registry (s.rows cid) s.registry cid x call lookup
  split
  · next hok =>
    rw [if_pos hok] at hreg
    refine ⟨h.ids, h.issued, h.tombstones, h.dispatcher.mono (fun _ hi => hi) (fun _ hr _ => hr)
      fun w cls _ _ hc => ?_, fun c y hy => ?_⟩
    · exact hc.setStream fun _ _ => .inr fun _ _ _ => .inr (.inl rfl)
    · rcases Runs.update_apply_eq_iff.1 hy with ⟨rfl, ⟨⟩⟩ | ⟨hne, hy⟩
      · refine ⟨_, Function.update_self .., rfl, fun _ => ?_⟩
        exact (congrArg (Registry.get · c) hreg).trans (by simp)
      · obtain ⟨u, hu, hc, hg⟩ := h.newest c y hy
        have hyx : y ≠ x := by
          rintro rfl
          cases hx.symm.trans hu
        refine ⟨u, (Function.update_of_ne hyx ..).trans hu, hc, fun hp => ?_⟩
        refine (congrArg (Registry.get · c) hreg).trans ((Registry.get_trackLive ..).trans ?_)
        exact (AList.lookup_insert_ne hne).trans (hg hp)
  · next hok =>
    rw [if_neg hok] at hreg
    refine ⟨h.ids, h.issued, h.tombstones, h.dispatcher.mono (fun _ hi => hi) (fun _ hr _ => hr)
      fun _ _ _ _ hc => hc, fun c y hy => ?_⟩
    obtain ⟨u, hu, hc, hg⟩ := h.newest c y hy
    exact ⟨u, hu, hc, fun hp => (congrArg (Registry.get · c) hreg).trans (hg hp)⟩

lemma inv_retire (hs : step s (.retire x call) = some s') : Inv s' := by
  dsimp only [step] at hs
  split at hs
  · next t hx =>
    split at hs <;> cases hs
    have hm : Inv (s.setStream x { t with phase := .retired }) :=
      h.moveStream hx rfl rfl (fun hne => absurd rfl hne) fun _ hne => absurd rfl hne
    refine ⟨hm.ids, hm.issued, hm.tombstones, hm.dispatcher.mono (fun _ hi => hi)
      (fun _ hr _ => hr) fun _ _ _ _ hc => hc, fun c y hy => ?_⟩
    obtain ⟨u, hu, hc, hg⟩ := hm.newest c y hy
    refine ⟨u, hu, hc, fun hp => ?_⟩
    have hyx : y ≠ x := by
      rintro rfl
      cases (Function.update_self ..).symm.trans hu
      exact hp rfl
    dsimp only
    rw [retireStream_registry]
    exact Registry.get_removeIfCurrent_of_ne (r := s.registry.untrackLive ..) (hg hp) _ hyx
  · cases hs

lemma inv_revoke {id} (hs : step s (.revoke sid tenantId id) = some s') : Inv s' := by
  dsimp only [step] at hs
  split at hs
  · cases hs
  next hn =>
  cases hs
  obtain ⟨-, hid⟩ := not_or.1 hn
  have hold : ∀ row ∈ (⟨id, tenantId, sid⟩ :: s.outbox : List OutboxRow),
      row.id ∈ s.issued → row ∈ s.outbox := by
    intro row hrow hm
    rcases mem_cons.1 hrow with rfl | hrow
    · exact absurd hm hid
    · exact hrow
  refine ⟨?_, fun row hrow => ?_, fun row hrow => ?_, h.dispatcher.mono
    (fun i hi => mem_cons_of_mem id hi) hold fun w cls _ hw hc x t ht htn hp => ?_, h.newest⟩
  · refine nodup_cons.2 ⟨fun hm => ?_, h.ids⟩
    obtain ⟨row, hrow, hr⟩ := mem_map.1 hm
    have hiss := h.issued row hrow
    rw [hr] at hiss
    exact hid hiss
  · rcases mem_cons.1 hrow with rfl | hrow
    · exact mem_cons_self
    · exact mem_cons_of_mem id (h.issued row hrow)
  · rcases mem_cons.1 hrow with rfl | hrow
    · exact mem_cons_self
    · exact mem_cons_of_mem _ (h.tombstones row hrow)
  · exact (hc x t ht htn hp).imp_right fun ha row hrow hm =>
      ha row (hold row hrow (hw.1 _ hm)) hm

end

/-! ### The dispatcher -/

lemma mem_addPending {P : ℕ → TenantId → Prop} {work}
    (hwr : ∀ w ∈ work, ∀ i ∈ w.ids, P i w.tenantId) (hr : P row.id row.tenantId) :
    ∀ w ∈ addPending work row, ∀ i ∈ w.ids, P i w.tenantId := by
  intro w hw i hi
  unfold addPending at hw
  grind

lemma mem_readOutbox {ob} (hw : w ∈ readOutbox ob) {i} (hi : i ∈ w.ids) :
    ∃ row ∈ ob, row.id = i ∧ row.tenantId = w.tenantId := by
  have hf : ∀ (rows : List OutboxRow) (work : List Work), (∀ row ∈ rows, row ∈ ob) →
      (∀ w ∈ work, ∀ i ∈ w.ids, ∃ row ∈ ob, row.id = i ∧ row.tenantId = w.tenantId) →
      ∀ w ∈ rows.foldl addPending work, ∀ i ∈ w.ids,
        ∃ row ∈ ob, row.id = i ∧ row.tenantId = w.tenantId := by
    intro rows
    induction rows with
    | nil => exact fun work _ hwr => hwr
    | cons row rows ih =>
      intro work hrw hwr
      refine ih _ (fun r hr => hrw r (mem_cons_of_mem row hr)) ?_
      exact mem_addPending (P := fun i tn => ∃ r ∈ ob, r.id = i ∧ r.tenantId = tn)
        hwr ⟨row, hrw row mem_cons_self, rfl, rfl⟩
  refine hf _ [] (fun row hrow => ?_) (by simp) w hw i hi
  exact (mem_insertionSort _).1 (mem_of_mem_take hrow)

lemma Inv.workOk_readOutbox (h : Inv s) (hw : w ∈ readOutbox s.outbox) : WorkOk s w := by
  constructor
  · intro i hi
    obtain ⟨row, hr, rfl, -⟩ := mem_readOutbox hw hi
    exact h.issued row hr
  · intro row hr hid
    obtain ⟨row', hr', hs, ht⟩ := mem_readOutbox hw hid
    rw [← inj_on_of_nodup_map h.ids hr' hr hs]
    exact ht

section

variable (h : Inv s)
include h

lemma inv_push {room} (hs : step s (.push room) = some s') : Inv s' := by
  dsimp only [step] at hs
  split at hs
  · next w todo rev x cls failed hd =>
    have hp := h.dispatcher
    rw [hd] at hp
    obtain ⟨hw, hls, hc⟩ := hp
    split at hs <;> cases hs
    next t hx =>
      cases room with
      | false => exact h.withDispatcher ⟨hw, hls, by simp⟩
      | true =>
        have hk : ∀ shieldId, t.Reached shieldId →
            { t with lists := t.lists ++ [rev] : Stream }.Reached shieldId := by
          intro shieldId hst
          refine hst.imp_left ?_
          rintro ⟨l, hl, hmem⟩
          exact ⟨l, mem_append_left _ hl, hmem⟩
        have hm : Inv (s.setStream x { t with lists := t.lists ++ [rev] }) :=
          h.moveStream hx rfl rfl id fun _ _ shieldId _ => hk shieldId
        refine hm.withDispatcher ⟨hw, hls, fun hf => ?_⟩
        -- the client that got the list is done with; the others are as before
        have hrs : Covered (s.setStream x { t with lists := t.lists ++ [rev] }) w
            (x :: cls) := (hc hf).setStream fun _ _ => .inl mem_cons_self
        intro i u hu ht hph
        rcases hrs i u hu ht hph with hmem | ha
        · rcases mem_cons.1 hmem with rfl | hmem
          · obtain rfl : { t with lists := t.lists ++ [rev] } = u := by
              simpa [State.setStream] using hu
            refine .inr fun row hrow hid => .inl ⟨rev, ?_, hls row hrow hid⟩
            exact mem_append_right _ (mem_singleton_self _)
          · exact .inl hmem
        · exact .inr ha
  · cases hs

lemma inv_delete (hs : step s (.delete call) = some s') : Inv s' := by
  dsimp only [step] at hs
  split at hs
  · next w todo hd =>
    have hdl := h.dispatcher
    rw [hd] at hdl
    have ht : ∀ v ∈ todo, WorkOk s v := fun v hv => hdl.1 v (mem_cons_of_mem w hv)
    have hf : ∀ outbox : List OutboxRow, outbox.Sublist s.outbox →
        Inv { s with outbox, dispatcher := .delivering todo } := fun outbox hsub =>
      ⟨(hsub.map _).nodup h.ids, fun row hr => h.issued row (hsub.subset hr),
        fun row hr => h.tombstones row (hsub.subset hr),
        fun v hv => ⟨(ht v hv).1, fun row hr => (ht v hv).2 row (hsub.subset hr)⟩, h.newest⟩
    cases hs
    rcases call with _ | _ | _
    · exact hf _ filter_sublist
    · exact hf _ (List.Sublist.refl _)
    · exact hf _ filter_sublist
  · cases hs

/-- The lookup finds every stream that does not read its list anew. -/
lemma inv_lookUp {cls} (hok : NoneSuperseded s (.lookUp cls))
    (hs : step s (.lookUp cls) = some s') : Inv s' := by
  dsimp only [step] at hs
  split at hs
  · next w todo rev hd =>
    split at hs <;> cases hs
    next hperm =>
      have hls := h.dispatcher
      rw [hd] at hls
      refine h.withDispatcher ⟨hls.1, hls.2, fun _ x t hx ht hp => ?_⟩
      by_cases hact : t.phase = .activated
      · exact .inr fun row hrow hid => .inr (.inl hact)
      · obtain ⟨u, hu, -, hg⟩ := h.newest _ x (hok w todo rev hd x t hx ht hp hact)
        cases hx.symm.trans hu
        have hm := AList.mem_lookup_iff.1 (hg hp)
        refine .inl (hperm.symm.subset (mem_filter.2 ⟨mem_map.2 ⟨_, hm, rfl⟩, ?_⟩))
        simp [hx, ht]
  · cases hs

lemma inv_step (hok : NoneSuperseded s a) (hs : step s a = some s') : Inv s' := by
  cases a with
  | revoke sid tenantId id => exact inv_revoke h hs
  | activate x cid tenantId call lookup => exact inv_activate h hs
  | readList x ok =>
    dsimp only [step] at hs
    split at hs <;> cases hs
    next cid tenantId lists hx =>
      refine h.moveStream hx rfl rfl (by simp) fun hd _ sid hr hst => ?_
      cases ok with
      | false => exact absurd hd (hok _ hx)
      | true => exact .inr (.inr ⟨_, rfl, mem_revokedShieldIds.2 hr⟩)
  | sendList x room =>
    dsimp only [step] at hs
    split at hs <;> cases hs
    next cid tenantId rev lists hx =>
      cases room with
      | false => exact h.moveStream hx rfl rfl (by simp) fun hd => absurd hd (hok _ hx)
      | true =>
        refine h.moveStream hx rfl rfl (by simp) fun _ _ sid _ hst => .inl ?_
        rcases hst with ⟨l, hl, hmem⟩ | hp | ⟨l, hl, hmem⟩
        · exact ⟨l, mem_append_left _ hl, hmem⟩
        · cases hp
        · cases hl
          exact ⟨rev, mem_append_right _ (mem_singleton_self _), hmem⟩
  | retire x call => exact inv_retire h hs
  | readOutbox ok =>
    dsimp only [step] at hs
    split at hs <;> cases hs
    cases ok with
    | false => exact h.withDispatcher trivial
    | true => exact h.withDispatcher fun w hw => h.workOk_readOutbox hw
  | listRevoked ok =>
    dsimp only [step] at hs
    split at hs
    · cases hs
      exact h.withDispatcher trivial
    · next w todo hd =>
      cases hs
      have hwr : ∀ v ∈ w :: todo, WorkOk s v := by
        have hok := h.dispatcher
        rw [hd] at hok
        exact hok
      cases ok with
      | false => exact h.withDispatcher fun v hv => hwr v (mem_cons_of_mem w hv)
      | true =>
        refine h.withDispatcher ⟨hwr, fun row hrow hid => mem_revokedShieldIds.2 ?_⟩
        rw [← (hwr w mem_cons_self).2 row hrow hid]
        exact h.tombstones row hrow
    · cases hs
  | lookUp cls => exact inv_lookUp h hok hs
  | push room => exact inv_push h hs
  | endPush =>
    dsimp only [step] at hs
    split at hs <;> cases hs
    next w todo rev failed hd =>
      have hps := h.dispatcher
      rw [hd] at hps
      obtain ⟨hwr, -, hc⟩ := hps
      cases failed with
      | false => exact h.withDispatcher ⟨hwr, hc rfl⟩
      | true => exact h.withDispatcher fun v hv => hwr v (mem_cons_of_mem w hv)
  | delete call => exact inv_delete h hs

end

lemma outbox_subset (hs : step s a = some s') (ha : ∀ call, a ≠ .delete call) :
    s.outbox ⊆ s'.outbox := by
  have hsm : s'.outbox = s.outbox → s.outbox ⊆ s'.outbox := fun heq => heq ▸ List.Subset.refl _
  cases a <;> dsimp only [step] at hs
  case delete call => exact absurd rfl (ha call)
  case revoke shieldId tenantId id =>
    split at hs <;> cases hs
    exact subset_cons_self _ _
  case activate x connectorId tenantId call lookup =>
    split at hs <;> cases hs
    exact hsm (by split <;> rfl)
  case readList | sendList | readOutbox | endPush =>
    split at hs <;> cases hs
    exact hsm rfl
  case listRevoked ok =>
    split at hs <;> cases hs
    · exact hsm rfl
    · exact hsm rfl
  case retire | lookUp =>
    split at hs
    · split at hs <;> cases hs
      exact hsm rfl
    · cases hs
  case push room =>
    split at hs
    · split at hs <;> cases hs
      exact hsm (by split <;> rfl)
    · cases hs

lemma deleted_row (hs : step s a = some s') (hr : row ∈ s.outbox) (hg : row ∉ s'.outbox) :
    ∃ call w todo, a = .delete call ∧ s.dispatcher = .delivered w todo ∧ row.id ∈ w.ids := by
  by_cases ha : ∃ call, a = .delete call
  · obtain ⟨call, rfl⟩ := ha
    dsimp only [step] at hs
    grind
  · exact absurd (outbox_subset hs (fun call h => ha ⟨call, h⟩) hr) hg

/-- **A revoked shield reaches every unretired stream** before its row is deleted, in every run
in which no superseded stream is left at a lookup, and no opening sequence fails between the lookup
and the deletion. -/
theorem deletesReached_of_noneSuperseded (rows : ConnectorId → Db) (acts : List Action)
    (hok : Runs.Meets step NoneSuperseded (init rows) acts) :
    Runs.Always step DeletesReached (init rows) acts := by
  refine Runs.always_of_meets (I := Inv) (fun _ _ _ h hok hs => inv_step h hok hs) ?_
    (inv_init rows) hok
  intro s a s' h hok hs row hrow hg x t hx ht hp
  obtain ⟨call, w, todo, rfl, hd, hid⟩ := deleted_row hs hrow hg
  have hdl := h.dispatcher
  rw [hd] at hdl
  obtain ⟨hwr, hc⟩ := hdl
  have hw : t.tenantId = w.tenantId := by
    rw [ht]
    exact (hwr w mem_cons_self).2 row hrow hid
  exact (hc x t hx hw hp).resolve_left not_mem_nil row hrow hid

def activeRows : ConnectorId → Db := fun _ => ⟨some ⟨.active, false⟩, false⟩

/-- A stream is activated and queues its list. -/
def opening (x : StreamId) : List Action :=
  [.activate x "conn-a" "ws" .ok .ok, .readList x true, .sendList x true]

/-- A pass that finds `clients`. -/
def onePass (clients : List StreamId) : List Action :=
  [Action.readOutbox true, .listRevoked true, .lookUp clients] ++
    clients.map (fun _ => Action.push true) ++ [Action.endPush, .delete .ok]

def deliveredToCurrent : List Action :=
  opening 0 ++ Action.revoke "sh-1" "ws" 1 :: onePass [0]

/-- The pass finds the only stream, queues the list on it and deletes the row. -/
theorem deletesReached_deliveredToCurrent :
    Runs.Meets step NoneSuperseded (init activeRows) deliveredToCurrent ∧
    Runs.Always step DeletesReached (init activeRows) deliveredToCurrent ∧
    ∃ s, Runs.exec step (init activeRows) deliveredToCurrent = some s ∧ s.outbox = [] ∧
      s.streams 0 = some ⟨"conn-a", "ws", .opened, [[], ["sh-1"]]⟩ := by
  have hm : Runs.Meets step NoneSuperseded (init activeRows) deliveredToCurrent := by
    have hr : (activateStream (activeRows "conn-a") .new "conn-a" 0 .ok .ok).2.2.isOk = true := rfl
    refine .cons rfl trivial (.cons rfl trivial (.cons rfl trivial (.cons rfl trivial
      (.cons rfl trivial (.cons rfl trivial (.cons rfl ?_ (.cons rfl trivial (.cons rfl trivial
      (.cons rfl trivial trivial)))))))))
    intro w todo rev _ x t hx _ _ _
    by_cases h0 : x = 0
    · subst h0
      simp [State.setStream, init, hr] at hx ⊢
      simp [← hx]
    · simp [State.setStream, init, hr, h0] at hx
  exact ⟨hm, deletesReached_of_noneSuperseded activeRows deliveredToCurrent hm, _, rfl, rfl, rfl⟩

def replacementRetired : List Action :=
  opening 0 ++ opening 1 ++ [Action.retire 1 .ok, .revoke "sh-1" "ws" 1] ++ onePass []

/-- Stream 0 is live, and the row is deleted without the shield having reached it. -/
theorem row_deleted_unreached :
    ¬ Runs.Always step DeletesReached (init activeRows) replacementRetired := by
  intro ha
  have hr := ha (replacementRetired.take 12) (.delete .ok) [] _ _ rfl rfl rfl
    ⟨1, "ws", "sh-1"⟩ (by decide) (by decide) 0 ⟨"conn-a", "ws", .opened, [[]]⟩ rfl rfl (by decide)
  rcases hr with ⟨l, hl, hm⟩ | hp | ⟨revoked, hp, -⟩
  · rw [mem_singleton.1 hl] at hm
    exact not_mem_nil hm
  · cases hp
  · cases hp

end Zecurity.ShieldRevocations
