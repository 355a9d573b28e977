import Zecurity.Acl
import Zecurity.Runs

/-!
Tunnel sessions against the access-control list they were admitted under
(`connector/src/device_tunnel.rs`, `handle_stream`; `connector/src/session_registry.rs`; the
`AclSnapshot` arm of `handle_controller_msg` in `connector/src/control_stream.rs`).

An admission resolves the request against the current snapshot, registers the session and
re-checks it, as three steps; an ACL message replaces the snapshot and then cancels the
sessions of the pairs that lost something, one pair at a time. All steps interleave freely;
messages are handled one after another. The serving-state and certificate checks of
`handle_stream` can only end an admission, which is the action `leave`.
-/

namespace Zecurity.Sessions

open Acl

structure TunnelRequest where
  destination : String
  port : UInt16
  protocol : String

inductive SessionTransport
  | tcp
  | quic
  | relay

abbrev SessionId := ℕ

/-- The state of a `CancellationToken`, and the transport of its session. -/
structure Registered where
  cancelled : Bool
  transport : SessionTransport

/-- Live sessions by their key, and under it by their id. -/
abbrev SessionRegistry := SessionKey → SessionId → Option Registered

namespace SessionRegistry

def register (r : SessionRegistry) (key : SessionKey) (id : SessionId)
    (transport : SessionTransport) : SessionRegistry :=
  fun k i => if k = key ∧ i = id then some ⟨false, transport⟩ else r k i

def cancel (r : SessionRegistry) (key : SessionKey) (id : SessionId) : SessionRegistry :=
  fun k i => if k = key ∧ i = id then (r k i).map fun x => { x with cancelled := true } else r k i

def cancelAll (r : SessionRegistry) (key : SessionKey) : SessionRegistry :=
  fun k i => if k = key then (r k i).map fun x => { x with cancelled := true } else r k i

/-- The drop of a `RegistryGuard`. -/
def remove (r : SessionRegistry) (key : SessionKey) (id : SessionId) : SessionRegistry :=
  fun k i => if k = key ∧ i = id then none else r k i

end SessionRegistry

/-- The decision of `handle_stream` on a request: the entry found by the tuple, if it lists
the client. -/
def decision (acl : PolicyCache) (client : String) (req : TunnelRequest) : Option ResourceAcl :=
  (acl.resolveResource req.destination req.port req.protocol).filter fun entry =>
    entry.allowedSpiffeIds.contains client

/-- A call of `handle_stream` whose request was granted. -/
structure Admission where
  client : String
  req : TunnelRequest
  acl : ResourceAcl
  acceptTransport : SessionTransport

def Admission.key (a : Admission) : SessionKey := (a.client, a.acl.resourceId)

/-- Shield-routed sessions are relayed, whatever they were accepted on. -/
def Admission.transport (a : Admission) : SessionTransport :=
  if a.acl.routeType = "shield" then .relay else a.acceptTransport

inductive Phase
  | resolved
  | registered
  | rechecked
  deriving DecidableEq

structure State where
  acl : PolicyCache
  registry : SessionRegistry
  admissions : SessionId → Option (Phase × Admission)
  /-- the pairs the message in progress has still to cancel; `none` between messages -/
  message : Option (List SessionKey)

def init : State := ⟨.new, fun _ _ => none, fun _ => none, none⟩

inductive Action
  | resolve (id : SessionId) (client : String) (req : TunnelRequest) (transport : SessionTransport)
  | register (id : SessionId)
  | recheck (id : SessionId)
  | leave (id : SessionId)
  | update (snapshot : AclSnapshot)
  | cancel (key : SessionKey)
  | finish

/-- The end of `handle_stream`, at any point: its guard, if it has one, is dropped. -/
def leaveState (s : State) (id : SessionId) (phase : Phase) (a : Admission) : State :=
  { s with
    admissions := Function.update s.admissions id none
    registry := if phase = .resolved then s.registry else s.registry.remove a.key id }

def step (s : State) : Action → Option State
  | .resolve id client req transport =>
    match s.admissions id, decision s.acl client req with
    | some _, _ => none
    | none, none => some s
    | none, some acl =>
      some { s with
        admissions := Function.update s.admissions id
          (some (.resolved, ⟨client, req, acl, transport⟩)) }
  | .register id =>
    match s.admissions id with
    | some (.resolved, a) =>
      some { s with
        registry := s.registry.register a.key id a.transport
        admissions := Function.update s.admissions id (some (.registered, a)) }
    | _ => none
  | .recheck id =>
    match s.admissions id with
    | some (.registered, a) =>
      some { s with
        registry :=
          if s.acl.isAllowed a.acl.resourceId a.client then s.registry
          else s.registry.cancel a.key id
        admissions := Function.update s.admissions id (some (.rechecked, a)) }
    | _ => none
  | .leave id =>
    match s.admissions id with
    | some (phase, a) => some (leaveState s id phase a)
    | none => none
  | .update snapshot =>
    match s.message with
    | none =>
      some { s with
        acl := (s.acl.updateAndRevoked snapshot).1
        message := some (s.acl.updateAndRevoked snapshot).2 }
    | some _ => none
  | .cancel key =>
    match s.message with
    | some keys =>
      if key ∈ keys then
        some { s with
          registry := s.registry.cancelAll key
          message := some (keys.filter (· ≠ key)) }
      else none
    | none => none
  | .finish =>
    match s.message with
    | some [] => some { s with message := none }
    | _ => none

/-- No message is in progress, and no admission is on its way. -/
def Quiescent (s : State) : Prop :=
  s.message = none ∧ ∀ id phase a, s.admissions id = some (phase, a) → phase = .rechecked

def Admission.tuple (a : Admission) : String × UInt32 × String :=
  (a.req.destination, a.req.port.toUInt32, toAsciiLowercase a.req.protocol)

/-- The current snapshot has an entry with the session's resource id and its tuple that
lists the client. -/
def Admitted (s : State) (a : Admission) : Prop :=
  ∃ snapshot, s.acl.snapshot = some snapshot ∧
    snapshot.Grants a.acl.resourceId a.tuple a.client

/-- **Live sessions are inside the current list.** Every session in the registry whose token
is not cancelled belongs to an admission that the current snapshot still grants. -/
def LiveInside (s : State) : Prop :=
  ∀ key id transport, s.registry key id = some ⟨false, transport⟩ →
    ∃ phase a, s.admissions id = some (phase, a) ∧ a.key = key ∧ Admitted s a

/-- The condition on a step. A snapshot does not repeat a resource id. A re-check of a
session that is not cancelled, nor about to be by the message in progress, finds by the
resource id an entry with the tuple the session was admitted on, if that entry lists the
client. -/
def TupleKept (s : State) : Action → Prop
  | .update snapshot => snapshot.Distinct
  | .recheck id => ∀ phase a transport snapshot e, s.admissions id = some (phase, a) →
      s.registry a.key id = some ⟨false, transport⟩ → a.key ∉ s.message.getD [] →
      s.acl.snapshot = some snapshot → findEntryById snapshot a.acl.resourceId = some e →
      a.client ∈ e.allowedSpiffeIds → e.tuple = a.tuple
  | _ => True

/-! ### The invariant -/

/-- The registry holds the registered admissions, each under its own key; a live session
past its re-check is granted by the current snapshot, or the message in progress is still to
cancel its pair. -/
structure Inv (s : State) : Prop where
  owner : ∀ key id x, s.registry key id = some x →
    ∃ phase a, s.admissions id = some (phase, a) ∧ phase ≠ .resolved ∧ a.key = key
  inside : ∀ id a transport, s.admissions id = some (.rechecked, a) →
    s.registry a.key id = some ⟨false, transport⟩ → Admitted s a ∨ a.key ∈ s.message.getD []

variable {client : String} {req : TunnelRequest} {snapshot : AclSnapshot}

lemma inv_init : Inv init where
  owner := nofun
  inside := nofun

variable {s s' : State} {id : SessionId}

lemma inv_of_others {phase : Phase} {a : Admission}
    (h : Inv s) (hacl : s'.acl = s.acl) (hm : s'.message = s.message)
    (hadm : s'.admissions = Function.update s.admissions id (some (phase, a)))
    (hr : ∀ k i, i ≠ id → s'.registry k i = s.registry k i)
    (ho : ∀ k x, s'.registry k id = some x → phase ≠ .resolved ∧ a.key = k)
    (hin : ∀ tr, phase = .rechecked →
      s'.registry a.key id = some ⟨false, tr⟩ → Admitted s a ∨ a.key ∈ s.message.getD []) :
    Inv s' := by
  have ha : ∀ b, Admitted s b → Admitted s' b := fun b hb => by
    rw [Admitted, hacl]; exact hb
  constructor
  · intro key i x hx
    by_cases hi : i = id
    · subst hi
      obtain ⟨hp, hk⟩ := ho key x hx
      exact ⟨phase, a, by rw [hadm]; simp, hp, hk⟩
    · rw [hr key i hi] at hx
      rw [hadm]
      simpa [hi] using h.owner key i x hx
  · intro i b tr hb hl
    rw [hm]
    by_cases hi : i = id
    · subst hi
      rw [hadm] at hb
      obtain ⟨rfl, rfl⟩ : phase = .rechecked ∧ a = b := by simpa using hb
      exact (hin tr rfl hl).imp_left (ha a)
    · rw [hr _ i hi] at hl
      rw [hadm] at hb
      exact (h.inside i b tr (by simpa [hi] using hb) hl).imp_left (ha b)

lemma Inv.fresh (h : Inv s) (hid : ∀ phase a, s.admissions id = some (phase, a) →
    phase = .resolved) (key : SessionKey) : s.registry key id = none := by
  rcases hx : s.registry key id with _ | x
  · rfl
  · obtain ⟨phase, a, ha, hp, -⟩ := h.owner key id x hx
    exact absurd (hid phase a ha) hp

lemma inv_register (h : Inv s) (hs : step s (.register id) = some s') : Inv s' := by
  dsimp only [step] at hs
  split at hs <;> cases hs
  next a ha =>
    have hf : ∀ k, s.registry k id = none := h.fresh (by simp [ha])
    refine inv_of_others h rfl rfl rfl (fun k i hi => ?_) (fun k x hx => ?_) (by simp)
    · simp [SessionRegistry.register, hi]
    · simp only [SessionRegistry.register] at hx
      split at hx
      · next hk => exact ⟨by simp, hk.1.symm⟩
      · simp [hf k] at hx

/-- A re-check that leaves the session live has found the client on the entry with the
session's resource id; the condition makes it an entry with the session's tuple. -/
lemma inv_recheck (h : Inv s) (hok : TupleKept s (.recheck id))
    (hs : step s (.recheck id) = some s') : Inv s' := by
  dsimp only [step] at hs
  split at hs <;> cases hs
  next a ha =>
    have ho : ∀ k x, s.registry k id = some x → a.key = k := fun k x hx => by
      obtain ⟨_, a', ha', -, hk⟩ := h.owner k id x hx
      obtain ⟨-, rfl⟩ : Phase.registered = _ ∧ a = a' := by simpa [ha] using ha'
      exact hk
    by_cases hal : s.acl.isAllowed a.acl.resourceId a.client = true
    · refine inv_of_others h rfl rfl rfl (fun k i _ => by simp [hal])
        (fun k x hx => ⟨by simp, ho k x (by simpa [hal] using hx)⟩) ?_
      intro tr _ hl
      simp only [hal, if_true] at hl
      by_cases hp : a.key ∈ s.message.getD []
      · exact .inr hp
      obtain ⟨snapshot, e, hsn, hf, hc⟩ := isAllowed_iff.1 hal
      have ht := hok _ a tr snapshot e ha hl hp hsn hf hc
      obtain ⟨he, hid⟩ := findEntryById_some hf
      exact .inl ⟨snapshot, hsn, e, he, hid, ht, hc⟩
    · -- not allowed any more: the token is cancelled here
      refine inv_of_others h rfl rfl rfl (fun k i hi => ?_) (fun k x hx => ?_) ?_
      · simp [hal, SessionRegistry.cancel, hi]
      · refine ⟨by simp, ?_⟩
        rcases hr : s.registry k id with _ | y
        · simp [hal, SessionRegistry.cancel, hr] at hx
        · exact ho k y hr
      · intro tr _ hl
        simp [hal, SessionRegistry.cancel] at hl

lemma inv_leave (h : Inv s) (hs : step s (.leave id) = some s') : Inv s' := by
  dsimp only [step] at hs
  split at hs <;> cases hs
  next phase a ha =>
    -- nothing of the session is left in the registry
    have hg : ∀ k, (leaveState s id phase a).registry k id = none := fun k => by
      simp only [leaveState]
      split
      · next hp => exact h.fresh (by simp [ha, hp]) k
      · simp only [SessionRegistry.remove]
        split
        · rfl
        · next hk =>
          rcases hx : s.registry k id with _ | x
          · rfl
          · obtain ⟨_, a', ha', -, hkey⟩ := h.owner k id x hx
            obtain ⟨-, rfl⟩ : phase = _ ∧ a = a' := by simpa [ha] using ha'
            exact absurd (by simp [hkey]) hk
    have ho : ∀ k i, i ≠ id → (leaveState s id phase a).registry k i = s.registry k i :=
      fun k i hi => by
        simp only [leaveState]
        split
        · rfl
        · simp [SessionRegistry.remove, hi]
    constructor
    · intro key i x hx
      have hi : i ≠ id := fun hi => by subst hi; simp [hg key] at hx
      rw [ho key i hi] at hx
      simpa [leaveState, hi] using h.owner key i x hx
    · intro i b tr hb hl
      have hi : i ≠ id := fun hi => by subst hi; simp [hg] at hl
      rw [ho _ i hi] at hl
      exact h.inside i b tr (by simpa [leaveState, hi] using hb) hl

lemma inv_step {a} (h : Inv s) (hok : TupleKept s a) (hs : step s a = some s') : Inv s' := by
  cases a with
  | resolve id client req tr =>
    dsimp only [step] at hs
    split at hs
    · cases hs
    · cases hs; exact h
    · next acl hn _ =>
      cases hs
      have hf : ∀ k, s.registry k id = none := h.fresh (by simp [hn])
      refine inv_of_others h rfl rfl rfl (fun _ _ _ => rfl) (fun k x hx => ?_) (by simp)
      simp [hf k] at hx
  | register id => exact inv_register h hs
  | recheck id => exact inv_recheck h hok hs
  | leave id => exact inv_leave h hs
  | update snapshot =>
    -- A new snapshot: a live session that it does not grant is among the revoked pairs.
    dsimp only [step] at hs
    split at hs <;> cases hs
    next hm =>
      refine ⟨h.owner, fun i a tr ha hl => ?_⟩
      rcases h.inside i a tr ha hl with ⟨previous, hpr, hg⟩ | hp
      · by_cases hr : a.key ∈ (s.acl.updateAndRevoked snapshot).2
        · exact .inr hr
        · refine .inl ⟨snapshot, by simp [PolicyCache.updateAndRevoked_fst], ?_⟩
          exact grants_of_not_revoked hpr hok hg hr
      · simp [hm] at hp
  | cancel key =>
    dsimp only [step] at hs
    split at hs
    · next keys hm =>
      split at hs <;> cases hs
      constructor
      · intro k i x hx
        simp only [SessionRegistry.cancelAll] at hx
        split at hx
        · obtain ⟨y, hy, -⟩ := Option.map_eq_some_iff.1 hx
          exact h.owner k i y hy
        · exact h.owner k i x hx
      · intro i a tr ha hl
        simp only [SessionRegistry.cancelAll] at hl
        split at hl
        · simp at hl
        · next hk =>
          refine (h.inside i a tr ha hl).imp id fun hp => ?_
          simp only [hm, Option.getD_some] at hp
          simpa [hk] using hp
    · cases hs
  | finish =>
    dsimp only [step] at hs
    split at hs <;> cases hs
    next hm =>
      refine ⟨h.owner, fun i a tr ha hl => ?_⟩
      simpa [hm, Admitted] using h.inside i a tr ha hl

/-- **Live sessions stay inside the list.** In every run whose re-checks see the tuple the
session was admitted on, every state between messages with all admissions re-checked has
only live sessions that the current snapshot grants. -/
theorem liveInside_of_tupleKept (acts : List Action) (s : State)
    (hmeets : Runs.Meets step TupleKept init acts) (hexec : Runs.exec step init acts = some s)
    (hquiet : Quiescent s) : LiveInside s := by
  have hi : Inv s :=
    Runs.exec_inv_of_meets (fun _ _ _ h hok hs => inv_step h hok hs) inv_init hmeets hexec
  intro key id tr hl
  obtain ⟨phase, a, ha, -, rfl⟩ := hi.owner key id _ hl
  obtain rfl := hquiet.2 id phase a ha
  refine ⟨_, a, ha, rfl, ?_⟩
  rcases hi.inside id a tr ha hl with hin | hp
  · exact hin
  · simp [hquiet.1] at hp

/-! ### Entries with one tuple -/

/-- The entry has the requested destination, port and protocol. -/
def TunnelRequest.hits (req : TunnelRequest) (e : AclEntry) : Bool :=
  e.matchesTuple req.destination req.port req.protocol

/-- Some entry with the requested tuple lists the client. -/
def Granted (snapshot : AclSnapshot) (client : String) (req : TunnelRequest) : Prop :=
  ∃ e ∈ snapshot.entries, req.hits e = true ∧ client ∈ e.allowedSpiffeIds

/-- The first entry with the requested tuple does not list the client and a later one does. -/
def Shadowed (snapshot : AclSnapshot) (client : String) (req : TunnelRequest) : Prop :=
  ∃ before e after, snapshot.entries = before ++ e :: after ∧
    (∀ e' ∈ before, req.hits e' = false) ∧ req.hits e = true ∧ client ∉ e.allowedSpiffeIds ∧
    ∃ e' ∈ after, req.hits e' = true ∧ client ∈ e'.allowedSpiffeIds

lemma decision_isSome :
    (decision ⟨some snapshot⟩ client req).isSome ↔
      ∃ e, snapshot.entries.find? req.hits = some e ∧ client ∈ e.allowedSpiffeIds := by
  have hf : PolicyCache.resolveResource ⟨some snapshot⟩ req.destination req.port req.protocol =
      (snapshot.entries.find? req.hits).map fun e =>
        ⟨e.resourceId, e.allowedSpiffeIds, e.routeType, e.shieldId⟩ := rfl
  rw [decision, hf]
  cases snapshot.entries.find? req.hits with
  | none => simp
  | some e => simp [Option.filter_some]

lemma granted_iff_of_find {before after e} (hs : snapshot.entries = before ++ e :: after)
    (hb : ∀ e' ∈ before, req.hits e' = false) (hh : req.hits e = true) :
    Granted snapshot client req ↔ client ∈ e.allowedSpiffeIds ∨
      ∃ e' ∈ after, req.hits e' = true ∧ client ∈ e'.allowedSpiffeIds := by
  constructor
  · rintro ⟨e', hm, hh', hl⟩
    rw [hs, List.mem_append, List.mem_cons] at hm
    rcases hm with hm | rfl | hm
    · rw [hb e' hm] at hh'
      cases hh'
    · exact .inl hl
    · exact .inr ⟨e', hm, hh', hl⟩
  · rintro (hl | ⟨e', hm, hh', hl⟩)
    · exact ⟨e, by simp [hs], hh, hl⟩
    · exact ⟨e', by simp [hs, hm], hh', hl⟩

lemma shadowed_iff :
    Shadowed snapshot client req ↔
      Granted snapshot client req ∧ ¬ (decision ⟨some snapshot⟩ client req).isSome := by
  rw [decision_isSome]
  constructor
  · rintro ⟨before, e, after, hs, hb, hh, hn, hlt⟩
    have hf : snapshot.entries.find? req.hits = some e := List.find?_eq_some_iff_append.2
        ⟨hh, before, after, hs, fun e' he' => by simp [hb e' he']⟩
    refine ⟨(granted_iff_of_find hs hb hh).2 (.inr hlt), ?_⟩
    rintro ⟨e', hf', hl⟩
    cases hf.symm.trans hf'
    exact hn hl
  · rintro ⟨hg, hn⟩
    cases hf : snapshot.entries.find? req.hits with
    | none =>
      obtain ⟨e, hm, hh, -⟩ := hg
      exact absurd hh (List.find?_eq_none.1 hf e hm)
    | some e =>
      obtain ⟨hh, before, after, hs, hb⟩ := List.find?_eq_some_iff_append.1 hf
      have hb : ∀ e' ∈ before, req.hits e' = false := fun e' he' => by
        simpa using hb e' he'
      have hn : client ∉ e.allowedSpiffeIds := fun hl => hn ⟨e, hf, hl⟩
      have hlt := ((granted_iff_of_find hs hb hh).1 hg).resolve_left hn
      exact ⟨before, e, after, hs, hb, hh, hn, hlt⟩

/-- **Admission is complete** exactly where no entry shadows one that grants the request. -/
theorem admits_iff_granted_iff (snapshot : AclSnapshot) (client : String) (req : TunnelRequest) :
    ((decision ⟨some snapshot⟩ client req).isSome ↔ Granted snapshot client req) ↔
      ¬ Shadowed snapshot client req := by
  rw [shadowed_iff, not_and, not_not]
  refine ⟨fun h => h.2, fun h => ⟨fun hs => ?_, h⟩⟩
  obtain ⟨e, hf, hl⟩ := decision_isSome.1 hs
  exact ⟨e, List.mem_of_find?_eq_some hf, List.find?_some hf, hl⟩

/-- One private address in two networks; each of the two resources lists a client of its own. -/
def twoNetworks : AclSnapshot :=
  ⟨1, "ws", 0,
    [⟨"r1", "10.0.0.5", 443, "tcp", ["spiffe://ws/client/d1"], "web", "connector", "", "rn1", ""⟩,
      ⟨"r2", "10.0.0.5", 443, "tcp", ["spiffe://ws/client/d2"], "web", "connector", "", "rn2", ""⟩],
    "", "", [], []⟩

/-- The second client is refused what the second entry grants. -/
theorem twoNetworks_refused :
    Granted twoNetworks "spiffe://ws/client/d2" ⟨"10.0.0.5", 443, "TCP"⟩ ∧
      decision ⟨some twoNetworks⟩ "spiffe://ws/client/d2" ⟨"10.0.0.5", 443, "TCP"⟩ = none ∧
      PolicyCache.isAllowed ⟨some twoNetworks⟩ "r2" "spiffe://ws/client/d2" = true := by
  refine ⟨⟨_, List.mem_cons_of_mem _ List.mem_cons_self, by decide, by decide⟩, by decide,
    by decide⟩

/-! ### Two runs: the tuple kept, and the tuple moved between decision and re-check -/

/-- A resource at `address`, port 443, that lists one client. -/
def sshEntry (address : String) : AclEntry :=
  ⟨"r1", address, 443, "tcp", ["spiffe://ws/client/d1"], "ssh", "connector", "", "rn1", ""⟩

/-- Version `version` of a list with that one resource. -/
def sshSnapshot (version : UInt64) (address : String) : AclSnapshot :=
  ⟨version, "ws", 0, [sshEntry address], "", "", [], []⟩

lemma quiescent_of_single {s} (hm : s.message = none)
    (h0 : (s.admissions 0).map Prod.fst = some .rechecked) (hr : ∀ id ≠ 0, s.admissions id = none) :
    Quiescent s := by
  refine ⟨hm, fun id phase a h => ?_⟩
  by_cases hid : id = 0
  · subst hid
    simpa [h] using h0
  · simp [hr id hid] at h

/-- A session is admitted, and a snapshot that keeps its tuple arrives. -/
def admittedInPlace : List Action :=
  [.update (sshSnapshot 1 "10.0.0.1"), .finish,
    .resolve 0 "spiffe://ws/client/d1" ⟨"10.0.0.1", 443, "tcp"⟩ .tcp, .register 0, .recheck 0,
    .update (sshSnapshot 2 "10.0.0.1"), .finish]

lemma sshSnapshot_distinct (ver : UInt64) (addr : String) : (sshSnapshot ver addr).Distinct := by
  simp [AclSnapshot.Distinct, sshSnapshot]

theorem liveInside_admittedInPlace :
    ∃ s, Runs.exec step init admittedInPlace = some s ∧ Quiescent s ∧ LiveInside s ∧
      s.registry ("spiffe://ws/client/d1", "r1") 0 = some ⟨false, .tcp⟩ := by
  have hm : Runs.Meets step TupleKept init admittedInPlace := by
    refine .cons rfl (sshSnapshot_distinct _ _) (.cons rfl trivial (.cons rfl trivial
      (.cons rfl trivial (.cons rfl ?_ (.cons rfl (sshSnapshot_distinct _ _)
        (.cons rfl trivial trivial))))))
    intro phase a tr snapshot e ha _ _ hs hf _
    cases hs
    obtain rfl : e = sshEntry "10.0.0.1" := List.mem_singleton.1 (findEntryById_some hf).1
    rw [← (Prod.mk.inj (Option.some.inj ha)).2]
    decide
  obtain ⟨s, he, hmsg, hr, hl, h0⟩ : ∃ s, Runs.exec step init admittedInPlace = some s ∧
      s.message = none ∧ (∀ id ≠ 0, s.admissions id = none) ∧
      s.registry ("spiffe://ws/client/d1", "r1") 0 = some ⟨false, .tcp⟩ ∧
      (s.admissions 0).map Prod.fst = some .rechecked :=
    ⟨_, rfl, rfl, fun id hid => by simp [hid, init], rfl, rfl⟩
  have hq := quiescent_of_single hmsg h0 hr
  exact ⟨s, he, hq, liveInside_of_tupleKept _ s hm he hq, hl⟩

/-- The request is granted on `10.0.0.1`; before the session registers, a snapshot moves the
resource to `10.0.0.2`, and the cancellation of its pair finds no session. The re-check finds
the client under the resource id. -/
def movedBeforeRegister : List Action :=
  [.update (sshSnapshot 1 "10.0.0.1"), .finish,
    .resolve 0 "spiffe://ws/client/d1" ⟨"10.0.0.1", 443, "tcp"⟩ .tcp,
    .update (sshSnapshot 2 "10.0.0.2"), .cancel ("spiffe://ws/client/d1", "r1"), .finish,
    .register 0, .recheck 0]

/-- The session is live on `10.0.0.1`, which the current snapshot grants to nobody. -/
theorem live_outside_after_move :
    ∃ s, Runs.exec step init movedBeforeRegister = some s ∧ Quiescent s ∧ ¬ LiveInside s := by
  refine ⟨_, rfl, quiescent_of_single rfl rfl fun id hid => by simp [hid, init], fun hl => ?_⟩
  obtain ⟨phase, a, ha, -, snapshot, hs, e, he, -, ht, -⟩ :=
    hl ("spiffe://ws/client/d1", "r1") 0 .tcp rfl
  have hr : a.req = ⟨"10.0.0.1", 443, "tcp"⟩ := by rw [← (Prod.mk.inj (Option.some.inj ha)).2]
  cases hs
  obtain rfl : e = sshEntry "10.0.0.2" := List.mem_singleton.1 he
  have hadd : "10.0.0.2" = a.req.destination := congrArg Prod.fst ht
  rw [hr] at hadd
  exact absurd hadd (by decide)

end Zecurity.Sessions
