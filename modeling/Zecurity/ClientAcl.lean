import Zecurity.Acl
import Zecurity.FiniteMap
import Zecurity.Runs

/-!
The client's copy of the access-control list (`client/src/daemon.rs`, `sync_acl_now_with` and
its callers; `fetch_and_store_acl` at startup).

A call reads the known version, fetches without the state's lock, and stores what it got. The
scheduler's tick, the requests `Sync` and `Resources`, a login and the bringing up of the tunnel
make such calls, at the same time. A call that has stored a new version asks for an evaluation
of the tunnel's configuration: requests are gathered, and one pass answers those queued when it
starts.
-/

namespace Zecurity.ClientAcl

open Acl FiniteMap List Runs

abbrev CallId := ℕ
/-- In seconds. -/
abbrev Instant := ℕ

inductive Caller
  /-- the scheduler, on its tick or on a change hint -/
  | tick
  | sync
  | resources
  | login
  /-- `handle_up` -/
  | up
  /-- `fetch_and_store_acl` -/
  | startup
  deriving DecidableEq

inductive DeviceDirective
  | revoked
  | reEnrollRequired
  | renewSoon
  deriving DecidableEq

inductive AclFetchOutcome
  | snapshot (snapshot : AclSnapshot)
  | upToDate
  | directive (directive : DeviceDirective) (reason : String)
  deriving DecidableEq

inductive DeviceState
  | active
  | revoked
  | reEnrollRequired
  deriving DecidableEq

/-! ### Snapshots -/

/-- The revoked connectors are kept. -/
def staleAclPlaceholder (acl : AclSnapshot) : AclSnapshot where
  version := 0
  workspaceId := acl.workspaceId
  generatedAt := 0
  entries := []
  relayAddr := ""
  relaySpiffeId := ""
  remoteNetworks := []
  revokedConnectors := acl.revokedConnectors

def isStaleAclPlaceholder (acl : AclSnapshot) : Bool :=
  acl.version == 0 && acl.entries.isEmpty && acl.remoteNetworks.isEmpty

def aclStaleAfter : ℕ := 3600

def aclIsStale (lastOk : Option Instant) (now : Instant) : Bool :=
  lastOk.any fun t => decide (aclStaleAfter ≤ now - t)

/-- `GetACLSnapshot`: the payload is left out if the client knows the version. -/
def getAclSnapshot (current : AclSnapshot) (knownVersion : UInt64) : AclFetchOutcome :=
  if knownVersion ≠ 0 ∧ knownVersion = current.version then .upToDate else .snapshot current

/-! ### Calls -/

/-- How far a call has come, with the number of the last snapshot that it stored. -/
inductive Phase
  | begun (oldVersion : Option UInt64)
  /-- the outcome is on its way; replies are numbered as they are made -/
  | replied (oldVersion : Option UInt64) (outcome : AclFetchOutcome) (number : ℕ)
  | synced (changed : Bool) (stored : Option ℕ)
  | queued (changed : Bool) (stored : Option ℕ)
  | passing (changed : Bool) (stored : Option ℕ)
  | answered (changed : Bool) (stored : Option ℕ)
  | returned (stored : Option ℕ)
  deriving DecidableEq

/-- The reply with a snapshot that is on its way. -/
def Phase.reply : Phase → Option (ℕ × AclSnapshot)
  | .replied _ (.snapshot snapshot) number => some (number, snapshot)
  | _ => none

/-- The number of the last snapshot that the call stored. -/
def Phase.stored : Phase → Option ℕ
  | .synced _ stored | .queued _ stored | .passing _ stored | .answered _ stored
  | .returned stored => stored
  | .begun _ | .replied .. => none

def Phase.isQueued : Phase → Bool
  | .queued .. => true
  | _ => false

def Phase.take : Phase → Phase
  | .queued changed stored => .passing changed stored
  | phase => phase

/-- A pass is over. One that failed fails the requests that came while it ran, too. -/
def Phase.answer (ok : Bool) : Phase → Phase
  | .passing changed stored => .answered changed stored
  | .queued changed stored => if ok then .queued changed stored else .answered changed stored
  | phase => phase

structure Call where
  caller : Caller
  phase : Phase

structure State where
  /-- the snapshots of the controller, the current one first -/
  published : List AclSnapshot
  acl : Option AclSnapshot
  blocked : List String
  aclLastOk : Option Instant
  calls : Map CallId Call
  pass : Bool
  /-- history: the snapshots in replies, with their numbers, the last one first, -/
  replies : List (ℕ × AclSnapshot)
  /-- those that were stored, -/
  stored : List (ℕ × AclSnapshot)
  /-- all that was stored, placeholders too, counted from one, with its number, -/
  log : List (ℕ × AclSnapshot)
  stores : ℕ
  /-- and the same when an evaluation last started -/
  evaluated : ℕ

def initial (first : AclSnapshot) : State where
  published := [first]
  acl := none
  blocked := []
  aclLastOk := none
  calls := ∅
  pass := false
  replies := []
  stored := []
  log := []
  stores := 0
  evaluated := 0

inductive Action
  | publish (snapshot : AclSnapshot)
  | begin_ (c : CallId) (caller : Caller)
  | reply (c : CallId) (directive : Option (DeviceDirective × String))
  | fail (c : CallId)
  | handle (c : CallId) (now : Instant)
  | goStale (c : CallId) (now : Instant)
  | request (c : CallId)
  | skip (c : CallId)
  | startPass
  | finishPass (ok : Bool)
  /-- `handle_up`, which may return before it looks at the list -/
  | bringUp (c : CallId) (early : Bool)
  | return_ (c : CallId)

def State.setPhase (s : State) (c : CallId) (caller : Caller) (phase : Phase) : State :=
  { s with calls := s.calls.insert c ⟨caller, phase⟩ }

def State.mapPhases (s : State) (f : Phase → Phase) : State :=
  { s with calls := mapValues s.calls fun _ call => { call with phase := f call.phase } }

/-- The write of the snapshot and of the blocked set, under the state's lock. -/
def State.store (s : State) (acl : AclSnapshot) : State :=
  { s with
    acl := some acl
    blocked := revokedConnectorIds acl
    log := (s.stores + 1, acl) :: s.log
    stores := s.stores + 1 }

/-- A device directive that takes the device out of use drops the list. -/
def State.react (s : State) : DeviceDirective → State
  | .revoked | .reEnrollRequired => { s with acl := none }
  | .renewSoon => s

/-- Startup asks for the full list. -/
def knownVersion (caller : Caller) (oldVersion : Option UInt64) : UInt64 :=
  if caller = .startup then 0 else oldVersion.getD 0

def step (s : State) : Action → Option State
  | .publish snapshot =>
    if s.published.all (·.version < snapshot.version) then
      some { s with published := snapshot :: s.published }
    else none
  | .begin_ c caller =>
    if s.calls.lookup c = none then
      some (s.setPhase c caller (.begun (s.acl.map AclSnapshot.version)))
    else none
  | .reply c directive =>
    match s.calls.lookup c, s.published with
    | some ⟨caller, .begun old⟩, current :: _ =>
      let number := s.replies.length
      match directive with
      | some (d, reason) => some (s.setPhase c caller (.replied old (.directive d reason) number))
      | none =>
        let outcome := getAclSnapshot current (knownVersion caller old)
        some { s.setPhase c caller (.replied old outcome number) with
          replies := (number, current) :: s.replies }
    | _, _ => none
  | .fail c =>
    match s.calls.lookup c with
    | some ⟨caller, .begun _⟩ =>
      some (s.setPhase c caller (.synced false none))
    | _ => none
  | .handle c now =>
    match s.calls.lookup c with
    | some ⟨caller, .replied old (.snapshot snapshot) number⟩ =>
      let changed := old ≠ some snapshot.version
      some { (s.store snapshot).setPhase c caller
          (.synced changed (some (s.stores + 1))) with
        aclLastOk := some now
        stored := (number, snapshot) :: s.stored }
    | some ⟨caller, .replied _ .upToDate _⟩ =>
      some { s.setPhase c caller (.synced false none) with aclLastOk := some now }
    | some ⟨caller, .replied _ (.directive d _) _⟩ =>
      some ((s.react d).setPhase c caller (.synced false none))
    | _ => none
  | .goStale c now =>
    match s.calls.lookup c, s.acl with
    | some ⟨.tick, .synced _ _⟩, some acl =>
      if aclIsStale s.aclLastOk now && !isStaleAclPlaceholder acl then
        some ((s.store (staleAclPlaceholder acl)).setPhase c .tick
          (.synced true (some (s.stores + 1))))
      else none
    | _, _ => none
  | .request c =>
    match s.calls.lookup c with
    | some ⟨caller, .synced changed stored⟩ =>
      if caller ≠ .startup ∧ (changed || caller = .tick) then
        some (s.setPhase c caller (.queued changed stored))
      else none
    | _ => none
  | .skip c =>
    match s.calls.lookup c with
    | some ⟨caller, .synced changed stored⟩ =>
      if changed = false ∨ caller = .startup then
        some (s.setPhase c caller (.answered changed stored))
      else none
    | _ => none
  | .startPass =>
    if s.pass = false ∧ s.calls.entries.any (·.2.phase.isQueued) then
      some { s.mapPhases Phase.take with pass := true, evaluated := s.stores }
    else none
  | .finishPass ok =>
    if s.pass then some { s.mapPhases (Phase.answer ok) with pass := false } else none
  | .bringUp c early =>
    match s.calls.lookup c with
    | some ⟨caller, .synced changed stored⟩ =>
      if caller = .login ∨ caller = .up then
        some { s.setPhase c caller (.answered changed stored) with
          evaluated := if early then s.evaluated else s.stores }
      else none
    | _ => none
  | .return_ c =>
    match s.calls.lookup c with
    | some ⟨caller, .answered _ stored⟩ =>
      some (s.setPhase c caller (.returned stored))
    | _ => none

/-! ### What is to hold -/

/-- The stored snapshot is the stale placeholder, or has the highest version stored so far. -/
def Newest (s : State) : Prop :=
  ∀ acl, s.acl = some acl → isStaleAclPlaceholder acl = true ∨
    ∀ old ∈ s.stored, old.2.version ≤ acl.version

/-- A connector leaves the blocked set only for a snapshot without it that is newer than every
one with it. -/
def BlockedKept (s s' : State) : Prop :=
  ∀ id ∈ s.blocked, id ∉ s'.blocked → ∃ number acl, s'.stored = (number, acl) :: s.stored ∧
    id ∉ revokedConnectorIds acl ∧
    ∀ old ∈ s.stored, id ∈ revokedConnectorIds old.2 → old.2.version < acl.version

/-- After what a call has stored, and before it returns, an evaluation starts. -/
def Evaluated (s : State) : Prop :=
  ∀ c caller n, s.calls.lookup c = some ⟨caller, .returned (some n)⟩ → caller ≠ .startup →
    n ≤ s.evaluated

/-- **The condition.** Snapshots of different versions are stored in the order in which the
controller has replied with them, a call that knows the version zero, which is the placeholder's,
gets no list of that version, no pass fails with requests behind it, and a tunnel that is to be
brought up for a new snapshot is. -/
def Orderly (s : State) : Action → Prop
  | .reply c none => ∀ call ∈ s.calls.lookup c, call.phase = .begun (some 0) →
      ∀ current ∈ s.published.head?, current.version ≠ 0
  | .handle c _ => ∀ call ∈ s.calls.lookup c, ∀ r ∈ call.phase.reply,
      ∀ old ∈ s.stored, r.1 < old.1 → old.2.version = r.2.version
  | .finishPass ok => ok = true ∨ ∀ e ∈ s.calls.entries, e.2.phase.isQueued = false
  | .bringUp c early => early = true → ∀ call ∈ s.calls.lookup c, call.phase.stored = none
  | _ => True

instance (s : State) (a : Action) : Decidable (Orderly s a) := by
  unfold Orderly
  split <;> infer_instance

/-! ### What a step can do -/

inductive Steps (s : State) : Action → State → Prop
  | publish {snapshot} (hnew : ∀ acl ∈ s.published, acl.version < snapshot.version) :
    Steps s (.publish snapshot) { s with published := snapshot :: s.published }
  | begin_ {c} (hfresh : s.calls.lookup c = none) (caller : Caller) :
    Steps s (.begin_ c caller) (s.setPhase c caller (.begun (s.acl.map AclSnapshot.version)))
  | replyDirective {c caller old} (hcall : s.calls.lookup c = some ⟨caller, .begun old⟩)
    (d : DeviceDirective) (reason : String) :
    Steps s (.reply c (some (d, reason)))
      (s.setPhase c caller (.replied old (.directive d reason) s.replies.length))
  | replyList {c caller old current older} (hcall : s.calls.lookup c = some ⟨caller, .begun old⟩)
    (hpublished : s.published = current :: older) :
    Steps s (.reply c none)
      { s.setPhase c caller (.replied old (getAclSnapshot current (knownVersion caller old))
          s.replies.length) with
        replies := (s.replies.length, current) :: s.replies }
  | fail {c caller old} (hcall : s.calls.lookup c = some ⟨caller, .begun old⟩) :
    Steps s (.fail c) (s.setPhase c caller (.synced false none))
  | handleSnapshot {c caller old snapshot number}
    (hcall : s.calls.lookup c = some ⟨caller, .replied old (.snapshot snapshot) number⟩)
    (now : Instant) :
    Steps s (.handle c now)
      { (s.store snapshot).setPhase c caller
          (.synced (old ≠ some snapshot.version) (some (s.stores + 1))) with
        aclLastOk := some now
        stored := (number, snapshot) :: s.stored }
  | handleUpToDate {c caller old number}
    (hcall : s.calls.lookup c = some ⟨caller, .replied old .upToDate number⟩) (now : Instant) :
    Steps s (.handle c now)
      { s.setPhase c caller (.synced false none) with aclLastOk := some now }
  | handleDirective {c caller old d reason number}
    (hcall : s.calls.lookup c = some ⟨caller, .replied old (.directive d reason) number⟩)
    (now : Instant) : Steps s (.handle c now) ((s.react d).setPhase c caller (.synced false none))
  | goStale {c changed stored acl}
    (hcall : s.calls.lookup c = some ⟨.tick, .synced changed stored⟩) (hacl : s.acl = some acl)
    (now : Instant) :
    Steps s (.goStale c now)
      ((s.store (staleAclPlaceholder acl)).setPhase c .tick
        (.synced true (some (s.stores + 1))))
  | request {c caller changed stored}
    (hcall : s.calls.lookup c = some ⟨caller, .synced changed stored⟩) :
    Steps s (.request c) (s.setPhase c caller (.queued changed stored))
  | skip {c caller changed stored}
    (hcall : s.calls.lookup c = some ⟨caller, .synced changed stored⟩)
    (hskip : changed = false ∨ caller = .startup) :
    Steps s (.skip c) (s.setPhase c caller (.answered changed stored))
  | startPass :
    Steps s .startPass { s.mapPhases Phase.take with pass := true, evaluated := s.stores }
  | finishPass (ok : Bool) :
    Steps s (.finishPass ok) { s.mapPhases (Phase.answer ok) with pass := false }
  | bringUp {c caller changed stored}
    (hcall : s.calls.lookup c = some ⟨caller, .synced changed stored⟩) (early : Bool) :
    Steps s (.bringUp c early)
      { s.setPhase c caller (.answered changed stored) with
        evaluated := if early then s.evaluated else s.stores }
  | return_ {c caller changed stored}
    (hcall : s.calls.lookup c = some ⟨caller, .answered changed stored⟩) :
    Steps s (.return_ c) (s.setPhase c caller (.returned stored))

variable {a : Action} {calls : Map CallId Call} {number : ℕ} {call call' : Call} {c c' : CallId}
  {caller : Caller} {old : Option UInt64} {changed : Bool} {phase : Phase} {s' : State}
  {f : Phase → Phase}

lemma steps_of_step {s} (hs : step s a = some s') : Steps s a s' := by
  revert hs
  fun_cases step s a <;> rintro ⟨⟩
  · next hn => exact .publish (by simpa using hn)
  · next caller hf => exact .begin_ hf caller
  · next hc _ _ _ => exact .replyDirective hc ..
  · next hp hc _ _ => exact .replyList hc hp
  · next hc => exact .fail hc
  · next hc _ => exact .handleSnapshot hc _
  · next hc => exact .handleUpToDate hc _
  · next hc => exact .handleDirective hc _
  · next ha hc _ => exact .goStale hc ha _
  · next hc _ => exact .request hc
  · next hc hsk => exact .skip hc hsk
  · exact .startPass
  · exact .finishPass _
  · next hc _ => exact .bringUp hc _
  · next hc => exact .return_ hc

/-! ### The history -/

lemma version_le_of_number_le {rs : List (ℕ × AclSnapshot)}
    (h : rs.Pairwise fun r r' => r'.1 < r.1 ∧ r'.2.version ≤ r.2.version) {r r' : ℕ × AclSnapshot}
    (hr : r ∈ rs) (hr' : r' ∈ rs) (hle : r.1 ≤ r'.1) : r.2.version ≤ r'.2.version := by
  induction rs with
  | nil => cases hr
  | cons last rest ih =>
    obtain ⟨hl, hrs⟩ := pairwise_cons.1 h
    grind

lemma eq_of_version_eq {pub : List AclSnapshot}
    (h : pub.Pairwise fun acl acl' => acl'.version < acl.version) {acl acl' : AclSnapshot}
    (ha : acl ∈ pub) (ha' : acl' ∈ pub) (heq : acl.version = acl'.version) : acl = acl' := by
  induction pub with
  | nil => cases ha
  | cons cur rest ih =>
    obtain ⟨hc, hr⟩ := pairwise_cons.1 h
    grind

/-- What the controller has published and replied, and what of it the client holds. -/
structure History (s : State) : Prop where
  published : s.published.Pairwise fun acl acl' => acl'.version < acl.version
  replies : s.replies.Pairwise fun r r' => r'.1 < r.1 ∧ r'.2.version ≤ r.2.version
  replied : ∀ r ∈ s.replies, r.1 < s.replies.length ∧ r.2 ∈ s.published
  stored : ∀ r ∈ s.stored, r ∈ s.replies
  blocked : ∀ acl, s.acl = some acl → revokedConnectorIds acl = s.blocked
  newest : Newest s
  evaluated : s.evaluated ≤ s.stores

namespace History

variable {s : State} {snap : AclSnapshot}

lemma publish (h : History s) (hn : ∀ acl ∈ s.published, acl.version < snap.version) :
    History { s with published := snap :: s.published } := { h with
    published := pairwise_cons.2 ⟨hn, h.published⟩
    replied := fun r hr =>
      ⟨(h.replied r hr).1, mem_cons_of_mem _ (h.replied r hr).2⟩ }

lemma reply (h : History s) {cur older} (hc : s.published = cur :: older) :
    History { s with
      calls := calls, replies := (s.replies.length, cur) :: s.replies } := by
  have hle : ∀ acl ∈ s.published, acl.version ≤ cur.version := by
    intro acl ha
    rw [hc] at ha
    rcases mem_cons.1 ha with rfl | ha
    · exact UInt64.le_refl _
    · exact UInt64.le_of_lt ((pairwise_cons.1 (hc ▸ h.published)).1 acl ha)
  refine { h with
    replies := pairwise_cons.2 ⟨fun r hr => ?_, h.replies⟩
    replied := fun r hr => ?_
    stored := fun r hr => mem_cons_of_mem _ (h.stored r hr) }
  · exact ⟨(h.replied r hr).1, hle r.2 (h.replied r hr).2⟩
  · rcases mem_cons.1 hr with rfl | hr
    · exact ⟨by simp, hc ▸ mem_cons_self⟩
    · obtain ⟨hlt, hm⟩ := h.replied r hr
      exact ⟨by simp only [length_cons]; omega, hm⟩

lemma version_le (h : History s) (hr : (number, snap) ∈ s.replies)
    (ho : ∀ old ∈ s.stored, number < old.1 → old.2.version = snap.version) :
    ∀ old ∈ s.stored, old.2.version ≤ snap.version := by
  intro old hold
  rcases lt_or_ge number old.1 with hlt | hle
  · exact ho old hold hlt ▸ UInt64.le_refl _
  · exact version_le_of_number_le h.replies (h.stored old hold) hr hle

lemma store (h : History s) {now} (hrp : (number, snap) ∈ s.replies)
    (ho : ∀ old ∈ s.stored, number < old.1 → old.2.version = snap.version) :
    History { s.store snap with
      calls := calls, aclLastOk := now, stored := (number, snap) :: s.stored } := by
  refine { h with
    stored := fun r hr => ?_
    blocked := fun acl ha => ?_
    newest := fun acl ha => .inr fun old hold => ?_
    evaluated := Nat.le_succ_of_le h.evaluated }
  · rcases mem_cons.1 hr with rfl | hr
    · exact hrp
    · exact h.stored r hr
  · cases ha
    rfl
  · cases ha
    rcases mem_cons.1 hold with rfl | hold
    · exact UInt64.le_refl _
    · exact h.version_le hrp ho old hold

lemma goStale (h : History s) (acl : AclSnapshot) :
    History { s.store (staleAclPlaceholder acl) with calls := calls } := by
  refine { h with
    blocked := fun acl' ha' => ?_
    newest := fun acl' ha' => ?_
    evaluated := Nat.le_succ_of_le h.evaluated }
  · cases ha'
    rfl
  · cases ha'
    exact .inl rfl

lemma react (h : History s) (d : DeviceDirective) : History (s.react d) := by
  cases d with
  | renewSoon => exact h
  | revoked | reEnrollRequired =>
    exact { h with
      blocked := by rintro _ ⟨⟩
      newest := by rintro _ ⟨⟩ }

end History

lemma blockedKept_of_eq {s} (h : s'.blocked = s.blocked) : BlockedKept s s' :=
  fun _ hid hid' => absurd (h ▸ hid) hid'

/-! ### The calls -/

/-- What a call has stored has a lower number than what follows; it has been evaluated when the
call is answered. -/
def Sound (s : State) : Call → Prop
  | ⟨caller, .replied old (.snapshot snapshot) number⟩ =>
    (number, snapshot) ∈ s.replies ∧ (caller ≠ .startup → old ≠ some snapshot.version)
  | ⟨caller, .synced changed stored⟩ =>
    ∀ n ∈ stored, n ≤ s.stores ∧ (caller ≠ .startup → changed = true)
  | ⟨_, .queued _ stored⟩ => ∀ n ∈ stored, n ≤ s.stores
  | ⟨caller, .passing _ stored⟩ | ⟨caller, .answered _ stored⟩ | ⟨caller, .returned stored⟩ =>
    caller ≠ .startup → ∀ n ∈ stored, n ≤ s.evaluated
  | ⟨_, .begun _⟩ | ⟨_, .replied ..⟩ => True

/-- What a step keeps for the calls that it does not concern. -/
structure Frame (s s' : State) : Prop where
  replies : ∀ r ∈ s.replies, r ∈ s'.replies
  stores : s.stores ≤ s'.stores
  evaluated : s.evaluated ≤ s'.evaluated

lemma Sound.of_frame {s} (hf : Frame s s') {call} (h : Sound s call) : Sound s' call := by
  obtain ⟨caller, phase⟩ := call
  cases phase with
  | begun old => trivial
  | replied old out number =>
    cases out with
    | snapshot snapshot => exact ⟨hf.replies _ h.1, h.2⟩
    | upToDate | directive => trivial
  | synced changed stored => exact fun n hn => ⟨(h n hn).1.trans hf.stores, (h n hn).2⟩
  | queued changed stored => exact fun n hn => (h n hn).trans hf.stores
  | passing changed stored | answered changed stored | returned stored =>
    exact fun hc n hn => (h hc n hn).trans hf.evaluated

structure Inv (s : State) : Prop where
  history : History s
  calls : ∀ c call, s.calls.lookup c = some call → Sound s call

lemma Inv.of_call {s} (h : Inv s) (hh : History s') (hf : Frame s s')
    (hc : s'.calls = s.calls.insert c call) (hn : Sound s' call) : Inv s' := by
  refine ⟨hh, fun c' call' hc' => ?_⟩
  rw [hc] at hc'
  rcases lookup_insert_eq_some.1 hc' with ⟨-, rfl⟩ | ⟨-, hold⟩
  · exact hn
  · exact (h.calls c' call' hold).of_frame hf

lemma Inv.setPhase {s} (h : Inv s) (hn : Sound s ⟨caller, phase⟩) :
    Inv (s.setPhase c caller phase) := by
  have hf : Frame s (s.setPhase c caller phase) := ⟨fun _ => id, le_rfl, le_rfl⟩
  exact h.of_call { h.history with } hf rfl (hn.of_frame hf)

lemma Inv.of_mapPhases {s : State} (h : Inv s) (hh : History s')
    (hc : s'.calls = (s.mapPhases f).calls)
    (hn : ∀ c call, s.calls.lookup c = some call → Sound s call →
      Sound s' { call with phase := f call.phase }) :
    Inv s' := by
  refine ⟨hh, fun c call' hc' => ?_⟩
  rw [hc, State.mapPhases, lookup_mapValues] at hc'
  obtain ⟨call, hcl, rfl⟩ := Option.map_eq_some_iff.1 hc'
  exact hn c call hcl (h.calls c call hcl)

/-! ### One step -/

lemma inv_step (s : State) (a : Action) (s' : State) (h : Inv s) (hok : Orderly s a)
    (hs : step s a = some s') : Inv s' := by
  cases steps_of_step hs with
  | publish hnew =>
    exact ⟨h.history.publish hnew, fun c call hcl => (h.calls c call hcl).of_frame
      ⟨fun _ => id, le_rfl, le_rfl⟩⟩
  | begin_ | replyDirective => exact h.setPhase trivial
  | replyList hcl hp =>
    -- A snapshot is sent to a client that knows another version.
    refine h.of_call (h.history.reply hp) ⟨fun r hr => mem_cons_of_mem _ hr, le_rfl, le_rfl⟩ rfl ?_
    simp only [getAclSnapshot]
    split
    · trivial
    · next hk =>
      refine ⟨mem_cons_self, fun hc hold => ?_⟩
      subst hold
      simp only [knownVersion, hc, if_false, Option.getD_some, and_true, not_not] at hk
      exact hok _ hcl (by rw [hk]) _ (congrArg List.head? hp) hk
  | fail hcl =>
    refine h.setPhase ?_
    rintro n ⟨⟩
  | handleSnapshot hcl now =>
    obtain ⟨hrp, hch⟩ := h.calls _ _ hcl
    refine h.of_call (h.history.store hrp (hok _ hcl _ rfl))
      ⟨fun _ => id, Nat.le_succ _, le_rfl⟩ rfl ?_
    intro n hn
    cases hn
    exact ⟨le_rfl, fun hc => decide_eq_true (hch hc)⟩
  | handleUpToDate hcl now =>
    refine h.of_call { h.history with } ⟨fun _ => id, le_rfl, le_rfl⟩ rfl ?_
    rintro n ⟨⟩
  | handleDirective hcl now =>
    next d _ _ =>
    have hh := h.history.react d
    cases d <;>
      refine h.of_call { hh with } ⟨fun _ => id, le_rfl, le_rfl⟩ rfl ?_ <;>
      rintro n ⟨⟩
  | goStale hcl ha now =>
    refine h.of_call (h.history.goStale _) ⟨fun _ => id, Nat.le_succ _, le_rfl⟩ rfl ?_
    intro n hn
    cases hn
    exact ⟨le_rfl, fun _ => rfl⟩
  | request hcl => exact h.setPhase fun n hn => (h.calls _ _ hcl n hn).1
  | skip hcl hsk =>
    -- What is stored counts as a change, so nothing was.
    refine h.setPhase ?_
    intro hc n hn
    rcases hsk with hsm | hst
    · cases hsm.symm.trans ((h.calls _ _ hcl n hn).2 hc)
    · exact absurd hst hc
  | startPass =>
    -- What is stored when a pass starts is what it evaluates.
    refine h.of_mapPhases { h.history with evaluated := le_rfl } rfl ?_
    rintro c ⟨caller, phase⟩ - hsn
    have hf : Frame s { s with evaluated := s.stores } := ⟨fun _ => id, le_rfl, h.history.evaluated⟩
    cases phase with
    | queued changed stored => exact fun _ n hn => hsn n hn
    | begun | replied | synced | passing | answered | returned => exact hsn.of_frame hf
  | finishPass ok =>
    refine h.of_mapPhases { h.history with } rfl ?_
    rintro c ⟨caller, phase⟩ hcl hsn
    cases phase with
    | queued changed stored =>
      rcases hok with rfl | hnn
      · exact hsn
      · cases hnn ⟨c, _⟩ (AList.mem_lookup_iff.1 hcl)
    | begun | replied | synced | passing | answered | returned => exact hsn
  | bringUp hcl early =>
    cases early with
    | false =>
      refine h.of_call { h.history with evaluated := le_rfl }
        ⟨fun _ => id, le_rfl, h.history.evaluated⟩ rfl ?_
      exact fun _ n hn => (h.calls _ _ hcl n hn).1
    | true =>
      obtain rfl := hok rfl _ hcl
      refine h.of_call { h.history with } ⟨fun _ => id, le_rfl, le_rfl⟩ rfl ?_
      rintro - n ⟨⟩
  | return_ hcl =>
    have hsn := h.calls _ _ hcl
    exact h.setPhase hsn

/-- A connector leaves the blocked set by a newer snapshot only. -/
lemma blockedKept_step {s : State} (h : Inv s) (hok : Orderly s a) (hs : step s a = some s') :
    BlockedKept s s' := by
  cases steps_of_step hs with
  | handleSnapshot hc now =>
    have hr := (h.calls _ _ hc).1
    intro id _ hid
    refine ⟨_, _, rfl, hid, fun old hold hl => ?_⟩
    have hle := h.history.version_le hr (hok _ hc _ rfl) old hold
    refine UInt64.lt_of_le_of_ne hle fun heq => hid ?_
    -- a snapshot of the same version would list the connector too
    have hsm := eq_of_version_eq h.history.published
      (h.history.replied old (h.history.stored old hold)).2 (h.history.replied _ hr).2 heq
    rw [hsm] at hl
    exact hl
  | handleDirective hc now =>
    next d _ _ => cases d <;> exact blockedKept_of_eq rfl
  | goStale hc ha now =>
    -- the placeholder keeps the revoked connectors
    have hsm := h.history.blocked _ ha
    exact blockedKept_of_eq hsm
  | publish | begin_ | replyDirective | replyList | fail | handleUpToDate | request | skip
  | startPass | finishPass | bringUp | return_ => exact blockedKept_of_eq rfl

lemma inv_initial (first : AclSnapshot) : Inv (initial first) where
  history :=
    { published := pairwise_singleton _ _
      replies := List.Pairwise.nil
      replied := nofun
      stored := nofun
      blocked := nofun
      newest := nofun
      evaluated := le_rfl }
  calls c call hc := by cases hc

lemma Inv.evaluated {s} (h : Inv s) : Evaluated s :=
  fun c _ n hcl hc => h.calls c _ hcl hc n rfl

/-- **The client's list does not go back** in an orderly run. -/
theorem newest_of_orderly (first : AclSnapshot) (acts : List Action)
    (hmeets : Meets step Orderly (initial first) acts) :
    Always step (fun s _ s' => Newest s' ∧ BlockedKept s s' ∧ Evaluated s')
      (initial first) acts := by
  refine always_of_meets inv_step (fun s a s' h hok hs => ?_) (inv_initial first) hmeets
  have hi := inv_step s a s' h hok hs
  exact ⟨hi.history.newest, blockedKept_step h hok hs, hi.evaluated⟩

/-! ### The log, and each call -/

/-- The call is over, but for its return. -/
def Phase.finished : Phase → Bool
  | .answered .. | .returned _ => true
  | _ => false

def Call.snapshot : Call → Option AclSnapshot
  | ⟨_, .replied _ (.snapshot snapshot) _⟩ => some snapshot
  | _ => none

/-- A tick whose snapshot is of another version than the one it knew. -/
def Call.changes : Call → Bool
  | ⟨.tick, .replied old (.snapshot snapshot) _⟩ => old ≠ some snapshot.version
  | _ => false

/-- A tick that has changed the list, before it returns. -/
def Call.closing : Call → Bool
  | ⟨.tick, .synced changed _⟩ | ⟨.tick, .queued changed _⟩ | ⟨.tick, .passing changed _⟩
  | ⟨.tick, .answered changed _⟩ => changed
  | _ => false

lemma store_step {s} (hs : step s a = some s') :
    s'.log = s.log ∧ s'.stores = s.stores ∧ s'.blocked = s.blocked ∨
      ∃ acl, s'.log = (s.stores + 1, acl) :: s.log ∧ s'.stores = s.stores + 1 ∧
        s'.blocked = revokedConnectorIds acl := by
  cases steps_of_step hs with
  | handleSnapshot | goStale => exact .inr ⟨_, rfl, rfl, rfl⟩
  | handleDirective hc now => next d _ _ => cases d <;> exact .inl ⟨rfl, rfl, rfl⟩
  | publish | begin_ | replyDirective | replyList | fail | handleUpToDate | request | skip
  | startPass | finishPass | bringUp | return_ => exact .inl ⟨rfl, rfl, rfl⟩

/-- What a step does with one call. -/
inductive Moves (s s' : State) (a : Action) (c : CallId) : Prop
  | same (h : s'.calls.lookup c = s.calls.lookup c)
  | unstored (call' : Call) (hcall' : s'.calls.lookup c = some call')
      (hstored : call'.phase.stored = none)
      (hunfinished : ∀ call, s.calls.lookup c = some call → call.phase.finished = false)
  | moved (call call' : Call) (hcall : s.calls.lookup c = some call)
      (hcall' : s'.calls.lookup c = some call')
      (hstored : call'.phase.stored = call.phase.stored)
      (hfinished : call.phase.finished = true → call'.phase.finished = true)
      (hclosing : call.closing = true → call'.closing = true ∨ a = .return_ c)
  /-- it stores a snapshot, and will close flows if it is a tick to which the list is new -/
  | stores (call call' : Call) (hcall : s.calls.lookup c = some call)
      (hcall' : s'.calls.lookup c = some call') (hunfinished : call.phase.finished = false)
      (hstores : s'.stores = s.stores + 1) (hstored : call'.phase.stored = some (s.stores + 1))
      (hclosing : call'.closing = true ∨ ∃ now snapshot, a = .handle c now ∧
        call.snapshot = some snapshot ∧ call.changes = false ∧
        s'.log = (s.stores + 1, snapshot) :: s.log)

lemma Moves.finished {s} (h : Moves s s' a c) (hc : s.calls.lookup c = some call)
    (hf : call.phase.finished = true) :
    ∃ call', s'.calls.lookup c = some call' ∧ call'.phase.finished = true ∧
      call'.phase.stored = call.phase.stored := by
  cases h with
  | same h => exact ⟨call, h.trans hc, hf, rfl⟩
  | unstored _ _ _ hu => simp [hu call hc] at hf
  | moved old call' hold hc' hs hst _ =>
    cases hc.symm.trans hold
    exact ⟨call', hc', hst hf, hs⟩
  | stores old call' hold _ hu =>
    cases hc.symm.trans hold
    simp [hu] at hf

lemma Moves.of_stored {s} (h : Moves s s' a c) (hc' : s'.calls.lookup c = some call') {n}
    (hn : n ∈ call'.phase.stored) :
    (∃ call, s.calls.lookup c = some call ∧ n ∈ call.phase.stored ∧
      (call.closing = true → call'.closing = true ∨ a = .return_ c)) ∨
    n = s.stores + 1 ∧ s'.stores = s.stores + 1 ∧ (call'.closing = true ∨
      ∃ call now snapshot, s.calls.lookup c = some call ∧ a = .handle c now ∧
        call.snapshot = some snapshot ∧ call.changes = false ∧
        s'.log = (s.stores + 1, snapshot) :: s.log) := by
  cases h with
  | same h => exact .inl ⟨call', h.symm.trans hc', hn, .inl⟩
  | unstored new hnew hs _ =>
    cases hc'.symm.trans hnew
    rw [hs] at hn
    cases hn
  | moved call new hcl hnew hs _ hc =>
    cases hc'.symm.trans hnew
    exact .inl ⟨call, hcl, hs ▸ hn, hc⟩
  | stores call new hcl hnew _ hst hs hc =>
    cases hc'.symm.trans hnew
    cases hs.symm.trans hn
    refine .inr ⟨rfl, hst, hc.imp_right ?_⟩
    rintro ⟨now, snapshot, hh⟩
    exact ⟨call, now, snapshot, hcl, hh⟩

lemma Moves.of_insert {s} (hcl : s'.calls = s.calls.insert c' call')
    (h : s'.calls.lookup c' = some call' → Moves s s' a c') : Moves s s' a c := by
  by_cases hc : c = c'
  · subst hc
    exact h (by rw [hcl, AList.lookup_insert])
  · exact .same (by rw [hcl, AList.lookup_insert_ne hc])

lemma Moves.of_unstored {s} (hcl : s.calls.lookup c' = some call)
    (hu : call.phase.finished = false) (hc : s'.calls = s.calls.insert c' call')
    (hs : call'.phase.stored = none) : Moves s s' a c := by
  refine .of_insert hc fun hc' => .unstored _ hc' hs fun old hold => ?_
  cases hcl.symm.trans hold
  exact hu

lemma Moves.of_synced {s stored}
    (hcll : s.calls.lookup c' = some ⟨caller, .synced changed stored⟩)
    (hcl : s'.calls = s.calls.insert c' ⟨caller, phase⟩)
    (hp : phase = .queued changed stored ∨ phase = .answered changed stored) : Moves s s' a c := by
  refine .of_insert hcl fun hc' => ?_
  rcases hp with rfl | rfl
  all_goals
    refine .moved _ _ hcll hc' rfl (by rintro ⟨⟩) fun hc => .inl ?_
    cases caller <;> exact hc

lemma Moves.of_mapPhases {s : State} (hcl : s'.calls = (s.mapPhases f).calls)
    (hs : ∀ phase, (f phase).stored = phase.stored)
    (hf : ∀ phase, phase.finished = true → (f phase).finished = true)
    (hc : ∀ caller phase, Call.closing ⟨caller, phase⟩ = true →
      Call.closing ⟨caller, f phase⟩ = true) :
    Moves s s' a c := by
  have hl : s'.calls.lookup c =
      (s.calls.lookup c).map fun call => { call with phase := f call.phase } := by
    rw [hcl, State.mapPhases, lookup_mapValues]
  cases hcll : s.calls.lookup c with
  | none => exact .same (by rw [hl, hcll, Option.map_none])
  | some call =>
    rw [hcll] at hl
    exact .moved call _ hcll hl (hs _) (hf _) fun h =>
      .inl (hc _ _ h)

lemma moves_step {s} (c : CallId) (hs : step s a = some s') : Moves s s' a c := by
  cases steps_of_step hs with
  | publish hn => exact .same rfl
  | begin_ hfr caller =>
    refine .of_insert rfl fun hc' => .unstored _ hc' rfl fun call hold => ?_
    rw [hfr] at hold
    cases hold
  | replyDirective hcll | replyList hcll | fail hcll | handleUpToDate hcll =>
    exact .of_unstored hcll rfl rfl rfl
  | @handleSnapshot c' caller old snapshot number hcll now =>
    refine .of_insert rfl fun hc' => .stores _ _ hcll hc' rfl rfl rfl ?_
    by_cases hcl : caller = .tick ∧ old ≠ some snapshot.version
    · obtain ⟨rfl, hne⟩ := hcl
      exact .inl (decide_eq_true hne)
    · refine .inr ⟨now, snapshot, rfl, rfl, ?_, rfl⟩
      cases caller with
      | tick => exact decide_eq_false fun hne => hcl ⟨rfl, hne⟩
      | sync | resources | login | up | startup => rfl
  | handleDirective hcll now =>
    next d _ _ => cases d <;> exact .of_unstored hcll rfl rfl rfl
  | goStale hcll ha now =>
    exact .of_insert rfl fun hc' => .stores _ _ hcll hc' rfl rfl rfl (.inl rfl)
  | request hcll => exact .of_synced hcll rfl (.inl rfl)
  | skip hcll | bringUp hcll => exact .of_synced hcll rfl (.inr rfl)
  | startPass =>
    refine .of_mapPhases rfl ?_ ?_ ?_
    · intro phase
      cases phase <;> rfl
    · intro phase hf
      cases phase <;> exact hf
    · intro caller phase hc
      cases caller <;> cases phase <;> exact hc
  | finishPass ok =>
    refine .of_mapPhases rfl ?_ ?_ ?_
    · intro phase
      cases phase <;> cases ok <;> rfl
    · intro phase hf
      cases phase <;> first | exact hf | cases hf
    · intro caller phase hc
      cases caller <;> cases phase <;> cases ok <;> exact hc
  | return_ hcll =>
    exact .of_insert rfl fun hc' =>
      .moved _ _ hcll hc' rfl (fun _ => rfl) fun _ => .inr rfl

/-! ### Two calls at once -/

/-- A snapshot that lists the given connectors as revoked. -/
def revoking (version : UInt64) (connectorIds : List String) : AclSnapshot where
  version := version
  workspaceId := "ws"
  generatedAt := 0
  entries := []
  relayAddr := ""
  relaySpiffeId := ""
  remoteNetworks := []
  revokedConnectors := connectorIds.map fun id => ⟨id, ""⟩

/-- A connector is revoked between the replies to a request `Sync` and to a tick. -/
def twoReplies : List Action :=
  [.begin_ 0 .sync, .begin_ 1 .tick, .reply 0 none, .publish (revoking 2 ["conn-a"]),
    .reply 1 none]

/-- Both calls ask for an evaluation, and return after it. -/
def bothReturn : List Action :=
  [.request 0, .request 1, .startPass, .finishPass true, .return_ 0, .return_ 1]

theorem newest_twoReplies :
    Meets step Orderly (initial (revoking 1 []))
        (twoReplies ++ [Action.handle 0 10, .handle 1 11] ++ bothReturn) ∧
      (exec step (initial (revoking 1 []))
        (twoReplies ++ [Action.handle 0 10, .handle 1 11] ++ bothReturn)).isSome ∧
      Always step (fun s _ s' => Newest s' ∧ BlockedKept s s' ∧ Evaluated s')
        (initial (revoking 1 []))
        (twoReplies ++ [Action.handle 0 10, .handle 1 11] ++ bothReturn) := by
  have hm : Meets step Orderly (initial (revoking 1 []))
      (twoReplies ++ [Action.handle 0 10, .handle 1 11] ++ bothReturn) := by decide
  exact ⟨hm, rfl, newest_of_orderly _ _ hm⟩

/-- The tick's snapshot is stored first: the version goes back, and the revoked connector is no
longer blocked. -/
theorem laterReplyFirst_goesBack :
    ∃ s s', exec step (initial (revoking 1 [])) (twoReplies ++ [Action.handle 1 10]) = some s ∧
      step s (.handle 0 11) = some s' ∧
      s.acl.map AclSnapshot.version = some 2 ∧ s.blocked = ["conn-a"] ∧
      s'.acl.map AclSnapshot.version = some 1 ∧ s'.blocked = [] ∧
      ¬ Newest s' ∧ ¬ BlockedKept s s' := by
  refine ⟨_, _, rfl, rfl, rfl, rfl, rfl, rfl, fun h => ?_, fun h => ?_⟩
  · rcases h _ rfl with hst | hn
    · revert hst
      decide
    · exact absurd (hn _ (mem_cons_of_mem _ mem_cons_self)) (by decide)
  · obtain ⟨number, acl, hs, -, hnw⟩ := h "conn-a" (by decide) (by decide)
    obtain ⟨hh, -⟩ := cons_eq_cons.1 hs
    obtain ⟨-, rfl⟩ := Prod.mk.inj hh
    exact absurd (hnw _ mem_cons_self (by decide)) (by decide)

/-- A pass fails while a second request waits: what the second call stored is not evaluated. -/
theorem failedPass_notEvaluated :
    ∃ s, exec step (initial (revoking 1 []))
        (twoReplies ++ [Action.handle 0 10, .request 0, .startPass, .handle 1 11, .request 1,
          .finishPass false, .return_ 1]) = some s ∧ ¬ Evaluated s := by
  refine ⟨_, rfl, fun h => ?_⟩
  exact absurd (h 1 .tick 2 rfl (by decide)) (by decide)

end Zecurity.ClientAcl
