import Mathlib.Data.List.Rotate
import Zecurity.FiniteMap
import Zecurity.Runs

/-!
The connector's relay selector and the sessions that it spawns
(`connector/src/relay_selector.rs`; `connector/src/relay_client.rs`, `run_session`).

The selector is one task; a session is a task of its own, which publishes its attachment when it
has registered, signals the selector, and takes the attachment back when it ends. An aborted
session ends at its next await, so it may take further steps. Probe results, the persisted ranking
and the choice of a random order are what they happen to be.
-/

namespace Zecurity.RelaySelector

open AList FiniteMap List Option Runs

/-! ### Lists and rankings -/

inductive Capacity
  | high
  | medium
  | other
  deriving DecidableEq

structure RelayInfo where
  relayId : String
  spiffeId : String
  label : Capacity
  deriving DecidableEq

structure RelayList where
  version : ℕ
  relays : List RelayInfo
  deriving DecidableEq

def RelayList.find (list : RelayList) (relayId : String) : Option RelayInfo :=
  list.relays.find? (·.relayId == relayId)

/-- The persisted ranking: whether it is fresh, and the relays, best first. -/
structure Ranking where
  listVersion : ℕ
  fresh : Bool
  entries : List String

def Ranking.validEntries (r : Ranking) (list : RelayList) : List String :=
  r.entries.filter fun id => list.relays.any (·.relayId == id)

def rankedTargets (ranking : Option Ranking) (list : RelayList) : List RelayInfo :=
  (ranking.elim [] (·.validEntries list)).filterMap list.find

def warmCandidate (ranking : Option Ranking) (list : RelayList) : Option RelayInfo :=
  ranking.bind fun r =>
    if r.fresh && r.listVersion == list.version then (r.validEntries list).head?.bind list.find
    else none

def randomPickOrder (list : RelayList) (nanos : ℕ) : List RelayInfo :=
  (list.relays.filter (·.label = .high)).rotate nanos ++
    (list.relays.filter (·.label = .medium)).rotate nanos

/-- The relays that `bootstrap` tries; an empty list gives none. -/
def bootstrapCandidates (ranking : Option Ranking) (list : RelayList) (nanos : ℕ) :
    List RelayInfo :=
  (warmCandidate ranking list).toList ++ randomPickOrder list nanos

def buildMigrationCandidates (ranking : Option Ranking) (list : RelayList) (oldRelayId : String)
    (preferred : Option RelayInfo) : List RelayInfo :=
  ((preferred.bind fun p => list.find p.relayId).toList ++ rankedTargets ranking list ++
    list.relays).foldl (fun acc info =>
      if info.relayId = oldRelayId ∨ acc.any (·.relayId == info.relayId) then acc
      else acc ++ [info]) []

/-! ### Sessions -/

structure RelayAttachment where
  relayId : String
  relaySpiffeId : String
  deriving DecidableEq

/-- `strip_prefix("spiffe://zecurity.in/relay/")` -/
def relayIdOf (spiffeId : String) : Option String :=
  let start := "spiffe://zecurity.in/relay/".toList
  if start.isPrefixOf spiffeId.toList then some (String.ofList (spiffeId.toList.drop start.length))
  else none

/-- How far `run_session` has come; `registered`: the selector was signalled. -/
inductive Phase
  | dialing
  | published
  /-- the selector is signalled; the streams are handled -/
  | serving
  /-- the attachment is still to be taken back -/
  | closing (registered : Bool)
  | closed (registered : Bool)
  | ended (registered : Bool)
  deriving DecidableEq

def Phase.over : Phase → Bool
  | .ended _ => true
  | _ => false

/-- The sender of the signal is still there. -/
def Phase.pending : Phase → Bool
  | .dialing | .published => true
  | _ => false

def Phase.registered : Phase → Bool
  | .dialing | .published => false
  | .serving => true
  | .closing b | .closed b | .ended b => b

inductive Event
  | reject
  | fail
  | publish
  | signal
  | close
  | clear
  | finish
  | crash
  | cancel
  deriving DecidableEq

def Phase.after : Phase → Event → Option Phase
  | .dialing, .reject => some (.ended false)
  | .dialing, .fail => some (.closing false)
  | .dialing, .publish => some .published
  | .published, .signal => some .serving
  | .serving, .close => some (.closing true)
  | .closing b, .clear => some (.closed b)
  | .closed b, .finish => some (.ended b)
  | .ended _, _ => none
  | p, .crash | p, .cancel => some (.ended p.registered)
  | _, _ => none

structure Session where
  info : RelayInfo
  phase : Phase
  aborted : Bool
  deriving DecidableEq

def Session.may (x : Session) : Event → Bool
  | .reject => (relayIdOf x.info.spiffeId).isNone
  | .fail | .publish => (relayIdOf x.info.spiffeId).isSome
  | .cancel => x.aborted
  | _ => true

/-- `set_active` and `clear_active_if_relay` -/
def Session.slotAfter (x : Session) (slot : Option RelayAttachment) :
    Event → Option RelayAttachment
  | .publish => (relayIdOf x.info.spiffeId).map fun id => ⟨id, x.info.spiffeId⟩
  | .clear => slot.filter fun a => some a.relayId != relayIdOf x.info.spiffeId
  | _ => slot

/-! ### The selector -/

abbrev SessionId := ℕ

inductive SelectorState
  | disconnected
  | connected (active : SessionId)
  | backoff
  deriving DecidableEq

/-- Whose loop over relays a connect attempt belongs to. -/
inductive Attempt
  | bootstrap
  /-- `failover`, over the ranking: each attempt has a budget -/
  | ranked (list : RelayList)
  | probed
  | migrate (old : SessionId)
  deriving DecidableEq

/-- Where the selector waits. -/
inductive Control
  | top (state : SelectorState)
  /-- for the signal of the session, with the relays still to try -/
  | connecting (attempt : Attempt) (target : SessionId) (rest : List RelayInfo)
  | probing (list : RelayList)
  /-- for the streams of the old session -/
  | draining (old new : SessionId)
  | stopped
  deriving DecidableEq

structure State where
  sessions : Map SessionId Session
  spawned : ℕ
  slot : Option RelayAttachment
  control : Control
  list : Option RelayList
  /-- what the controller pushed last -/
  pushed : Option RelayList
  terminal : Bool

def start (list : Option RelayList) : State where
  sessions := ∅
  spawned := 0
  slot := none
  control := .top .disconnected
  list := list
  pushed := list
  terminal := false

def State.spawnSession (s : State) (info : RelayInfo) : State :=
  { s with
    sessions := s.sessions.insert s.spawned ⟨info, .dialing, false⟩
    spawned := s.spawned + 1 }

/-- The next relay of a loop, or what comes after the loop. -/
def State.tryNext (s : State) (attempt : Attempt) : List RelayInfo → State
  | [] =>
    { s with
      control :=
        match attempt with
        | .bootstrap | .probed => .top .backoff
        | .ranked list => .probing list
        | .migrate old => .top (.connected old) }
  | info :: rest =>
    { s.spawnSession info with control := .connecting attempt s.spawned rest }

def State.abort (s : State) (i : SessionId) : State :=
  { s with
    sessions := mapValues s.sessions fun k x => if k = i then { x with aborted := true } else x }

/-- The end of `reprobe_and_maybe_migrate`; `target`: the relay that the sweep chose. -/
def State.reprobed (s : State) (active : SessionId) (x : Session) (list : RelayList)
    (ranking : Option Ranking) (target : Option RelayInfo) : State :=
  match target with
  | none => s
  | some info =>
    s.tryNext (.migrate active)
      (buildMigrationCandidates ranking list x.info.relayId (some info))

inductive Action
  | push (list : RelayList)
  | terminal
  | session (i : SessionId) (e : Event)
  | receiveList
  | stopOnTerminal
  | bootstrap (ranking : Option Ranking) (nanos : ℕ)
  /-- the active session's task has ended -/
  | failover (ranking : Option Ranking)
  | listChange (ranking : Option Ranking) (target : Option RelayInfo)
  | reprobe (ranking : Option Ranking) (target : Option RelayInfo)
  /-- the end of a backoff, by a new list or not -/
  | wake (changed : Bool)
  | registered
  | refused
  /-- the budget of an attempt is over: its future is dropped -/
  | timeout
  /-- the probes of `failover`, best first -/
  | probed (results : List String)
  | drained

def step (s : State) : Action → Option State
  | .push list => some { s with pushed := some list }
  | .terminal => some { s with terminal := true }
  | .session i e =>
    (s.sessions.lookup i).bind fun x =>
      (x.phase.after e).bind fun p =>
        if x.may e then
          some { s with
            sessions := s.sessions.insert i { x with phase := p }
            slot := x.slotAfter s.slot e }
        else none
  | .receiveList =>
    match s.control, s.list with
    | .top _, none => some { s with list := s.pushed }
    | _, _ => none
  | .stopOnTerminal =>
    match s.control, s.terminal with
    | .top (.connected a), true => some { s.abort a with slot := none, control := .stopped }
    | .top _, true => some { s with slot := none, control := .stopped }
    | _, _ => none
  | .bootstrap ranking nanos =>
    match s.control, s.list with
    | .top .disconnected, some list =>
      some (s.tryNext .bootstrap (bootstrapCandidates ranking list nanos))
    | _, _ => none
  | .failover ranking =>
    match s.control, s.list with
    | .top (.connected a), some list =>
      (s.sessions.lookup a).bind fun x =>
        if x.phase.over then some (s.tryNext (.ranked list) (rankedTargets ranking list)) else none
    | _, _ => none
  | .listChange ranking target =>
    match s.control, s.list with
    | .top (.connected a), some list =>
      (s.sessions.lookup a).map fun x =>
        let now := s.pushed.getD list
        let s := { s with list := s.pushed }
        if now.relays.any (·.relayId == x.info.relayId) then s.reprobed a x now ranking target
        else s.tryNext (.migrate a) (buildMigrationCandidates ranking now x.info.relayId none)
    | _, _ => none
  | .reprobe ranking target =>
    match s.control, s.list with
    | .top (.connected a), some list =>
      (s.sessions.lookup a).map fun x => s.reprobed a x list ranking target
    | _, _ => none
  | .wake changed =>
    match s.control with
    | .top .backoff =>
      some { s with
        list := if changed then s.pushed.or s.list else s.list
        control := .top .disconnected }
    | _ => none
  | .registered =>
    match s.control with
    | .connecting attempt i _ =>
      (s.sessions.lookup i).bind fun x =>
        if x.phase.registered then
          match attempt with
          | .migrate old => some { s with control := .draining old i }
          | _ => some { s with control := .top (.connected i) }
        else none
    | _ => none
  | .refused =>
    match s.control with
    | .connecting attempt i rest =>
      (s.sessions.lookup i).bind fun x =>
        if !x.phase.pending && !x.phase.registered then
          some ((s.abort i).tryNext attempt rest)
        else none
    | _ => none
  | .timeout =>
    match s.control with
    | .connecting (.ranked list) _ rest => some (s.tryNext (.ranked list) rest)
    | _ => none
  | .probed results =>
    match s.control with
    | .probing list => some (s.tryNext .probed (results.filterMap list.find))
    | _ => none
  | .drained =>
    match s.control with
    | .draining old new => some { s.abort old with control := .top (.connected new) }
    | _ => none

/-! ### No stray session -/

/-- The task has ended or been aborted. -/
def Session.stopped (x : Session) : Bool := x.phase.over || x.aborted

/-- At the top of the loop only the active session is left, and the attachment is its relay's; once
the selector has stopped none is left. -/
def NoStray (s : State) : Prop :=
  match s.control with
  | .top state =>
    (∀ i x, s.sessions.lookup i = some x → state ≠ .connected i → x.stopped = true) ∧
      ∀ a, s.slot = some a → ∃ i x, state = .connected i ∧ s.sessions.lookup i = some x ∧
        relayIdOf x.info.spiffeId = some a.relayId ∧ a.relaySpiffeId = x.info.spiffeId
  | .stopped => ∀ i x, s.sessions.lookup i = some x → x.stopped = true
  | _ => True

/-- The session whose connect attempt is given up for its budget. -/
def Action.abandons (s : State) : Action → Option Session
  | .timeout =>
    match s.control with
    | .connecting _ i _ => s.sessions.lookup i
    | _ => none
  | _ => none

/-- The session that panics. -/
def Action.panics (s : State) : Action → Option Session
  | .session i .crash => s.sessions.lookup i
  | _ => none

/-- No attempt is given up while its session runs, and no session panics while its relay is
published. -/
def Tidy (s : State) (a : Action) : Prop :=
  (∀ x ∈ a.abandons s, x.phase.over = true) ∧
    ∀ x ∈ a.panics s, ∀ att ∈ s.slot, relayIdOf x.info.spiffeId ≠ some att.relayId

instance (s : State) (a : Action) : Decidable (Tidy s a) := inferInstanceAs (Decidable (_ ∧ _))

/-! ### Phases -/

/-- The session has published its attachment, or had. -/
def Phase.announced (p : Phase) : Bool := p == .published || p.registered

/-- The attachment is published and not yet taken back. -/
def Phase.attached : Phase → Bool
  | .published | .serving | .closing true => true
  | _ => false

section Phases

variable {p p' : Phase} {e : Event}

lemma dialing_of_publish (h : p.after .publish = some p') : p = .dialing ∧ p' = .published := by
  cases p <;> cases h
  exact ⟨rfl, rfl⟩

lemma over_after (h : p.after e = some p') : p.over = false := by
  cases p with
  | ended b => cases h
  | _ => rfl

lemma registered_after (h : p.after e = some p') (hp : p.registered = true) :
    p'.registered = true := by
  cases p <;> cases e <;> cases h <;> first | exact hp | rfl

lemma pending_after (h : p.after e = some p') (hp : p.pending = false) : p'.pending = false := by
  cases p <;> cases e <;> cases h <;> first | rfl | cases hp

lemma announced_after (h : p.after e = some p') (he : e ≠ .publish) (hp : p.announced = false) :
    p'.announced = false := by
  cases p <;> cases e <;> cases h <;> first | exact absurd rfl he | exact hp | rfl

lemma attached_after (h : p.after e = some p') (hp : p.attached = true) :
    p'.attached = true ∨ e = .clear ∨ e = .crash ∨ e = .cancel := by
  cases p <;> cases e <;> cases h <;> first | exact .inl rfl | (cases hp; done) | simp

end Phases

/-! ### What the selector keeps -/

/-- The sessions that the selector has a handle of. -/
def owners : Control → List SessionId
  | .top (.connected a) => [a]
  | .connecting (.migrate old) target _ => [old, target]
  | .connecting _ target _ => [target]
  | .draining old new => [old, new]
  | _ => []

/-- Those of them that have registered. -/
def established : Control → List SessionId
  | .top (.connected a) => [a]
  | .connecting (.migrate old) _ _ => [old]
  | .draining old new => [old, new]
  | _ => []

/-- The session whose attachment may be the published one: of a migration the new one, once it has
published its own. -/
def MayHold (sessions : Map SessionId Session) : Control → SessionId → Prop
  | .top (.connected a), j => j = a
  | .connecting (.migrate old) target _, j =>
    j = target ∨
      j = old ∧ ∃ y, sessions.lookup target = some y ∧ y.phase.announced = false
  | .connecting _ target _, j => j = target
  | .draining _ new, j => j = new
  | _, _ => False

/-- The attachment is the session's, which has not yet taken it back. -/
def Holds (att : RelayAttachment) (x : Session) : Prop :=
  relayIdOf x.info.spiffeId = some att.relayId ∧ att.relaySpiffeId = x.info.spiffeId ∧
    x.phase.attached = true

structure Inv (s : State) : Prop where
  fresh : ∀ i x, s.sessions.lookup i = some x → i < s.spawned
  live : ∀ i x, s.sessions.lookup i = some x → x.stopped = false → i ∈ owners s.control
  /-- who is aborted has signalled, or never will -/
  aborted : ∀ i x, s.sessions.lookup i = some x → x.aborted = true → x.phase.pending = false
  owned : ∀ i ∈ owners s.control, ∃ x, s.sessions.lookup i = some x ∧ x.aborted = false
  apart : (owners s.control).Nodup
  settled : ∀ i ∈ established s.control,
    ∃ x, s.sessions.lookup i = some x ∧ x.phase.registered = true
  slot : ∀ att, s.slot = some att →
    ∃ j x, MayHold s.sessions s.control j ∧ s.sessions.lookup j = some x ∧ Holds att x

variable {sessions : Map SessionId Session} {control : Control} {j k : SessionId} {y : Session}
  {rest : List RelayInfo} {s' : State} {ranking : Option Ranking}

lemma inv_start (list : Option RelayList) : Inv (start list) where
  fresh _ _ h := by cases h
  live _ _ h := by cases h
  aborted _ _ h := by cases h
  owned _ h := by cases h
  apart := nodup_nil
  settled _ h := by cases h
  slot _ h := by cases h

lemma mayHold_mem_owners (h : MayHold sessions control j) : j ∈ owners control := by
  cases control with
  | top state =>
    cases state with
    | connected a => exact mem_singleton.2 h
    | _ => exact h.elim
  | connecting attempt tgt rest =>
    cases attempt with
    | migrate old => rcases h with rfl | ⟨rfl, -⟩ <;> simp [owners]
    | _ => exact mem_singleton.2 h
  | draining old new => simp [owners, show j = new from h]
  | _ => exact h.elim

lemma eq_connected_of_mem_owners {state : SelectorState} {i : SessionId}
    (h : i ∈ owners (.top state)) : state = .connected i := by
  cases state with
  | connected a => rw [mem_singleton.1 h]
  | _ => cases h

lemma Inv.stopped_of_notMem {s : State} (h : Inv s) {i : SessionId} {x : Session}
    (hx : s.sessions.lookup i = some x) (hi : i ∉ owners s.control) : x.stopped = true := by
  by_contra hl
  rw [Bool.not_eq_true] at hl
  exact hi (h.live i x hx hl)

lemma Inv.holder_notAborted {s} (h : Inv s) {x} (hj : MayHold s.sessions s.control j)
    (hx : s.sessions.lookup j = some x) : x.aborted = false := by
  obtain ⟨x', hx', ha⟩ := h.owned j (mayHold_mem_owners hj)
  cases hx.symm.trans hx'
  exact ha

/-! #### Steps of sessions -/

variable {att : RelayAttachment}

section Sessions

variable {s : State} {i : SessionId} {x : Session} {e : Event} {p : Phase}

lemma Inv.publisher (h : Inv s) (hx : s.sessions.lookup i = some x) (hp : x.phase = .dialing) :
    ∃ attempt rest, s.control = .connecting attempt i rest := by
  have hrn : x.stopped = false := by
    have hnot : x.aborted = false := by
      by_contra ha
      rw [Bool.not_eq_false] at ha
      have hpn := h.aborted i x hx ha
      rw [hp] at hpn
      cases hpn
    rw [Session.stopped, hnot, hp]
    rfl
  have hn : i ∉ established s.control := by
    intro hs
    obtain ⟨x', hx', hr⟩ := h.settled i hs
    cases hx.symm.trans hx'
    rw [hp] at hr
    cases hr
  have ho := h.live i x hx hrn
  revert ho hn
  cases s.control with
  | top state => cases state <;> simp [owners, established]
  | connecting attempt tgt rest =>
    cases attempt <;> simp only [owners, established, mem_cons, not_mem_nil, or_false] <;>
      intro hn ho
    case migrate old => exact ⟨_, _, by rw [ho.resolve_left hn]⟩
    all_goals exact ⟨_, _, by rw [ho]⟩
  | draining old new => simp [owners, established]
  | _ => simp [owners]

lemma MayHold.insert (h : MayHold sessions control j) (hx : sessions.lookup i = some x)
    (hp : x.phase.announced = false → p.announced = false) :
    MayHold (sessions.insert i { x with phase := p }) control j := by
  cases control with
  | connecting attempt tgt rest =>
    cases attempt with
    | migrate old => exact h.imp_right fun ⟨hj, ha⟩ => ⟨hj, exists_lookup_insert hx hp ha⟩
    | _ => exact h
  | top state => cases state <;> exact h
  | _ => exact h

lemma relayId_of_slotAfter {slot} (h : x.slotAfter slot .clear = some att) :
    slot = some att ∧ relayIdOf x.info.spiffeId ≠ some att.relayId := by
  obtain ⟨hs, hne⟩ := filter_eq_some_iff.1 h
  exact ⟨hs, fun heq => by simp [heq] at hne⟩

lemma slot_session (h : Inv s) (hx : s.sessions.lookup i = some x) (ha : x.phase.after e = some p)
    (hm : x.may e = true) (hok : Tidy s (.session i e)) (hatt : x.slotAfter s.slot e = some att) :
    ∃ j y, MayHold (s.sessions.insert i { x with phase := p }) s.control j ∧
      (s.sessions.insert i { x with phase := p }).lookup j = some y ∧ Holds att y := by
  by_cases hp : e = .publish
  · subst hp
    obtain ⟨hd, rfl⟩ := dialing_of_publish ha
    obtain ⟨attempt, rest, hc⟩ := h.publisher hx hd
    obtain ⟨id, hid, rfl⟩ := map_eq_some_iff.1 hatt
    refine ⟨i, _, ?_, lookup_insert _, hid, rfl, rfl⟩
    rw [hc]
    cases attempt with
    | migrate old => exact .inl rfl
    | _ => rfl
  · -- the attachment is an old one, and whoever publishes it keeps it
    have hold : s.slot = some att := by
      cases e with
      | publish => exact absurd rfl hp
      | clear => exact (relayId_of_slotAfter hatt).1
      | _ => exact hatt
    obtain ⟨j, y, hj, hy, hh⟩ := h.slot att hold
    refine ⟨j, ?_⟩
    have hj' := hj.insert (p := p) hx (announced_after ha hp)
    by_cases hji : j = i
    · subst hji
      cases hx.symm.trans hy
      refine ⟨_, hj', lookup_insert _, hh.1, hh.2.1, ?_⟩
      rcases attached_after ha hh.2.2 with hatta | rfl | rfl | rfl
      · exact hatta
      · exact absurd hh.1 (relayId_of_slotAfter hatt).2
      · exact absurd hh.1 (hok.2 x hx att hold)
      · rw [Session.may, h.holder_notAborted hj hx] at hm
        cases hm
    · exact ⟨y, hj', (lookup_insert_ne hji).trans hy, hh⟩

end Sessions

/-! #### Steps of the selector -/

/-- Between two attempts of a loop: no session runs but the one to migrate from. -/
structure Ready (s : State) (attempt : Attempt) : Prop where
  fresh : ∀ i x, s.sessions.lookup i = some x → i < s.spawned
  live : ∀ i x, s.sessions.lookup i = some x → x.stopped = false → attempt = .migrate i
  aborted : ∀ i x, s.sessions.lookup i = some x → x.aborted = true → x.phase.pending = false
  old : ∀ i, attempt = .migrate i →
    ∃ x, s.sessions.lookup i = some x ∧ x.aborted = false ∧ x.phase.registered = true
  slot : ∀ att, s.slot = some att →
    ∃ i x, attempt = .migrate i ∧ s.sessions.lookup i = some x ∧ Holds att x

section Selector

variable {s : State} {attempt : Attempt} {i old new : SessionId} {x : Session}

lemma not_attached_of_over {p : Phase} (h : p.over = true) : p.attached = false := by
  cases p with
  | ended b => rfl
  | _ => cases h

lemma not_attached_of_dropped {p : Phase} (hp : p.pending = false)
    (hr : p.registered = false) : p.attached = false := by
  cases p with
  | closing b =>
    obtain rfl : b = false := hr
    rfl
  | dialing | published => cases hp
  | serving => cases hr
  | _ => rfl

lemma not_pending_of_registered {p : Phase} (h : p.registered = true) : p.pending = false := by
  cases p with
  | dialing | published => cases h
  | _ => rfl

lemma inv_exhausted (h : Ready s attempt) : Inv (s.tryNext attempt []) := by
  cases attempt with
  | migrate old =>
    obtain ⟨x, hx, ha, hr⟩ := h.old old rfl
    refine ⟨h.fresh, fun i y hy hl => ?_, h.aborted, fun i hi => ?_, nodup_singleton old,
      fun i hi => ?_, fun att hatt => ?_⟩
    · rw [Attempt.migrate.inj (h.live i y hy hl)]
      exact mem_singleton.2 rfl
    · exact ⟨x, mem_singleton.1 hi ▸ hx, ha⟩
    · exact ⟨x, mem_singleton.1 hi ▸ hx, hr⟩
    · obtain ⟨i, y, hi, hy, hh⟩ := h.slot att hatt
      exact ⟨i, y, (Attempt.migrate.inj hi).symm, hy, hh⟩
  | _ =>
    refine ⟨h.fresh, fun i y hy hl => ?_, h.aborted, by rintro _ ⟨⟩,
      nodup_nil, by rintro _ ⟨⟩, fun att hatt => ?_⟩
    · cases h.live i y hy hl
    · obtain ⟨i, y, hi, -⟩ := h.slot att hatt
      cases hi

lemma inv_attempt (h : Ready s attempt) (info : RelayInfo) (rest : List RelayInfo) :
    Inv (s.tryNext attempt (info :: rest)) := by
  have hne : ∀ k y, s.sessions.lookup k = some y → k ≠ s.spawned :=
    fun k y hy => (h.fresh k y hy).ne
  have hkp : ∀ k y, s.sessions.lookup k = some y →
      (s.sessions.insert s.spawned ⟨info, .dialing, false⟩).lookup k = some y :=
    fun k y hy => (lookup_insert_ne (hne k y hy)).trans hy
  have ht : s.spawned ∈ owners (.connecting attempt s.spawned rest) := by
    cases attempt <;> simp [owners]
  -- whom the selector has a handle of
  have ho : ∀ k ∈ owners (.connecting attempt s.spawned rest),
      k = s.spawned ∨ attempt = .migrate k := by
    intro k hk
    cases attempt with
    | migrate old =>
      rcases mem_cons.1 hk with rfl | hk
      · exact .inr rfl
      · exact .inl (mem_singleton.1 hk)
    | _ => exact .inl (mem_singleton.1 hk)
  refine ⟨forall_lookup_insert (fun k y hy => ?_) (Nat.lt_succ_self _),
    forall_lookup_insert (fun k y hy hl => ?_) fun _ => ht,
    forall_lookup_insert h.aborted (by simp), fun k hk => ?_, ?_,
    fun k hk => ?_, fun att hatt => ?_⟩
  · exact (h.fresh k y hy).trans (Nat.lt_succ_self _)
  · obtain rfl := h.live k y hy hl
    exact mem_cons_self
  · rcases ho k hk with rfl | hm
    · exact ⟨_, lookup_insert _, rfl⟩
    · obtain ⟨y, hy, ha, -⟩ := h.old k hm
      exact ⟨y, hkp k y hy, ha⟩
  · cases attempt with
    | migrate old =>
      obtain ⟨y, hy, -⟩ := h.old old rfl
      exact nodup_cons.2 ⟨fun hmem => hne old y hy (mem_singleton.1 hmem), nodup_singleton _⟩
    | _ => exact nodup_singleton _
  · cases attempt with
    | migrate old =>
      obtain ⟨y, hy, -, hr⟩ := h.old old rfl
      rw [mem_singleton.1 hk]
      exact ⟨y, hkp old y hy, hr⟩
    | _ => cases hk
  · obtain ⟨k, y, rfl, hy, hh⟩ := h.slot att hatt
    exact ⟨k, y, .inr ⟨rfl, _, lookup_insert _, rfl⟩, hkp k y hy, hh⟩

lemma inv_tryNext (h : Ready s attempt) (rs : List RelayInfo) : Inv (s.tryNext attempt rs) := by
  cases rs with
  | nil => exact inv_exhausted h
  | cons info rest => exact inv_attempt h info rest

lemma Inv.ready_of_over (h : Inv s)
    (ho : ∀ k ∈ owners s.control, ∀ y, s.sessions.lookup k = some y → y.phase.over = true)
    (hatte : ∀ k, attempt ≠ .migrate k) : Ready s attempt := by
  refine ⟨h.fresh, fun k y hy hl => ?_, h.aborted, fun k hk => absurd hk (hatte k),
    fun att hatt => ?_⟩
  · rw [Session.stopped, ho k (h.live k y hy hl) y hy] at hl
    cases hl
  · obtain ⟨j, y, hj, hy, hh⟩ := h.slot att hatt
    have ha := hh.2.2
    rw [not_attached_of_over (ho j (mayHold_mem_owners hj) y hy)] at ha
    cases ha

lemma Inv.ready_of_no_owner {control} (h : Inv s) (hc : s.control = control)
    (ho : owners control = []) (ha : ∀ k, attempt ≠ .migrate k) : Ready s attempt := by
  refine h.ready_of_over (fun k hk => ?_) ha
  rw [hc, ho] at hk
  cases hk

lemma Inv.ready_of_ended (h : Inv s) (ho : owners s.control = [i])
    (hx : s.sessions.lookup i = some x) (hov : x.phase.over = true)
    (ha : ∀ k, attempt ≠ .migrate k) : Ready s attempt := by
  refine h.ready_of_over (fun k hk y hy => ?_) ha
  rw [ho] at hk
  obtain rfl := mem_singleton.1 hk
  cases hx.symm.trans hy
  exact hov

lemma Inv.ready_migrate (h : Inv s) (hc : s.control = .top (.connected i)) :
    Ready s (.migrate i) := by
  have hown : i ∈ owners s.control := by rw [hc]; exact mem_singleton.2 rfl
  have he : i ∈ established s.control := by rw [hc]; exact mem_singleton.2 rfl
  obtain ⟨x, hx, ha⟩ := h.owned i hown
  obtain ⟨x', hx', hr⟩ := h.settled i he
  cases hx.symm.trans hx'
  refine ⟨h.fresh, fun k y hy hl => ?_, h.aborted, fun k hk => ?_, fun att hatt => ?_⟩
  · have ho := h.live k y hy hl
    rw [hc] at ho
    rw [mem_singleton.1 ho]
  · obtain rfl := Attempt.migrate.inj hk
    exact ⟨x, hx, ha, hr⟩
  · obtain ⟨j, y, hj, hy, hh⟩ := h.slot att hatt
    rw [hc] at hj
    obtain rfl : j = i := hj
    exact ⟨j, y, rfl, hy, hh⟩

lemma lookup_abort (h : (s.abort i).sessions.lookup k = some y) :
    ∃ x, s.sessions.lookup k = some x ∧ y.phase = x.phase ∧
      (k = i ∧ y.aborted = true ∨ k ≠ i ∧ y = x) := by
  have h : (mapValues s.sessions _).lookup k = some y := h
  rw [lookup_mapValues] at h
  obtain ⟨x, hx, rfl⟩ := map_eq_some_iff.1 h
  grind

lemma lookup_abort_of_ne (hk : k ≠ i) : (s.abort i).sessions.lookup k = s.sessions.lookup k := by
  change (mapValues s.sessions _).lookup k = _
  rw [lookup_mapValues]
  cases s.sessions.lookup k with
  | none => rfl
  | some x => rw [map_some, if_neg hk]

section

variable (h : Inv s)
include h

lemma Inv.live_abort (hy : (s.abort i).sessions.lookup k = some y) (hl : y.stopped = false) :
    k ∈ owners s.control ∧ k ≠ i := by
  obtain ⟨x, hx, -, ⟨-, ha⟩ | ⟨hne, rfl⟩⟩ := lookup_abort hy
  · rw [Session.stopped, ha, Bool.or_true] at hl
    cases hl
  · exact ⟨h.live k y hx hl, hne⟩

lemma Inv.fresh_abort (hy : (s.abort i).sessions.lookup k = some y) : k < s.spawned := by
  obtain ⟨x, hx, -⟩ := lookup_abort hy
  exact h.fresh k x hx

lemma Inv.aborted_abort (hx : s.sessions.lookup i = some x) (hp : x.phase.pending = false)
    (hy : (s.abort i).sessions.lookup k = some y) (ha : y.aborted = true) :
    y.phase.pending = false := by
  obtain ⟨z, hz, hph, ⟨rfl, -⟩ | ⟨-, rfl⟩⟩ := lookup_abort hy
  · cases hx.symm.trans hz
    rw [hph]
    exact hp
  · exact h.aborted k y hz ha

lemma Inv.ready_refused (hc : s.control = .connecting attempt i rest)
    (hx : s.sessions.lookup i = some x) (hp : x.phase.pending = false)
    (hr : x.phase.registered = false) : Ready (s.abort i) attempt := by
  have ho : ∀ k ∈ owners s.control, k ≠ i → attempt = .migrate k := by
    intro k hk hne
    rw [hc] at hk
    cases attempt with
    | migrate old =>
      rcases mem_cons.1 hk with rfl | hk
      · rfl
      · exact absurd (mem_singleton.1 hk) hne
    | _ => exact absurd (mem_singleton.1 hk) hne
  have hold : ∀ k, attempt = .migrate k → k ≠ i ∧ k ∈ owners s.control ∧
      k ∈ established s.control := by
    rintro k rfl
    have hap := h.apart
    rw [hc] at hap ⊢
    refine ⟨?_, mem_cons_self, mem_singleton.2 rfl⟩
    exact fun heq => (nodup_cons.1 hap).1 (mem_singleton.2 heq)
  refine ⟨fun k y hy => h.fresh_abort hy, fun k y hy hl => ?_,
    fun k y hy => h.aborted_abort hx hp hy, fun k hk => ?_, fun att hatt => ?_⟩
  · obtain ⟨hk, hne⟩ := h.live_abort hy hl
    exact ho k hk hne
  · obtain ⟨hne, hown, he⟩ := hold k hk
    obtain ⟨y, hy, hab⟩ := h.owned k hown
    obtain ⟨y', hy', hreg⟩ := h.settled k he
    cases hy.symm.trans hy'
    exact ⟨y, (lookup_abort_of_ne hne).trans hy, hab, hreg⟩
  · obtain ⟨j, y, hj, hy, hh⟩ := h.slot att hatt
    have hne : j ≠ i := by
      rintro rfl
      cases hx.symm.trans hy
      have ha := hh.2.2
      rw [not_attached_of_dropped hp hr] at ha
      cases ha
    exact ⟨j, y, ho j (mayHold_mem_owners hj) hne, (lookup_abort_of_ne hne).trans hy, hh⟩

lemma Inv.of_owners (ho : owners control = owners s.control)
    (hs : ∀ k ∈ established control, ∃ y, s.sessions.lookup k = some y ∧ y.phase.registered = true)
    (hsl : ∀ j, MayHold s.sessions s.control j → MayHold s.sessions control j) :
    Inv { s with control := control } := by
  refine ⟨h.fresh, fun k y hy hl => ?_, h.aborted, fun k hk => h.owned k ?_, ?_, hs,
    fun att ha => ?_⟩
  · change k ∈ owners control
    rw [ho]
    exact h.live k y hy hl
  · rw [← ho]
    exact hk
  · change (owners control).Nodup
    rw [ho]
    exact h.apart
  · obtain ⟨j, y, hj, hy, hh⟩ := h.slot att ha
    exact ⟨j, y, hsl j hj, hy, hh⟩

lemma inv_drained (hc : s.control = .draining old new) :
    Inv { s.abort old with control := .top (.connected new) } := by
  have ho : owners s.control = [old, new] := by rw [hc]; rfl
  have he : established s.control = [old, new] := by rw [hc]; rfl
  have hne : new ≠ old := by
    have ha := h.apart
    rw [ho] at ha
    exact fun heq => (nodup_cons.1 ha).1 (mem_singleton.2 heq.symm)
  obtain ⟨x, hx, hreg⟩ := h.settled old (by rw [he]; exact mem_cons_self)
  refine ⟨fun k y hy => h.fresh_abort hy, fun k y hy hl => ?_,
    fun k y hy => h.aborted_abort hx (not_pending_of_registered hreg) hy, fun k hk => ?_,
    nodup_singleton new, fun k hk => ?_, fun att hatt => ?_⟩
  · obtain ⟨hk, hkl⟩ := h.live_abort hy hl
    rw [ho] at hk
    exact (mem_cons.1 hk).resolve_left hkl
  · rw [mem_singleton.1 hk]
    obtain ⟨y, hy, hab⟩ := h.owned new (by rw [ho]; simp)
    exact ⟨y, (lookup_abort_of_ne hne).trans hy, hab⟩
  · rw [mem_singleton.1 hk]
    obtain ⟨y, hy, hr⟩ := h.settled new (by rw [he]; simp)
    exact ⟨y, (lookup_abort_of_ne hne).trans hy, hr⟩
  · obtain ⟨j, y, hj, hy, hh⟩ := h.slot att hatt
    rw [hc] at hj
    obtain rfl : j = new := hj
    exact ⟨j, y, rfl, (lookup_abort_of_ne hne).trans hy, hh⟩

end

lemma inv_stopped (hf : ∀ k y, sessions.lookup k = some y → k < s.spawned)
    (hs : ∀ k y, sessions.lookup k = some y → y.stopped = true)
    (ha : ∀ k y, sessions.lookup k = some y → y.aborted = true → y.phase.pending = false) :
    Inv { s with sessions := sessions, slot := none, control := .stopped } := by
  refine ⟨hf, fun k y hy hl => ?_, ha, nofun, nodup_nil, nofun, nofun⟩
  rw [hs k y hy] at hl
  cases hl

section

variable (h : Inv s)
include h

lemma inv_stopOnTerminal (hs : step s .stopOnTerminal = some s') : Inv s' := by
  dsimp only [step] at hs
  split at hs
  · next a hc _ =>
    cases hs
    have ho : owners s.control = [a] := by rw [hc]; rfl
    obtain ⟨x, hx, hr⟩ := h.settled a (by rw [hc]; exact mem_singleton.2 rfl)
    refine inv_stopped (fun k y hy => h.fresh_abort hy) (fun k y hy => ?_)
      fun k y hy => h.aborted_abort hx (not_pending_of_registered hr) hy
    by_contra hl
    rw [Bool.not_eq_true] at hl
    obtain ⟨hk, hne⟩ := h.live_abort hy hl
    rw [ho] at hk
    exact hne (mem_singleton.1 hk)
  · next state hst hc _ =>
    cases hs
    refine inv_stopped h.fresh (fun k y hy => h.stopped_of_notMem hy fun hk => ?_) h.aborted
    rw [hc] at hk
    exact hst k (eq_connected_of_mem_owners hk)
  · cases hs

lemma inv_registered (hs : step s .registered = some s') : Inv s' := by
  dsimp only [step] at hs
  split at hs
  · next attempt k rest hc =>
    obtain ⟨x, hx, hr, hs⟩ := bind_ite_eq_some.1 hs
    split at hs
    · next old _ =>
      -- The signal arrives in a migration: the attachment is the new session's by now.
      cases hs
      have ho : owners s.control = [old, k] := by rw [hc]; rfl
      refine h.of_owners ho.symm (fun i hi => ?_) fun j hj => ?_
      · rcases mem_cons.1 hi with rfl | hi
        · exact h.settled i (by rw [hc]; exact mem_singleton.2 rfl)
        · rw [mem_singleton.1 hi]
          exact ⟨x, hx, hr⟩
      · rw [hc] at hj
        rcases hj with rfl | ⟨-, z, hz, ha⟩
        · rfl
        · cases hx.symm.trans hz
          rw [Phase.announced, hr, Bool.or_true] at ha
          cases ha
    · next hatt =>
      cases hs
      have ho : owners s.control = [k] := by
        rw [hc]
        cases attempt with
        | migrate old => exact absurd rfl (hatt old)
        | _ => rfl
      refine h.of_owners ho.symm (fun i hi => ?_) fun j hj => ?_
      · rw [mem_singleton.1 hi]
        exact ⟨x, hx, hr⟩
      · have hm := mayHold_mem_owners hj
        rw [ho] at hm
        exact mem_singleton.1 hm
  · cases hs

lemma inv_reprobed (hc : s.control = .top (.connected i)) (x : Session) (list : RelayList)
    (ranking : Option Ranking) (tgt : Option RelayInfo) :
    Inv (s.reprobed i x list ranking tgt) := by
  cases tgt with
  | none => exact h
  | some info => exact inv_tryNext (h.ready_migrate hc) _

lemma inv_listChange {tgt} (hs : step s (.listChange ranking tgt) = some s') : Inv s' := by
  dsimp only [step] at hs
  split at hs
  · next a list hc _ =>
    obtain ⟨x, -, rfl⟩ := map_eq_some_iff.1 hs
    have hl : Inv { s with list := s.pushed } := { h with }
    split
    · exact inv_reprobed hl hc x _ ranking tgt
    · exact inv_tryNext (hl.ready_migrate hc) _
  · cases hs

end

lemma inv_step {a} (h : Inv s) (hok : Tidy s a) (hs : step s a = some s') : Inv s' := by
  cases a <;> dsimp only [step] at hs
  case push list | terminal =>
    cases hs
    exact { h with }
  case session k e =>
    obtain ⟨x, hx, hs⟩ := bind_eq_some_iff.1 hs
    obtain ⟨p, haf, hm, ⟨⟩⟩ := bind_ite_eq_some.1 hs
    have hr : x.aborted = false → x.stopped = false := fun ha => by
      rw [Session.stopped, ha, over_after haf]
      rfl
    refine ⟨forall_lookup_insert h.fresh (h.fresh k x hx), forall_lookup_insert h.live fun hl => ?_,
      forall_lookup_insert h.aborted fun ha => ?_, fun i hi => ?_, h.apart, fun i hi => ?_,
      fun att hatt => slot_session h hx haf hm hok hatt⟩
    · exact h.live k x hx (hr (Bool.or_eq_false_iff.1 hl).2)
    · exact pending_after haf (h.aborted k x hx ha)
    · exact exists_lookup_insert hx (fun ha => ha) (h.owned i hi)
    · exact exists_lookup_insert hx (registered_after haf) (h.settled i hi)
  case receiveList =>
    split at hs <;> cases hs
    exact { h with }
  case stopOnTerminal => exact inv_stopOnTerminal h hs
  case bootstrap ranking nanos =>
    split at hs <;> cases hs
    next list hc _ => exact inv_tryNext (h.ready_of_no_owner hc rfl (by simp)) _
  case failover ranking =>
    split at hs
    · next a list hc _ =>
      obtain ⟨x, hx, hov, ⟨⟩⟩ := bind_ite_eq_some.1 hs
      have ho : owners s.control = [a] := by rw [hc]; rfl
      exact inv_tryNext (h.ready_of_ended ho hx hov (by simp)) _
    · cases hs
  case listChange ranking target => exact inv_listChange h hs
  case reprobe ranking target =>
    split at hs
    · next a list hc _ =>
      obtain ⟨x, -, rfl⟩ := map_eq_some_iff.1 hs
      exact inv_reprobed h hc x list ranking target
    · cases hs
  case wake changed =>
    split at hs <;> cases hs
    next hc =>
      have hds : Inv { s with control := .top .disconnected } :=
        h.of_owners (by rw [hc]; rfl) (by rintro _ ⟨⟩) fun j hj => by
          rw [hc] at hj
          exact hj
      exact { hds with }
  case registered => exact inv_registered h hs
  case refused =>
    split at hs
    · next attempt k rest hc =>
      obtain ⟨x, hx, hd, ⟨⟩⟩ := bind_ite_eq_some.1 hs
      rw [Bool.and_eq_true, Bool.not_eq_true', Bool.not_eq_true'] at hd
      exact inv_tryNext (h.ready_refused hc hx hd.1 hd.2) rest
    · cases hs
  case timeout =>
    split at hs <;> cases hs
    next list k rest hc =>
      have ho : owners s.control = [k] := by rw [hc]; rfl
      obtain ⟨x, hx, -⟩ := h.owned k (by rw [ho]; exact mem_singleton.2 rfl)
      have hov := hok.1 x (by rw [Action.abandons, hc]; exact hx)
      exact inv_tryNext (h.ready_of_ended ho hx hov (by simp)) rest
  case probed results =>
    split at hs <;> cases hs
    next list hc => exact inv_tryNext (h.ready_of_no_owner hc rfl (by simp)) _
  case drained =>
    split at hs <;> cases hs
    next hc => exact inv_drained h hc

lemma Inv.noStray (h : Inv s) : NoStray s := by
  unfold NoStray
  split
  · next state hc =>
    refine ⟨fun k y hy hne => h.stopped_of_notMem hy fun hk => ?_, fun att ha => ?_⟩
    · rw [hc] at hk
      exact hne (eq_connected_of_mem_owners hk)
    · obtain ⟨j, y, hj, hy, hh⟩ := h.slot att ha
      have ho := mayHold_mem_owners hj
      rw [hc] at ho
      exact ⟨j, y, eq_connected_of_mem_owners ho, hy, hh.1, hh.2.1⟩
  · next hc =>
    intro k y hy
    refine h.stopped_of_notMem hy fun hk => ?_
    rw [hc] at hk
    cases hk
  · trivial

end Selector

/-- When no attempt is given up while its session runs, and none panics while it is published, the
selector leaves no stray session. -/
theorem noStray_of_tidy (list : Option RelayList) (acts : List Action)
    (hok : Meets step Tidy (start list) acts) :
    Always step (fun _ _ s' => NoStray s') (start list) acts :=
  always_of_meets (fun _ _ _ h hok hs => inv_step h hok hs)
    (fun _ _ _ h hok hs => (inv_step h hok hs).noStray) (inv_start list) hok

/-! ### Three relays -/

def relay (id : String) : RelayInfo := ⟨id, "spiffe://zecurity.in/relay/" ++ id, .high⟩

def attachedTo (id : String) : RelayAttachment := ⟨id, "spiffe://zecurity.in/relay/" ++ id⟩

def threeRelays : Option RelayList := some ⟨1, [relay "a", relay "b", relay "c"]⟩

def comesUp (i : SessionId) : List Action :=
  [.session i .publish, .session i .signal, .registered]

def ends (i : SessionId) : List Action :=
  [.session i .close, .session i .clear, .session i .finish]

def begins : List Action := .bootstrap none 0 :: comesUp 0

/-- It migrates to the second and loses it. Of the ranking the third does not come up and the second
has failed when the budget is over; the first comes up. -/
def survives : List Action :=
  begins ++ Action.reprobe none (some (relay "b")) :: comesUp 1 ++
    [Action.drained, .session 0 .cancel] ++ ends 1 ++
    [Action.failover (some ⟨1, true, ["c", "b", "a"]⟩), .session 2 .fail, .refused,
      .session 3 .fail, .session 3 .clear, .session 3 .finish, .timeout] ++ comesUp 4

theorem noStray_survives_and_stops :
    Meets step Tidy (start threeRelays) (survives ++ [.terminal, .stopOnTerminal]) ∧
      Always step (fun _ _ s' => NoStray s') (start threeRelays)
        (survives ++ [.terminal, .stopOnTerminal]) ∧
      (exec step (start threeRelays) survives).map (fun s => (s.control, s.slot)) =
        some (.top (.connected 4), some (attachedTo "a")) ∧
      (exec step (start threeRelays) (survives ++ [.terminal, .stopOnTerminal])).map
        (fun s => (s.control, s.slot)) = some (.stopped, none) := by
  have hm : Meets step Tidy (start threeRelays)
      (survives ++ [Action.terminal, .stopOnTerminal]) := by decide +kernel
  exact ⟨hm, noStray_of_tidy _ _ hm, by decide +kernel, by decide +kernel⟩

/-- The first relay is lost. The budget of the attempt at the second is over while it dials; the
third comes up. -/
def abandonsSecond : List Action :=
  begins ++ ends 0 ++ [Action.failover (some ⟨1, true, ["b", "c"]⟩), .timeout] ++ comesUp 2

/-- The session of the first relay panics; no other relay answers. -/
def panicsAlone : List Action :=
  begins ++ [Action.session 0 .crash, .failover none, .probed []]

/-- The abandoned session dials on while the third relay is active; it publishes its own relay and
outlives the selector. The relay of the panicked session stays published. -/
theorem abandoned_session_strays :
    (∃ u, exec step (start threeRelays) abandonsSecond = some u ∧ u.control = .top (.connected 2) ∧
      u.sessions.lookup 1 = some ⟨relay "b", .dialing, false⟩ ∧ ¬ NoStray u) ∧
    (∃ u, exec step (start threeRelays) (abandonsSecond ++ [.session 1 .publish]) = some u ∧
      u.control = .top (.connected 2) ∧ u.slot = some (attachedTo "b") ∧
      (u.sessions.lookup 2).map (·.info) = some (relay "c")) ∧
    (∃ u, exec step (start threeRelays)
        (abandonsSecond ++ [.session 1 .publish, .terminal, .stopOnTerminal]) = some u ∧
      u.control = .stopped ∧
      u.sessions.lookup 1 = some ⟨relay "b", .published, false⟩ ∧ ¬ NoStray u) ∧
    ∃ u, exec step (start threeRelays) panicsAlone = some u ∧ u.control = .top .backoff ∧
      u.slot = some (attachedTo "a") ∧ ¬ NoStray u := by
  refine ⟨?_, ?_, ?_, ?_⟩
  · obtain ⟨u, hu, hc, hs⟩ :
        ∃ u, exec step (start threeRelays) abandonsSecond = some u ∧
          u.control = .top (.connected 2) ∧
          u.sessions.lookup 1 = some ⟨relay "b", .dialing, false⟩ := by decide +kernel
    refine ⟨u, hu, hc, hs, fun hno => ?_⟩
    rw [NoStray, hc] at hno
    exact absurd (hno.1 1 _ hs (by decide)) (by decide)
  · decide +kernel
  · obtain ⟨u, hu, hc, hs⟩ : ∃ u, exec step (start threeRelays)
          (abandonsSecond ++ [Action.session 1 .publish, .terminal, .stopOnTerminal]) = some u ∧
        u.control = .stopped ∧ u.sessions.lookup 1 = some ⟨relay "b", .published, false⟩ := by
      decide +kernel
    refine ⟨u, hu, hc, hs, fun hno => ?_⟩
    rw [NoStray, hc] at hno
    exact absurd (hno 1 _ hs) (by decide)
  · obtain ⟨u, hu, hc, hsl⟩ : ∃ u, exec step (start threeRelays) panicsAlone = some u ∧
        u.control = .top .backoff ∧ u.slot = some (attachedTo "a") := by decide +kernel
    refine ⟨u, hu, hc, hsl, fun hno => ?_⟩
    rw [NoStray, hc] at hno
    obtain ⟨i, x, hi, -⟩ := hno.2 _ hsl
    cases hi

end Zecurity.RelaySelector
